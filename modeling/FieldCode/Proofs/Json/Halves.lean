import FieldCode.Json.Reader
import Mathlib.Data.List.Chain

/-!
# Halves that meet

A text can hold halves of surrogate pairs, and a printed text is written by its units in UTF-16, so
one thing about a text is lost in print: a first half directly before a second one reads as the
character that the two make up.  Nothing else is lost, and a text that was read has no two halves that
meet.

* `Text.rejoined`: the text that is read back, and `Text.rejoined_of_isJoined`: it is the text itself
  if no two halves meet in it.
* `Json.isJoined_joinHalves`: in a text that was read no two halves meet.
* Texts in which no two halves meet can be put together around any string: the simp lemmas of the
  last section take such a text apart.
-/

namespace FieldCode

/-- The rune is the first half of a surrogate pair. -/
def Rune.IsHigh (r : Rune) : Prop :=
  Json.isHighHalf r.code = true

/-- The rune is the second half of a surrogate pair. -/
def Rune.IsLow (r : Rune) : Prop :=
  Json.isLowHalf r.code = true

instance (r : Rune) : Decidable r.IsHigh :=
  inferInstanceAs (Decidable (Json.isHighHalf r.code = true))

instance (r : Rune) : Decidable r.IsLow :=
  inferInstanceAs (Decidable (Json.isLowHalf r.code = true))

/-- The units of a rune in UTF-16. -/
def Rune.units : Rune → List Nat
  | .char c =>
    if c.toNat < 0x10000 then [c.toNat]
    else [0xd800 + (c.toNat - 0x10000) / 0x400, 0xdc00 + (c.toNat - 0x10000) % 0x400]
  | .half n => [(Rune.half n).code]

namespace Text

/-- The units of a text in UTF-16. -/
def units (t : Text) : List Nat :=
  t.flatMap Rune.units

/-- What a text is read back as from its units. -/
def rejoined (t : Text) : Text :=
  Json.joinHalves t.units

/-- No first half stands directly before a second one. -/
def IsJoined (t : Text) : Prop :=
  t.IsChain fun a b => ¬ (a.IsHigh ∧ b.IsLow)

instance (t : Text) : Decidable t.IsJoined :=
  inferInstanceAs (Decidable (t.IsChain fun a b => ¬ (a.IsHigh ∧ b.IsLow)))

end Text

/-! ## Code points -/

namespace Json

theorem isHighHalf_iff {n : Nat} : isHighHalf n = true ↔ 0xd800 ≤ n ∧ n < 0xdc00 := by
  rw [isHighHalf, Bool.and_eq_true, decide_eq_true_iff, decide_eq_true_iff]
  omega

theorem isLowHalf_iff {n : Nat} : isLowHalf n = true ↔ 0xdc00 ≤ n ∧ n < 0xe000 := by
  rw [isLowHalf, Bool.and_eq_true, decide_eq_true_iff, decide_eq_true_iff]
  omega

end Json

namespace Rune

theorem isHigh_iff {r : Rune} : r.IsHigh ↔ 0xd800 ≤ r.code ∧ r.code < 0xdc00 :=
  Json.isHighHalf_iff

theorem isLow_iff {r : Rune} : r.IsLow ↔ 0xdc00 ≤ r.code ∧ r.code < 0xe000 :=
  Json.isLowHalf_iff

/-- A character is no half of a surrogate pair, and its code point is in range. -/
theorem toNat_cases (c : Char) :
    c.toNat < 0xd800 ∨ 0xe000 ≤ c.toNat ∧ c.toNat < 0x110000 := by
  rcases c.valid with h | ⟨hlow, hhigh⟩
  · exact Or.inl h
  · exact Or.inr ⟨Nat.succ_le_of_lt hlow, hhigh⟩

@[simp]
theorem not_isHigh_char (c : Char) : ¬ (char c).IsHigh := by
  have hc := toNat_cases c
  rw [isHigh_iff, code]
  omega

@[simp]
theorem not_isLow_char (c : Char) : ¬ (char c).IsLow := by
  have hc := toNat_cases c
  rw [isLow_iff, code]
  omega

theorem ofCode_code (r : Rune) : ofCode r.code = r := by
  cases r with
  | char c =>
    have hc := toNat_cases c
    rw [code, ofCode, dif_neg (by omega), if_pos (by omega), Char.ofNat_toNat]
  | half n =>
    have hn := n.isLt
    rw [code, ofCode, dif_pos ⟨Nat.le_add_right _ _, by omega⟩]
    simp only [Nat.add_sub_cancel_left, Fin.eta]

/-- The code point of a rune that is half of a pair is the one it was made from. -/
theorem code_ofCode {n : Nat} (h : 0xd800 ≤ (ofCode n).code ∧ (ofCode n).code < 0xe000) :
    (ofCode n).code = n := by
  revert h
  unfold ofCode
  split_ifs with hhalf hrange
  · intro _
    rw [code]
    exact Nat.add_sub_of_le hhalf.1
  · intro h
    have hc := toNat_cases (Char.ofNat n)
    rw [code] at h
    omega
  · intro h
    have hc := toNat_cases '\ufffd'
    rw [code] at h
    omega

end Rune

/-! ## Joining -/

namespace Json

theorem joinHalves_cons_of_not_high {n : Nat} (h : isHighHalf n = false) (us : List Nat) :
    joinHalves (n :: us) = Rune.ofCode n :: joinHalves us := by
  cases us with
  | nil => rfl
  | cons m us => simp [joinHalves, h]

theorem joinHalves_cons_of_not_low {n : Nat} {us : List Nat}
    (h : ∀ m ∈ us.head?, isLowHalf m = false) :
    joinHalves (n :: us) = Rune.ofCode n :: joinHalves us := by
  cases us with
  | nil => rfl
  | cons m us => simp [joinHalves, h m rfl]

theorem joinHalves_pair {n m : Nat} (hn : isHighHalf n = true) (hm : isLowHalf m = true)
    (us : List Nat) : joinHalves (n :: m :: us) =
      .char (Char.ofNat (0x10000 + (n - 0xd800) * 0x400 + (m - 0xdc00))) :: joinHalves us := by
  simp [joinHalves, hn, hm]

/-- What stands first in a joined text is a second half only if it was one in the units. -/
theorem not_isLow_head?_joinHalves {us : List Nat} (h : ∀ m ∈ us.head?, isLowHalf m = false) :
    ∀ r ∈ (joinHalves us).head?, ¬ r.IsLow := by
  intro r hr hlow
  have hcode : ∀ m : Nat, us.head? = some m → r = Rune.ofCode m → False := by
    intro m hm hrm
    have hlow' := Rune.isLow_iff.mp hlow
    rw [hrm] at hlow'
    rw [hrm, Rune.IsLow, Rune.code_ofCode (by omega), h m hm] at hlow
    exact Bool.false_ne_true hlow
  match us with
  | [] => cases hr
  | [n] => exact hcode n rfl (Option.some.inj hr).symm
  | n :: m :: us =>
    rw [joinHalves] at hr
    split_ifs at hr with hpair
    · rw [← Option.some.inj hr] at hlow
      exact Rune.not_isLow_char _ hlow
    · exact hcode n rfl (Option.some.inj hr).symm

theorem isJoined_joinHalves (us : List Nat) : (joinHalves us).IsJoined := by
  induction us using joinHalves.induct with
  | case1 => exact List.isChain_nil
  | case2 n => exact List.isChain_singleton _
  | case3 n m us hpair ih =>
    rw [Bool.and_eq_true] at hpair
    rw [joinHalves_pair hpair.1 hpair.2, Text.IsJoined, List.isChain_cons]
    exact ⟨fun r _ h => Rune.not_isHigh_char _ h.1, ih⟩
  | case4 n m us hpair ih =>
    rw [joinHalves, if_neg hpair, Text.IsJoined, List.isChain_cons]
    refine ⟨fun r hr h => ?_, ih⟩
    have hhigh := Rune.isHigh_iff.mp h.1
    have hn : isHighHalf n = true := by
      rw [← Rune.code_ofCode (n := n) (by omega)]
      exact h.1
    have hlow : ∀ u ∈ (m :: us).head?, isLowHalf u = false := by
      rintro _ ⟨⟩
      exact Bool.eq_false_iff.mpr fun hm => hpair (by rw [hn, hm]; rfl)
    exact not_isLow_head?_joinHalves hlow r hr h.2

end Json

namespace Rune

/-- The units of a character beyond the first 65536 are two halves, which make it up again. -/
theorem joinHalves_units_char {c : Char} (us : List Nat) :
    Json.joinHalves ((char c).units ++ us) = char c :: Json.joinHalves us := by
  have hc := toNat_cases c
  rw [units]
  split_ifs with hsmall
  · have hhigh : Json.isHighHalf c.toNat = false :=
      Bool.eq_false_iff.mpr (not_isHigh_char c)
    exact (Json.joinHalves_cons_of_not_high hhigh us).trans (by rw [← code, ofCode_code])
  · have hhigh : Json.isHighHalf (0xd800 + (c.toNat - 0x10000) / 0x400) = true :=
      Json.isHighHalf_iff.mpr (by omega)
    have hlow : Json.isLowHalf (0xdc00 + (c.toNat - 0x10000) % 0x400) = true :=
      Json.isLowHalf_iff.mpr (by omega)
    refine (Json.joinHalves_pair hhigh hlow us).trans ?_
    rw [show 0x10000 + (0xd800 + (c.toNat - 0x10000) / 0x400 - 0xd800) * 0x400 +
      (0xdc00 + (c.toNat - 0x10000) % 0x400 - 0xdc00) = c.toNat by omega, Char.ofNat_toNat]

/-- The first unit of a rune is a second half only if the rune is. -/
theorem isLowHalf_head?_units {r : Rune} (h : ¬ r.IsLow) (us : List Nat) :
    ∀ m ∈ (r.units ++ us).head?, Json.isLowHalf m = false := by
  intro m hm
  cases r with
  | char c =>
    have hc := toNat_cases c
    rw [Bool.eq_false_iff, ne_eq, Json.isLowHalf_iff]
    rw [units] at hm
    split_ifs at hm with hsmall
    · have hm' : c.toNat = m := Option.some.inj hm
      omega
    · have hm' : 0xd800 + (c.toNat - 0x10000) / 0x400 = m := Option.some.inj hm
      omega
  | half n =>
    rw [← Option.some.inj hm]
    exact Bool.eq_false_iff.mpr h

end Rune

namespace Text

theorem units_cons (r : Rune) (t : Text) : units (r :: t) = r.units ++ units t :=
  List.flatMap_cons

/-- The units of a text begin with a second half only if the text does. -/
theorem isLowHalf_head?_units {t : Text} (h : ∀ r ∈ t.head?, ¬ r.IsLow) :
    ∀ m ∈ (units t).head?, Json.isLowHalf m = false := by
  cases t with
  | nil => exact fun m hm => absurd hm (Option.not_mem_none m)
  | cons r t =>
    rw [units_cons]
    exact Rune.isLowHalf_head?_units (h r rfl) (units t)

theorem rejoined_cons_char (c : Char) (t : Text) :
    rejoined (.char c :: t) = .char c :: rejoined t := by
  rw [rejoined, units_cons, Rune.joinHalves_units_char, rejoined]

theorem rejoined_cons_half {n : Fin 2048} {t : Text}
    (h : ∀ r ∈ t.head?, ¬ ((Rune.half n).IsHigh ∧ r.IsLow)) :
    rejoined (.half n :: t) = .half n :: rejoined t := by
  have hcode : Json.joinHalves ((Rune.half n).code :: units t) =
      Rune.ofCode (Rune.half n).code :: Json.joinHalves (units t) := by
    by_cases hhigh : (Rune.half n).IsHigh
    · -- the next rune is no second half, so its first unit is none
      refine Json.joinHalves_cons_of_not_low (isLowHalf_head?_units fun r hr hlow => ?_)
      exact h r hr ⟨hhigh, hlow⟩
    · exact Json.joinHalves_cons_of_not_high (Bool.eq_false_iff.mpr hhigh) (units t)
  rw [Rune.ofCode_code] at hcode
  exact hcode

/-- **A text in which no two halves meet is read back unchanged.** -/
theorem rejoined_of_isJoined {t : Text} (h : t.IsJoined) : rejoined t = t := by
  induction t with
  | nil => rfl
  | cons r t ih =>
    rw [IsJoined, List.isChain_cons] at h
    cases r with
    | char c => rw [rejoined_cons_char, ih h.2]
    | half n => rw [rejoined_cons_half h.1, ih h.2]

end Text

/-! ## Texts in which no two halves meet -/

namespace Text

variable {s : String} {t u : Text}

@[simp]
theorem isJoined_nil : IsJoined [] :=
  List.isChain_nil

@[simp]
theorem isJoined_ofChars (cs : List Char) : (ofChars cs).IsJoined := by
  induction cs with
  | nil => exact isJoined_nil
  | cons c cs ih =>
    rw [IsJoined, ofChars, List.map_cons, List.isChain_cons]
    exact ⟨fun r _ h => Rune.not_isHigh_char c h.1, ih⟩

@[simp]
theorem isJoined_ofString (s : String) : (ofString s).IsJoined :=
  isJoined_ofChars s.toList

theorem isJoined_append_iff : (t ++ u).IsJoined ↔
    t.IsJoined ∧ u.IsJoined ∧ ∀ a ∈ t.getLast?, ∀ b ∈ u.head?, ¬ (a.IsHigh ∧ b.IsLow) :=
  List.isChain_append

@[simp]
theorem isJoined_ofString_append : (ofString s ++ u).IsJoined ↔ u.IsJoined := by
  rw [isJoined_append_iff]
  refine ⟨fun h => h.2.1, fun h => ⟨isJoined_ofString s, h, fun a ha b _ hab => ?_⟩⟩
  obtain ⟨c, -, rfl⟩ := List.mem_map.mp (List.mem_of_getLast? ha)
  exact Rune.not_isHigh_char c hab.1

@[simp]
theorem isJoined_append_ofString : (t ++ ofString s).IsJoined ↔ t.IsJoined := by
  rw [isJoined_append_iff]
  refine ⟨fun h => h.1, fun h => ⟨h, isJoined_ofString s, fun a _ b hb hab => ?_⟩⟩
  obtain ⟨c, -, rfl⟩ := List.mem_map.mp (List.mem_of_head? hb)
  exact Rune.not_isLow_char c hab.2

@[simp]
theorem isJoined_append_ofString_append (hs : s ≠ "") :
    (t ++ (ofString s ++ u)).IsJoined ↔ t.IsJoined ∧ u.IsJoined := by
  rw [isJoined_append_iff, isJoined_ofString_append]
  refine ⟨fun h => ⟨h.1, h.2.1⟩, fun h => ⟨h.1, h.2, fun a _ b hb hab => ?_⟩⟩
  have hne : ofString s ≠ [] := fun h0 => hs (String.toList_eq_nil_iff.mp (List.map_eq_nil_iff.mp h0))
  rw [List.head?_append_of_ne_nil _ hne] at hb
  obtain ⟨c, -, rfl⟩ := List.mem_map.mp (List.mem_of_head? hb)
  exact Rune.not_isLow_char c hab.2

theorem IsJoined.infix (h : t.IsJoined) (hu : u <:+: t) : IsJoined u :=
  List.IsChain.infix h hu

/-- No first half of a pair is in the text. -/
def LacksHigh (t : Text) : Prop :=
  ∀ r ∈ t, ¬ r.IsHigh

@[simp]
theorem lacksHigh_nil : LacksHigh [] :=
  List.forall_mem_nil _

@[simp]
theorem lacksHigh_char_cons {c : Char} : LacksHigh (.char c :: t) ↔ LacksHigh t := by
  simp [LacksHigh]

@[simp]
theorem lacksHigh_append : LacksHigh (t ++ u) ↔ LacksHigh t ∧ LacksHigh u :=
  List.forall_mem_append

@[simp]
theorem lacksHigh_ofChars (cs : List Char) : LacksHigh (ofChars cs) := by
  rintro r hr
  obtain ⟨c, -, rfl⟩ := List.mem_map.mp hr
  exact Rune.not_isHigh_char c

@[simp]
theorem lacksHigh_ofString (s : String) : LacksHigh (ofString s) :=
  lacksHigh_ofChars s.toList

theorem LacksHigh.isJoined (h : LacksHigh t) : IsJoined t := by
  induction t with
  | nil => exact isJoined_nil
  | cons r t ih =>
    rw [IsJoined, List.isChain_cons]
    obtain ⟨hr, ht⟩ := List.forall_mem_cons.mp h
    exact ⟨fun _ _ hmeet => hr hmeet.1, ih ht⟩

end Text

end FieldCode
