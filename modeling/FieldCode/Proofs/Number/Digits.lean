import FieldCode.Default
import Mathlib.Data.List.TakeWhile
import Mathlib.Tactic.IntervalCases

/-!
# Digits and the characters of numbers

Every text that is written for a number consists of `numberChars`, and on those the preparations of
a reader do nothing: they are plain, none of them is a blank, and lower-casing is a map.  The lemmas
of the first section pass through these preparations; the others are about runs of digits alone.

* `Numeral.ofAscii_toDigits`: the digits of a number write it.
* `pow_length_toDigits_le`, `lt_pow_length_toDigits`: how large a number of so many digits is.
* `Text.ofInt_injective`: the text of an integer tells which it is.
-/

namespace FieldCode

/-! ## Characters of numbers -/

/-- The characters that numbers are written with, before and after lower-casing. -/
def numberChars : List Char :=
  ['0', '1', '2', '3', '4', '5', '6', '7', '8', '9', '-', '+', '.', 'E', 'e']

/-- What holds of the characters of numbers is found by trying them. -/
theorem forall_mem_numberChars {P : Char → Prop} [DecidablePred P]
    (h : numberChars.all (fun c => decide (P c)) = true) : ∀ c ∈ numberChars, P c := fun c hc =>
  of_decide_eq_true (List.all_eq_true.mp h c hc)

theorem toNat_of_isDigit {c : Char} (h : c.isDigit = true) : 48 ≤ c.toNat ∧ c.toNat ≤ 57 := by
  simp only [Char.isDigit, Bool.and_eq_true, decide_eq_true_eq, UInt32.le_iff_toNat_le] at h
  exact h

theorem mem_numberChars_of_isDigit {c : Char} (h : c.isDigit = true) : c ∈ numberChars := by
  obtain ⟨hlow, hhigh⟩ := toNat_of_isDigit h
  rw [← Char.ofNat_toNat c]
  generalize c.toNat = n at hlow hhigh
  interval_cases n <;> decide

theorem subset_numberChars_of_isDigit {ds : List Char} (h : ∀ d ∈ ds, d.isDigit = true) :
    ds ⊆ numberChars := fun d hd => mem_numberChars_of_isDigit (h d hd)

/-- What surrounds a list that neither begins nor ends with a member of the class is trimmed off. -/
theorem Text.trimBy_around {α : Type} {p : α → Bool} {before as after : List α}
    (hbefore : ∀ a ∈ before, p a = true) (hafter : ∀ a ∈ after, p a = true)
    (hfirst : ∀ a ∈ as.head?, p a = false) (hlast : ∀ a ∈ as.getLast?, p a = false) :
    Text.trimBy p (before ++ as ++ after) = as := by
  have hdrop : ∀ {front bs : List α}, (∀ a ∈ front, p a = true) → (∀ a ∈ bs.head?, p a = false) →
      ∀ rest, bs ≠ [] → (front ++ (bs ++ rest)).dropWhile p = bs ++ rest := by
    intro front bs hfront hbs rest hne
    obtain ⟨b, bs, rfl⟩ := List.exists_cons_of_ne_nil hne
    rw [List.dropWhile_append_of_pos hfront]
    exact List.dropWhile_cons_of_neg (by simp [hbs b rfl])
  by_cases hne : as = []
  · have hall : ∀ a ∈ before ++ [] ++ after, p a = true := by
      simpa [or_imp, forall_and] using ⟨hbefore, hafter⟩
    rw [hne, Text.trimBy, List.dropWhile_eq_nil_iff.mpr hall]
    rfl
  · have hreverse : ∀ a ∈ as.reverse.head?, p a = false := by
      rwa [List.head?_reverse]
    rw [Text.trimBy, List.append_assoc, hdrop hbefore hfirst after hne, List.reverse_append,
      ← List.append_nil as.reverse,
      hdrop (fun a ha => hafter a (List.mem_reverse.mp ha)) hreverse [] (by simpa using hne),
      List.append_nil, List.reverse_reverse]

theorem Text.trimBy_eq_self {α : Type} {p : α → Bool} {as : List α} (h : ∀ a ∈ as, p a = false) :
    Text.trimBy p as = as := by
  have haround := @Text.trimBy_around α p [] as [] (fun _ h => nomatch h) (fun _ h => nomatch h)
    (fun a ha => h a (List.mem_of_mem_head? ha)) (fun a ha => h a (List.mem_of_getLast? ha))
  rwa [List.nil_append, List.append_nil] at haround

section Prepared

variable {cs : List Char}

theorem Numeral.plain_ofChars_of_forall (h : ∀ c ∈ cs, Numeral.plainRune (.char c) = c) :
    Numeral.plain (Text.ofChars cs) = cs := by
  rw [Numeral.plain, Text.ofChars, List.map_map]
  exact (List.map_congr_left h).trans (List.map_id cs)

theorem Numeral.plain_ofChars (h : cs ⊆ numberChars) :
    Numeral.plain (Text.ofChars cs) = cs := by
  have hchar : ∀ c ∈ numberChars, Numeral.plainRune (.char c) = c :=
    forall_mem_numberChars (by decide +kernel)
  exact Numeral.plain_ofChars_of_forall fun c hc => hchar c (h hc)

theorem Text.trim_ofChars (h : cs ⊆ numberChars) :
    Text.trim (Text.ofChars cs) = Text.ofChars cs := by
  have hchar : ∀ c ∈ numberChars, Text.isBlank (.char c) = false :=
    forall_mem_numberChars (by decide +kernel)
  refine Text.trimBy_eq_self fun r hr => ?_
  obtain ⟨c, hc, rfl⟩ := List.mem_map.mp hr
  exact hchar c (h hc)

theorem Text.underscore_notMem_ofChars (h : cs ⊆ numberChars) :
    (Text.ofChars cs).contains (.char '_') = false := by
  have hchar : '_' ∉ numberChars := by decide
  rw [List.contains_eq_mem, decide_eq_false_iff_not]
  intro hmem
  obtain ⟨c, hc, heq⟩ := List.mem_map.mp hmem
  rw [Rune.char.injEq] at heq
  exact hchar (heq ▸ h hc)

theorem Text.lower_ofChars (h : cs ⊆ numberChars) :
    Text.lower (Text.ofChars cs) = Text.ofChars (cs.map Char.toLower) := by
  have hchar : ∀ c ∈ numberChars, c.toNat < 128 := forall_mem_numberChars (by decide)
  have hfrom : ∀ passed, Text.lowerFrom passed (Text.ofChars cs) =
      Text.ofChars (cs.map Char.toLower) := by
    induction cs with
    | nil => intro passed; rfl
    | cons c cs ih =>
      intro passed
      have hc := hchar c (h (List.mem_cons_self ..))
      have hcode : ¬ (Rune.char c).code = 0x3a3 := by
        show ¬ c.toNat = 0x3a3
        omega
      show (if (Rune.char c).code = 0x3a3 then _ else Text.lowerRune (.char c)) ++ _ = _
      rw [if_neg hcode, Text.lowerRune, if_pos hc, List.singleton_append]
      exact congrArg _ (ih (List.subset_of_cons_subset h) _)
  exact hfrom []

end Prepared

/-! ## Numbers from digits -/

namespace Numeral

theorem ofAscii_eq_ofDigitChars (ds : List Char) : ofAscii ds = Nat.ofDigitChars 10 ds 0 := by
  rw [ofAscii, Text.ofDigits, List.foldl_map, Nat.ofDigitChars]
  simp only [Nat.mul_comm]

@[simp]
theorem ofAscii_toDigits (n : Nat) : ofAscii (Nat.toDigits 10 n) = n := by
  rw [ofAscii_eq_ofDigitChars, Nat.ofDigitChars_ten_toDigits]

theorem ofAscii_append (ds es : List Char) :
    ofAscii (ds ++ es) = ofAscii ds * 10 ^ es.length + ofAscii es := by
  simp only [ofAscii_eq_ofDigitChars]
  rw [Nat.ofDigitChars_append, Nat.ofDigitChars_eq_ofDigitChars_zero, Nat.mul_comm]

@[simp]
theorem ofAscii_zeros (k : Nat) : ofAscii (List.replicate k '0') = 0 := by
  rw [ofAscii_eq_ofDigitChars, Nat.ofDigitChars_replicate_zero, Nat.mul_zero]

theorem ofAscii_lt {ds : List Char} (h : ∀ d ∈ ds, d.isDigit = true) :
    ofAscii ds < 10 ^ ds.length := by
  induction ds with
  | nil => decide
  | cons d ds ih =>
    have hd := toNat_of_isDigit (h d (List.mem_cons_self ..))
    have hds := ih fun d' hd' => h d' (List.mem_cons_of_mem d hd')
    have hone : ofAscii [d] ≤ 9 := by
      show 0 * 10 + (d.toNat - 48) ≤ 9
      omega
    calc ofAscii (d :: ds) = ofAscii [d] * 10 ^ ds.length + ofAscii ds := ofAscii_append [d] ds
      _ < 9 * 10 ^ ds.length + 10 ^ ds.length := by
        have := Nat.mul_le_mul_right (10 ^ ds.length) hone
        omega
      _ = 10 ^ (d :: ds).length := by rw [List.length_cons, Nat.pow_succ]; omega

end Numeral

/-! ## Digits of numbers -/

theorem isDigit_toDigits (n : Nat) : ∀ d ∈ Nat.toDigits 10 n, d.isDigit = true := fun _ =>
  Nat.isDigit_of_mem_toDigits (by decide) (by decide)

theorem toDigits_injective : Function.Injective (Nat.toDigits 10) := by
  intro n m h
  rw [← Numeral.ofAscii_toDigits n, h, Numeral.ofAscii_toDigits]

theorem Numeral.fits_iff {n : Int} : Numeral.Fits n ↔ n.natAbs < 10 ^ Numeral.maxDigits := by
  rw [Numeral.Fits, Nat.pow_eq]

/-- A number is below the power of ten with its number of digits. -/
theorem lt_pow_length_toDigits (n : Nat) : n < 10 ^ (Nat.toDigits 10 n).length :=
  (Nat.length_toDigits_le_iff (by decide) Nat.length_toDigits_pos).mp le_rfl

/-- A number that is not zero reaches the power of ten below that. -/
theorem pow_length_toDigits_le {n : Nat} (h : n ≠ 0) :
    10 ^ ((Nat.toDigits 10 n).length - 1) ≤ n := by
  by_contra hlt
  rw [Nat.not_le] at hlt
  by_cases hone : (Nat.toDigits 10 n).length - 1 = 0
  · rw [hone] at hlt
    omega
  · have hle := (Nat.length_toDigits_le_iff (by decide) (Nat.pos_of_ne_zero hone)).mpr hlt
    omega

/-- Only zero has digits that begin with a zero, and it has just the one. -/
theorem toDigits_eq_zero_cons {n : Nat} {ds : List Char} (h : Nat.toDigits 10 n = '0' :: ds) :
    ds = [] := by
  by_contra hne
  have hpos := List.length_pos_iff.mpr hne
  have hdigits : ∀ d ∈ ds, d.isDigit = true := fun d hd =>
    isDigit_toDigits n d (h ▸ List.mem_cons_of_mem _ hd)
  have hvalue : n = Numeral.ofAscii ds := by
    rw [← Numeral.ofAscii_toDigits n, h]
    exact (Numeral.ofAscii_append ['0'] ds).trans
      (by rw [show Numeral.ofAscii ['0'] = 0 from rfl]; omega)
  have hlength := (Nat.length_toDigits_le_iff (by decide) hpos).mpr
    (hvalue ▸ Numeral.ofAscii_lt hdigits)
  rw [h, List.length_cons] at hlength
  omega

/-! ## Integers -/

theorem toDigits_subset (n : Nat) : Nat.toDigits 10 n ⊆ numberChars :=
  subset_numberChars_of_isDigit (isDigit_toDigits n)

theorem integerText_subset (n : Int) : integerText n ⊆ numberChars := by
  rw [integerText]
  split
  · exact List.cons_subset.mpr ⟨by decide, toDigits_subset n.natAbs⟩
  · exact toDigits_subset n.natAbs

theorem Numeral.sign_of_isDigit {c : Char} (h : c.isDigit = true) (cs : List Char) :
    Numeral.sign (c :: cs) = (false, c :: cs) := by
  unfold Numeral.sign
  split
  · rename_i heq
    rw [(List.cons.inj heq).1] at h
    cases h
  · rename_i heq
    rw [(List.cons.inj heq).1] at h
    cases h
  · rfl

theorem Numeral.digitRun_of_isDigit {ds : List Char} (h : ∀ d ∈ ds, d.isDigit = true) :
    Numeral.digitRun 10 ds = ds.map fun d => d.toNat - '0'.toNat := by
  induction ds with
  | nil => rfl
  | cons d ds ih =>
    have hd := h d (List.mem_cons_self ..)
    have hlt : d.toNat - '0'.toNat < 10 := by
      have := (toNat_of_isDigit hd).2
      show d.toNat - 48 < 10
      omega
    have hdigit : Text.digitIn? 10 d = some (d.toNat - '0'.toNat) := by
      rw [Text.digitIn?, Text.asciiDigit?, if_pos hd]
      exact if_pos hlt
    rw [Numeral.digitRun, hdigit, List.map_cons,
      ← ih fun d' hd' => h d' (List.mem_cons_of_mem d hd')]

theorem splitMinus_ofInt (n : Int) : splitMinus (Text.ofInt n) =
    (decide (n < 0), Text.ofChars (Nat.toDigits 10 n.natAbs)) := by
  rw [Text.ofInt, integerText]
  by_cases hneg : n < 0
  · rw [if_pos hneg, decide_eq_true hneg]
    rfl
  · rw [if_neg hneg, decide_eq_false hneg]
    unfold splitMinus
    split
    · rename_i t heq
      exfalso
      obtain ⟨c, cs, hcs, hc, -⟩ := List.map_eq_cons_iff.mp heq
      have hdigit := isDigit_toDigits n.natAbs c (hcs ▸ List.mem_cons_self ..)
      rw [Rune.char.inj hc] at hdigit
      cases hdigit
    · rfl

theorem Text.ofInt_injective : Function.Injective Text.ofInt := by
  intro n m h
  have hsplit := splitMinus_ofInt n
  rw [h, splitMinus_ofInt, Prod.mk.injEq, decide_eq_decide] at hsplit
  have habs := toDigits_injective (List.map_inj_right (fun _ _ => Rune.char.inj) |>.mp hsplit.2)
  omega

end FieldCode
