import FieldCode.Number.Literal
import FieldCode.Proofs.Number.Layout

/-!
# Which numbers have a literal, and how it begins

A table of suffixes covers the numeric kinds by construction, so no look-up for one of them fails
(`Suffixes.exists_suffix?`), and a literal can fail only in the conversion of the number.  An
integer for an integer kind and a double for a floating kind need no conversion:
`Suffixes.literal_int` and `Suffixes.literal_double` give their literals.  For tags of no numeric kind
the look-up fails always, but only what could be converted comes so far
(`Suffixes.literal_eq_noSuffix_iff`).

Whatever the suffix, a literal begins with a sign, a digit or the name of a type, so no literal
looks like an expression in brackets (`Suffixes.head?_literal`).
-/

namespace FieldCode

/-- A number as a value. -/
def Number.toValue : Number → Value
  | int n => .int n
  | double x => .double x

theorem Kind.isNumeric_of_isFloating {k : Kind} (hf : k.isFloating = true) :
    k.isNumeric = true := by
  cases k <;> first | rfl | cases hf

theorem KindTag.mem_numeric_iff {tag : KindTag} :
    tag ∈ numeric ↔ ∃ k : Kind, k.isNumeric = true ∧ tag = .known k := by
  rw [numeric, List.mem_map]
  exact exists_congr fun k => and_congr (by simp [Kind.mem_all]) eq_comm

namespace Suffixes

variable {s : Suffixes} {tag : KindTag}

theorem exists_lookup?_iff {table : List (KindTag × Text)} :
    (∃ suffix, lookup? tag table = some suffix) ↔ tag ∈ table.map (·.1) := by
  induction table with
  | nil => simp [lookup?]
  | cons entry rest ih =>
    obtain ⟨t, suffix⟩ := entry
    rw [lookup?, List.map_cons, List.mem_cons, ← ih]
    by_cases ht : t = tag
    · simp [ht]
    · simp [ht, Ne.symm ht]

theorem exists_suffix?_iff (s : Suffixes) :
    (∃ suffix, s.suffix? tag = some suffix) ↔ ∃ k : Kind, k.isNumeric = true ∧ tag = .known k := by
  rw [suffix?, exists_lookup?_iff, KindTag.mismatch?_eq_none.mp s.covers tag,
    KindTag.mem_numeric_iff]

theorem exists_suffix? (s : Suffixes) {k : Kind} (hk : k.isNumeric = true) :
    ∃ suffix, s.suffix? (.known k) = some suffix :=
  s.exists_suffix?_iff.mpr ⟨k, hk, rfl⟩

theorem append_eq_ok {suffix : Text} (h : s.suffix? tag = some suffix) (text : List Char) :
    s.append tag text = .ok (Text.ofChars text ++ suffix) := by
  rw [append, h]

theorem literal_int {k : Kind} (hk : k.isFloating = false) (n : Int) :
    s.literal (.known k) (.int n) = s.append (.known k) (integerText n) := by
  cases k <;> first | rfl | cases hk

theorem literal_double {k : Kind} (hk : k.isFloating = true) (x : Double) :
    s.literal (.known k) (.double x) = s.floatingLiteral (decide (k = .float)) x := by
  cases k <;> first | rfl | cases hk

theorem exists_literal_int (s : Suffixes) {k : Kind} (hk : k.isNumeric = true)
    (hf : k.isFloating = false) (n : Int) : ∃ text, s.literal (.known k) (.int n) = .ok text := by
  obtain ⟨suffix, hs⟩ := s.exists_suffix? hk
  exact ⟨_, (literal_int hf n).trans (append_eq_ok hs _)⟩

theorem exists_literal_double (s : Suffixes) {k : Kind} (hk : k.isFloating = true) (x : Double) :
    ∃ text, s.literal (.known k) (.double x) = .ok text := by
  have hnum : (if decide (k = .float) then Kind.float else Kind.double).isNumeric = true := by
    split <;> rfl
  obtain ⟨suffix, hs⟩ := s.exists_suffix? hnum
  rw [literal_double hk, floatingLiteral]
  split
  · exact ⟨_, rfl⟩
  · exact ⟨_, rfl⟩
  · exact ⟨_, append_eq_ok hs _⟩

end Suffixes

/-! ## When a suffix is missing -/

namespace Suffixes

variable {s : Suffixes} {tag : KindTag} {v : Number}

theorem literal_of_isFloating {k : Kind} (hk : k.isFloating = true) (v : Number) :
    s.literal (.known k) v = v.toDouble.bind fun x => s.literal (.known k) (.double x) := by
  cases k <;> first | rfl | cases hk

theorem literal_of_forall_ne (h : ∀ k : Kind, k.isFloating = true → tag ≠ .known k) (v : Number) :
    s.literal tag v = v.toInt.bind fun n => s.append tag (integerText n) := by
  cases tag with
  | known k => cases k <;> first | rfl | exact absurd rfl (h _ rfl)
  | unknown text unlisted => rfl

theorem toInt_ne_noSuffix (t : KindTag) : v.toInt ≠ .error (.noSuffix t) := by
  rcases v with n | (_ | _ | _) <;> exact fun h => (nomatch h)

theorem toDouble_ne_noSuffix (t : KindTag) : v.toDouble ≠ .error (.noSuffix t) := by
  cases v with
  | int n =>
    unfold Number.toDouble
    dsimp only
    split <;> exact fun h => (nomatch h)
  | double x => exact fun h => (nomatch h)

theorem append_eq_noSuffix_iff {text : List Char} {t : KindTag} :
    s.append tag text = .error (.noSuffix t) ↔
      t = tag ∧ ∀ k : Kind, k.isNumeric = true → tag ≠ .known k := by
  have hfound : (∃ suffix, s.suffix? tag = some suffix) ↔ _ := s.exists_suffix?_iff
  unfold append
  cases hs : s.suffix? tag with
  | none =>
    rw [hs] at hfound
    have hnot : ∀ k : Kind, k.isNumeric = true → tag ≠ .known k := fun k hk htag =>
      (hfound.mpr ⟨k, hk, htag⟩).elim fun _ h => (nomatch h)
    rw [Except.error.injEq, NumberFault.noSuffix.injEq, and_iff_left hnot, eq_comm]
  | some suffix =>
    rw [hs] at hfound
    obtain ⟨k, hk, htag⟩ := hfound.mp ⟨suffix, rfl⟩
    exact ⟨fun h => (nomatch h), fun h => absurd htag (h.2 k hk)⟩

/-- A literal has no suffix exactly if its tag is that of no numeric kind, and the number could be
written. -/
theorem literal_eq_noSuffix_iff {t : KindTag} : s.literal tag v = .error (.noSuffix t) ↔
    t = tag ∧ (∀ k : Kind, k.isNumeric = true → tag ≠ .known k) ∧ ∃ n, v.toInt = .ok n := by
  by_cases hfloating : ∃ k : Kind, k.isFloating = true ∧ tag = .known k
  · obtain ⟨k, hk, rfl⟩ := hfloating
    refine ⟨fun h => ?_, fun h => absurd rfl (h.2.1 k (Kind.isNumeric_of_isFloating hk))⟩
    rw [literal_of_isFloating hk] at h
    cases hv : v.toDouble with
    | error e =>
      rw [hv] at h
      obtain rfl : e = .noSuffix t := Except.error.inj h
      exact absurd hv (toDouble_ne_noSuffix t)
    | ok x =>
      rw [hv] at h
      obtain ⟨text, htext⟩ := s.exists_literal_double hk x
      exact absurd (htext.symm.trans h) (fun h => (nomatch h))
  · rw [literal_of_forall_ne fun k hk htag => hfloating ⟨k, hk, htag⟩]
    cases hv : v.toInt with
    | error e =>
      constructor
      · intro h
        obtain rfl : e = .noSuffix t := Except.error.inj h
        exact absurd hv (toInt_ne_noSuffix t)
      · rintro ⟨-, -, n, hn⟩
        cases hn
    | ok n =>
      have hdone : ∃ n', Except.ok n = (.ok n' : Except NumberFault Int) := ⟨n, rfl⟩
      rw [and_iff_left hdone]
      exact append_eq_noSuffix_iff

end Suffixes

/-! ## How a literal begins -/

theorem finiteLiteral_subset (single negative : Bool) (m : Format.double.Magnitude) :
    finiteLiteral single negative m ⊆ numberChars :=
  Layout.finiteText_subset (show 'E' ∈ numberChars by decide) _ negative m

theorem finiteLiteral_ne_nil (single negative : Bool) (m : Format.double.Magnitude) :
    finiteLiteral single negative m ≠ [] := by
  obtain ⟨c, cs, -, heq, -⟩ := Layout.exists_finiteText_eq (.literal (literalPrecision single))
    (if single then shortestSingle else shortestDouble) negative m rfl
  rw [finiteLiteral, heq]
  exact List.append_ne_nil_of_right_ne_nil _ (List.cons_ne_nil _ _)

theorem integerText_ne_nil (n : Int) : integerText n ≠ [] := by
  rw [integerText]
  split
  · exact List.cons_ne_nil _ _
  · exact Nat.toDigits_ne_nil

namespace Suffixes

variable {s : Suffixes} {tag : KindTag} {text : Text}

theorem head?_append {cs : List Char} (hne : cs ≠ []) (hsub : cs ⊆ numberChars)
    (h : s.append tag cs = .ok text) : text.head? ≠ some (.char '(') := by
  unfold append at h
  cases hs : s.suffix? tag with
  | none => simp [hs] at h
  | some suffix =>
    rw [hs, Except.ok.injEq] at h
    obtain ⟨c, cs, rfl⟩ := List.exists_cons_of_ne_nil hne
    have hc := hsub (List.mem_cons_self ..)
    rw [← h]
    show some (Rune.char c) ≠ _
    rw [Ne, Option.some.injEq, Rune.char.injEq]
    rintro rfl
    exact absurd hc (by decide)

theorem head?_floatingLiteral {single : Bool} {x : Double}
    (h : s.floatingLiteral single x = .ok text) : text.head? ≠ some (.char '(') := by
  unfold floatingLiteral at h
  dsimp only at h
  split at h
  · rw [← Except.ok.inj h]
    cases single <;> decide
  · rename_i negative _
    rw [← Except.ok.inj h]
    cases single <;> cases negative <;> decide
  · exact head?_append (finiteLiteral_ne_nil _ _ _) (finiteLiteral_subset _ _ _) h

theorem head?_literal {k : Kind} {n : Number} (h : s.literal (.known k) n = .ok text) :
    text.head? ≠ some (.char '(') := by
  have hint : (n.toInt.bind fun i => s.append (.known k) (integerText i)) = .ok text →
      text.head? ≠ some (.char '(') := by
    cases hn : n.toInt with
    | error e => exact fun h => nomatch h
    | ok i => exact head?_append (integerText_ne_nil i) (integerText_subset i)
  have hfloating : ∀ single, n.toDouble.bind (s.floatingLiteral single) = .ok text →
      text.head? ≠ some (.char '(') := by
    intro single
    cases hn : n.toDouble with
    | error e => exact fun h => nomatch h
    | ok x => exact head?_floatingLiteral
  cases k with
  | float => exact hfloating true h
  | double => exact hfloating false h
  | _ => exact hint h

end Suffixes

end FieldCode
