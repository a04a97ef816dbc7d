import FieldCode.Proofs.Number.Default
import FieldCode.Proofs.Number.Literal

/-!
# Literals are default texts

A default text of a numeric kind is read as a number, and the literal of the number, its suffix
taken off, is a default text again.  Reading it gives the number back, except that the digits of a
single need not determine the double that was read before narrowing; they determine the single, and
with it the literal. So from the first literal on nothing changes.

The argument is the same for both floating kinds.  The digits are found by the same question that a
reader answers, so what the reader makes of them is known (`ofRat_shortestDouble`,
`toSingle_shortestSingle`), and how they are laid out is of no consequence to it
(`readDouble_finiteText`).
-/

namespace FieldCode

/-- The double is a number. -/
def Double.IsFinite (x : Double) : Prop :=
  ∃ negative m, x = .finite negative m

/-- The number is written with digits for a kind: it is finite, and stays so when it is narrowed for
the 32-bit kind. -/
def Number.IsFiniteFor (k : Kind) : Number → Prop
  | .int _ => True
  | .double x => x.IsFinite ∧ (k = .float → x.toSingle.IsFinite)

/-- What a kind keeps of a number: all of it, or for the 32-bit kind the single nearest to it. -/
def Number.keptBy (k : Kind) : Number → Number
  | .int n => .int n
  | .double x => .double (if k = .float then x.toSingle else x)

theorem Number.keptBy_of_ne {k : Kind} (hk : k ≠ .float) (v : Number) : v.keptBy k = v := by
  cases v with
  | int n => rfl
  | double x => rw [keptBy, if_neg hk]

/-- The literal of a double is that of what the kind keeps of it. -/
theorem Suffixes.literal_double_of_kept {s : Suffixes} {k : Kind} (hf : k.isFloating = true)
    {x : Double}
    {negative : Bool} {m : Format.double.Magnitude}
    (h : Number.keptBy k (.double x) = .double (.finite negative m)) :
    s.literal (.known k) (.double x) =
      s.append (.known k) (finiteLiteral (decide (k = .float)) negative m) := by
  rw [literal_double hf, floatingLiteral]
  have hkept := Number.double.inj h
  cases k with
  | float =>
    replace hkept : x.toSingle = .finite negative m := hkept
    simp only [decide_true, if_true, hkept]
  | double =>
    replace hkept : x = .finite negative m := hkept
    simp only [hkept, reduceCtorEq, decide_false, Bool.false_eq_true, if_false]
  | _ => cases hf

/-- The text of a finite literal is read as a number of which the kind keeps what was written. -/
theorem exists_readDouble_finiteLiteral (single negative : Bool) {m : Format.double.Magnitude}
    (h : single = true → (Double.finite negative m).toSingle = .finite negative m) :
    ∃ y, readDouble (Text.ofChars (finiteLiteral single negative m)) = .ok y ∧
      (if single then y.toSingle else y) = .finite negative m := by
  have hread := readDouble_finiteText (l := .literal (literalPrecision single))
    (show 'E' ∈ numberChars by decide) rfl (if single then shortestSingle else shortestDouble)
    negative m
  refine ⟨_, hread, ?_⟩
  by_cases hzero : m.significand = 0
  · rw [if_pos hzero, Double.ofRat_zero, ← Double.finite_eq_zero hzero]
    cases single with
    | true => exact h rfl
    | false => rfl
  · rw [if_neg hzero]
    cases single with
    | true =>
      have hnarrow := toSingle_shortestSingle (Double.toSingle_eq_finite (h rfl) false)
      exact Double.toSingle_ofRat_eq_finite hnarrow negative
    | false => exact Double.ofRat_eq_finite (ofRat_shortestDouble m) negative

/-- The literal of an integer without its suffix is read as that integer. -/
theorem Suffixes.exists_literal_int_reads (s : Suffixes) {k : Kind} (hk : k.isNumeric = true)
    (hf : k.isFloating = false) {n : Int} (hrange : k.inRange n = true) :
    ∃ text suffix, s.suffix? (.known k) = some suffix ∧
      s.literal (.known k) (.int n) = .ok (text ++ suffix) ∧ k.readNumber text = .ok (.int n) := by
  obtain ⟨suffix, hs⟩ := s.exists_suffix? hk
  exact ⟨Text.ofInt n, suffix, hs, (literal_int hf n).trans (append_eq_ok hs _),
    Kind.readNumber_ofInt hk hf hrange⟩

/-- The literal of a double, less its suffix, reads as a double of which the kind keeps the same. -/
theorem Suffixes.exists_literal_double_reads (s : Suffixes) {k : Kind} (hf : k.isFloating = true)
    {x : Double} (hfinite : Number.IsFiniteFor k (.double x)) :
    ∃ text suffix y, s.suffix? (.known k) = some suffix ∧
      s.literal (.known k) (.double x) = .ok (text ++ suffix) ∧
      k.readNumber text = .ok (.double y) ∧
        Number.keptBy k (.double y) = Number.keptBy k (.double x) ∧
          s.literal (.known k) (.double y) = .ok (text ++ suffix) := by
  obtain ⟨suffix, hs⟩ := s.exists_suffix? (Kind.isNumeric_of_isFloating hf)
  -- what is written is the single, or the double itself
  obtain ⟨negative, m, hkept⟩ : ∃ negative m,
      Number.keptBy k (.double x) = .double (.finite negative m) := by
    by_cases hsingle : k = .float
    · obtain ⟨negative, m, hm⟩ := hfinite.2 hsingle
      exact ⟨negative, m, by rw [Number.keptBy, if_pos hsingle, hm]⟩
    · obtain ⟨negative, m, hm⟩ := hfinite.1
      exact ⟨negative, m, by rw [Number.keptBy_of_ne hsingle, hm]⟩
  have hnarrow : decide (k = .float) = true →
      (Double.finite negative m).toSingle = .finite negative m := by
    intro hsingle
    rw [Number.keptBy, if_pos (of_decide_eq_true hsingle)] at hkept
    rw [← Number.double.inj hkept, Double.toSingle_toSingle]
  obtain ⟨y, hread, hy⟩ := exists_readDouble_finiteLiteral (decide (k = .float)) negative hnarrow
  have hykept : Number.keptBy k (.double y) = .double (.finite negative m) := by
    rw [Number.keptBy, ← hy]
    simp only [decide_eq_true_eq]
  refine ⟨Text.ofChars (finiteLiteral (decide (k = .float)) negative m), suffix, y, hs, ?_, ?_, ?_,
    ?_⟩
  · rw [literal_double_of_kept hf hkept, append_eq_ok hs]
  · unfold Kind.readNumber
    rw [Text.underscore_notMem_ofChars (finiteLiteral_subset _ _ _), hf, hread]
    rfl
  · rw [hykept, hkept]
  · rw [literal_double_of_kept hf hykept, append_eq_ok hs]

/-- **Literals and default texts do not drift apart.**  If a default text of a numeric kind is read
as a number that is written with digits, the literal of the number without its suffix is a default
text of the kind; it is read as the same number, or for the 32-bit kind as one with the same single;
and the literal of that number is the same again. -/
theorem literal_reads_back (s : Suffixes) {k : Kind} (hk : k.isNumeric = true) {text : Text}
    {e : Option EnumType} {v : Number} (hread : k.readDefault text e = .ok v.toValue)
    (hfinite : v.IsFiniteFor k) :
    ∃ literal suffix, s.suffix? (.known k) = some suffix ∧
      s.literal (.known k) v = .ok (literal ++ suffix) ∧
        ∃ v' : Number, k.readDefault literal e = .ok v'.toValue ∧ (k ≠ .float → v' = v) ∧
          (k = .float → v'.keptBy .float = v.keptBy .float) ∧
            s.literal (.known k) v' = .ok (literal ++ suffix) := by
  rw [Kind.readDefault_numeric hk] at hread
  cases hf : k.isFloating with
  | false =>
    obtain ⟨n, hn, hrange⟩ := Kind.readNumber_integer hf hread
    obtain rfl : v = .int n := by
      cases v with
      | int n' => exact congrArg Number.int (Value.int.inj hn)
      | double x => cases hn
    obtain ⟨literal, suffix, hs, hliteral, hback⟩ := s.exists_literal_int_reads hk hf hrange
    refine ⟨literal, suffix, hs, hliteral, .int n, ?_, fun _ => rfl, fun _ => rfl, hliteral⟩
    rw [Kind.readDefault_numeric hk, hback]
    rfl
  | true =>
    obtain ⟨x, -, hx⟩ := Kind.readNumber_floating hf hread
    obtain rfl : v = .double x := by
      cases v with
      | int n => cases hx
      | double x' => exact congrArg Number.double (Value.double.inj hx)
    obtain ⟨literal, suffix, y, hs, hliteral, hback, hkept, hagain⟩ :=
      s.exists_literal_double_reads hf hfinite
    refine ⟨literal, suffix, hs, hliteral, .double y, ?_, ?_, ?_, hagain⟩
    · rw [Kind.readDefault_numeric hk, hback]
      rfl
    · intro hne
      rwa [Number.keptBy_of_ne hne, Number.keptBy_of_ne hne] at hkept
    · rintro rfl
      exact hkept

/-- One tenth below zero, for the 32-bit kind, is read as a double that is no single, and reads
back. -/
theorem tenth_reads_back : ∃ v : Number, Kind.float.readDefault "-0.1" none = .ok v.toValue ∧
    v.keptBy .float ≠ v ∧
      ∃ literal suffix, Suffixes.standard.suffix? (.known .float) = some suffix ∧
        Suffixes.standard.literal (.known .float) v = .ok (literal ++ suffix) ∧
          ∃ v' : Number, Kind.float.readDefault literal none = .ok v'.toValue ∧
            v'.keptBy .float = v.keptBy .float := by
  let tenth : Number := .double (.finite true ⟨7205759403792794, -56, by decide⟩)
  have hread : Kind.float.readDefault "-0.1" none = .ok tenth.toValue := by decide +kernel
  have hsingle : (Double.finite true ⟨7205759403792794, -56, by decide⟩).toSingle =
      .finite true ⟨7205759511166976, -56, by decide⟩ := by decide +kernel
  have hfinite : tenth.IsFiniteFor .float := ⟨⟨_, _, rfl⟩, fun _ => ⟨_, _, hsingle⟩⟩
  obtain ⟨literal, suffix, hs, hliteral, v', hback, -, hkept, -⟩ :=
    literal_reads_back .standard rfl hread hfinite
  exact ⟨tenth, hread, by decide +kernel, literal, suffix, hs, hliteral, v', hback, hkept rfl⟩

end FieldCode
