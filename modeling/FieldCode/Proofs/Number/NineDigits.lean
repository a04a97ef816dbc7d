import FieldCode.Proofs.Number.FewestDigits

/-!
# Nine digits are enough for a single

The search for the digits of a single goes through the digit counts from one to nine and has something
to fall back on.  It never does.  The nearest decimal with nine digits is within a part in two hundred
millions of the single, while half the gap to the next single is no less than a part in thirty-four
millions of it.  That holds below a power of two as well, where the gap is only half as wide as above,
and among the singles without a leading bit it is wider still.  So there is room for the last bit of
the double that the decimal is read as before it is narrowed, and the decimal is read as the single
(`isReadAs_nearest_nine`).  The search has ended there at the latest.

* `exists_searchEndsAt`: with how many digits the search ends.
* `withinNineDigits_of_toSingle`: what this says of the text of a single, zero included.
* `nine_digits_suffice`: the literals of the 32-bit kind.
-/

namespace FieldCode

variable {negative : Bool} {m : Format.double.Magnitude}

/-! ## Where the search ends -/

/-- The search for the digits of a signed single ends with `n` digits: the nearest decimal with so many
is read as the single, no nearest decimal with fewer is, and the digits that are found are its own. -/
structure SearchEndsAt (negative : Bool) (m : Format.double.Magnitude) (n : Nat) : Prop where
  pos : 1 ≤ n
  le_nine : n ≤ 9
  reads : ((Decimal.nearest m.value n).toDouble negative).toSingle = .finite negative m
  first : ∀ k, 1 ≤ k → k < n →
    ((Decimal.nearest m.value k).toDouble negative).toSingle ≠ .finite negative m
  found : shortestSingle m = (Decimal.nearest m.value n).trimmed

/-- A decimal with the sign of a single is read as it if the decimal without a sign is read as its
size. -/
theorem Decimal.toSingle_toDouble_iff {d : Decimal} :
    (d.toDouble negative).toSingle = .finite negative m ↔ Double.IsReadAs d.value m := by
  rw [toDouble_eq]
  exact ⟨fun h => Double.toSingle_ofRat_eq_finite h false,
    fun h => Double.toSingle_ofRat_eq_finite h negative⟩

/-- The search ends for every single that is not zero. -/
theorem exists_searchEndsAt (hm : m.significand ≠ 0)
    (hsingle : (Double.finite negative m).toSingle = .finite negative m) :
    ∃ n, SearchEndsAt negative m n := by
  have hnine := isReadAs_nearest_nine (Double.toSingle_eq_finite hsingle false) hm
  obtain ⟨j, hj, htried, hread, hfirst⟩ := exists_tried_le (i := 8) (by decide) hnine
  refine ⟨j + 1, by omega, by omega, Decimal.toSingle_toDouble_iff.mpr hread, ?_,
    shortestSingle_of_tried htried⟩
  intro k hk hkj hreadk
  obtain ⟨i, rfl⟩ : ∃ i, k = i + 1 := ⟨k - 1, by omega⟩
  exact hfirst i (by omega) (Decimal.toSingle_toDouble_iff.mp hreadk)

/-! ## The text of a single -/

/-- The digits that the search for a single finds, and others in case it finds none. -/
def digitsOr (fallback : Format.double.Magnitude → Decimal) (m : Format.double.Magnitude) : Decimal :=
  match triedDecimal? m with
  | some d => d.trimmed
  | none => fallback m

/-- The digits of a single are these, with the digits of the double to fall back on. -/
theorem shortestSingle_eq_digitsOr : shortestSingle = digitsOr shortestDouble :=
  rfl

/-- A single is written with at most nine significant digits, and with the same text whatever the
search has to fall back on. -/
structure WithinNineDigits (negative : Bool) (m : Format.double.Magnitude) : Prop where
  few : (significantDigits (finiteLiteral true negative m)).length ≤ 9
  unused : ∀ fallback, (Layout.literal (literalPrecision true)).finiteText (digitsOr fallback)
    negative m = finiteLiteral true negative m

/-- The text of zero is not searched for. -/
theorem finiteText_of_significand_eq_zero (l : Layout) (shortest : Format.double.Magnitude → Decimal)
    (hm : m.significand = 0) :
    l.finiteText shortest negative m = (if negative then ['-'] else []) ++ l.zeroText :=
  if_pos hm

theorem withinNineDigits_of_toSingle
    (hsingle : (Double.finite negative m).toSingle = .finite negative m) :
    WithinNineDigits negative m := by
  by_cases hm : m.significand = 0
  · constructor
    · rw [finiteLiteral, finiteText_of_significand_eq_zero _ _ hm]
      cases negative <;> decide
    · intro fallback
      rw [finiteLiteral, finiteText_of_significand_eq_zero _ _ hm,
        finiteText_of_significand_eq_zero _ _ hm]
  · have hnine := isReadAs_nearest_nine (Double.toSingle_eq_finite hsingle false) hm
    constructor
    · rw [significantDigits_finiteLiteral negative hm]
      exact length_shortestSingle_le hm (i := 8) (by decide) hnine
    · intro fallback
      obtain ⟨j, -, htried, -, -⟩ := exists_tried_le (i := 8) (by decide) hnine
      have hdigits : digitsOr fallback m = shortestSingle m := by
        rw [shortestSingle_eq_digitsOr, digitsOr, digitsOr, htried]
      rw [finiteLiteral, Layout.finiteText, Layout.finiteText, hdigits]
      rfl

/-! ## Literals of the 32-bit kind -/

/-- The literals of what is not finite. -/
def namedLiterals : List Text :=
  ["float.NaN", "float.PositiveInfinity", "float.NegativeInfinity"]

/-- The literal of a double for the 32-bit kind is a named constant, or the text of the single that it
is narrowed to. -/
theorem Suffixes.exists_floatingLiteral_true (s : Suffixes) (x : Double) :
    ∃ text, s.floatingLiteral true x = .ok text ∧
      (¬ x.toSingle.IsFinite ∧ text ∈ namedLiterals ∨
        ∃ negative m suffix, x.toSingle = .finite negative m ∧
          s.suffix? (.known .float) = some suffix ∧
            text = Text.ofChars (finiteLiteral true negative m) ++ suffix) := by
  rw [floatingLiteral]
  simp only [if_true]
  cases x.toSingle with
  | nan =>
    have hnot : ¬ Double.nan.IsFinite := by
      rintro ⟨_, _, h⟩
      cases h
    exact ⟨_, rfl, Or.inl ⟨hnot, by decide⟩⟩
  | infinite negative =>
    have hnot : ¬ (Double.infinite negative).IsFinite := by
      rintro ⟨_, _, h⟩
      cases h
    refine ⟨_, rfl, Or.inl ⟨hnot, ?_⟩⟩
    cases negative <;> decide
  | finite negative m =>
    obtain ⟨suffix, hs⟩ := s.exists_suffix? (k := .float) rfl
    exact ⟨_, append_eq_ok hs _, Or.inr ⟨negative, m, suffix, rfl, hs, rfl⟩⟩

/-- **Nine digits are always enough.**  For every single that is not zero the search for its digits
ends with some number of them from one to nine.  So the literal of a number for the 32-bit kind, if it
is no named constant, is the text of a single and a suffix, and the text has at most nine significant
digits and does not depend on what the search has to fall back on. -/
theorem nine_digits_suffice :
    (∀ (negative : Bool) (m : Format.double.Magnitude), m.significand ≠ 0 →
      (Double.finite negative m).toSingle = .finite negative m → ∃ n, SearchEndsAt negative m n) ∧
    ∀ (s : Suffixes) (v : Number) (x : Double), v.toDouble = .ok x →
      ∃ text, s.literal (.known .float) v = .ok text ∧
        (¬ x.toSingle.IsFinite ∧ text ∈ namedLiterals ∨
          ∃ negative m suffix, x.toSingle = .finite negative m ∧
            s.suffix? (.known .float) = some suffix ∧
              text = Text.ofChars (finiteLiteral true negative m) ++ suffix ∧
                WithinNineDigits negative m) := by
  refine ⟨fun negative m hm hsingle => exists_searchEndsAt hm hsingle, fun s v x hv => ?_⟩
  have hliteral : s.literal (.known .float) v = s.floatingLiteral true x := by
    rw [Suffixes.literal_of_isFloating rfl, hv]
    rfl
  obtain ⟨text, htext, hnamed | ⟨negative, m, suffix, hx, hs, heq⟩⟩ :=
    s.exists_floatingLiteral_true x
  · exact ⟨text, hliteral.trans htext, Or.inl hnamed⟩
  · -- what was narrowed is a single
    have hnarrow := Double.toSingle_toSingle x
    rw [hx] at hnarrow
    exact ⟨text, hliteral.trans htext,
      Or.inr ⟨negative, m, suffix, hx, hs, heq, withinNineDigits_of_toSingle hnarrow⟩⟩

/-- The search ends for the least single below zero, and a double next to `2^-96` that is no single
is written with all nine digits. -/
theorem extremes_within_nine_digits :
    (∃ m : Format.double.Magnitude, m.value = 2 ^ (-149 : Int) ∧ m.significand ≠ 0 ∧
      (Double.finite true m).toSingle = .finite true m ∧ ∃ n, SearchEndsAt true m n) ∧
    ∃ (x : Double) (m : Format.double.Magnitude), (Number.double x).toDouble = .ok x ∧
      x.toSingle ≠ x ∧ x.toSingle = .finite false m ∧
        Suffixes.standard.literal (.known .float) (.double x) = .ok "1.26217745E-29F" ∧
          (significantDigits (finiteLiteral true false m)).length = 9 ∧ WithinNineDigits false m := by
  constructor
  · have hsingle : (Double.finite true ⟨4503599627370496, -201, by decide⟩).toSingle =
        .finite true ⟨4503599627370496, -201, by decide⟩ := by decide +kernel
    exact ⟨⟨4503599627370496, -201, by decide⟩, by decide +kernel, by decide, hsingle,
      nine_digits_suffice.1 true _ (by decide) hsingle⟩
  · let x : Double := .finite false ⟨4503599631564800, -148, by decide⟩
    have hsingle : x.toSingle = .finite false ⟨4503599627370496, -148, by decide⟩ := by
      decide +kernel
    refine ⟨x, ⟨4503599627370496, -148, by decide⟩, rfl, by decide +kernel, hsingle,
      by decide +kernel, by decide +kernel, ?_⟩
    obtain ⟨text, -, hnamed | ⟨negative, m, suffix, hm, -, -, hwithin⟩⟩ :=
      nine_digits_suffice.2 .standard (.double x) x rfl
    · exact absurd ⟨_, _, hsingle⟩ hnamed.1
    · rw [hsingle, Double.finite.injEq] at hm
      obtain ⟨rfl, rfl⟩ := hm
      exact hwithin

end FieldCode
