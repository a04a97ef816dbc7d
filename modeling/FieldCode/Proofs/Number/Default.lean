import FieldCode.Proofs.Number.IntegerNotation
import FieldCode.Proofs.Number.Layout
import FieldCode.Proofs.Number.Shortest

/-!
# Default texts of numeric kinds

What the text of a numeric default is read as: an integer of the range for an integer kind, a double
for a floating kind.  In the other direction, the texts that are written for numbers are read: that
of an integer as the integer (`Kind.readNumber_ofInt`), and that of a double as the double nearest
to the value of the digits that were laid out (`readDouble_finiteText`).
-/

namespace FieldCode

/-! ## What is read -/

theorem Kind.readDefault_numeric {k : Kind} (hk : k.isNumeric = true) (text : Text)
    (e : Option EnumType) : k.readDefault text e = k.readNumber text := by
  have hfam : k.family = .numeric := by simpa [Kind.isNumeric] using hk
  unfold Kind.readDefault
  rw [hfam]

/-- What a text writes for an integer kind is the integer that is read, and is in the range. -/
theorem Kind.exists_readInteger {k : Kind} (hf : k.isFloating = false) {text : Text} {v : Value}
    (h : k.readNumber text = .ok v) :
    ∃ n, readInteger text = .ok n ∧ v = .int n ∧ k.inRange n = true := by
  unfold Kind.readNumber at h
  rw [hf] at h
  split at h
  · cases h
  · cases hi : readInteger text with
    | error e => simp [hi] at h
    | ok n =>
      cases hr : k.inRange n with
      | false => simp [hi, hr] at h
      | true =>
        simp only [Bool.false_eq_true, if_false, hi, hr, if_true, Except.ok.injEq] at h
        exact ⟨n, rfl, h.symm, hr⟩

theorem Kind.readNumber_integer {k : Kind} (hf : k.isFloating = false) {text : Text} {v : Value}
    (h : k.readNumber text = .ok v) : ∃ n, v = .int n ∧ k.inRange n = true := by
  obtain ⟨n, -, hn, hrange⟩ := Kind.exists_readInteger hf h
  exact ⟨n, hn, hrange⟩

theorem Kind.readNumber_floating {k : Kind} (hf : k.isFloating = true) {text : Text} {v : Value}
    (h : k.readNumber text = .ok v) : ∃ x, readDouble text = .ok x ∧ v = .double x := by
  unfold Kind.readNumber at h
  rw [hf] at h
  split at h
  · cases h
  · cases hd : readDouble text with
    | error e => simp [hd, Except.map] at h
    | ok x =>
      simp only [if_true, hd, Except.map, Except.ok.injEq] at h
      exact ⟨x, rfl, h.symm⟩

/-! ## Texts of integers -/

theorem Kind.natAbs_lt_of_inRange {k : Kind} (hk : k.isNumeric = true) (hf : k.isFloating = false)
    {n : Int} (h : k.inRange n = true) : n.natAbs < 10 ^ Numeral.maxDigits := by
  have hsize : n.natAbs < 10 ^ 20 := by
    cases k <;> first
      | exact absurd hk (by decide)
      | exact absurd hf (by decide)
      | (simp only [Kind.inRange, Kind.integerRange?, Bool.and_eq_true, decide_eq_true_eq] at h
         omega)
  exact hsize.trans_le (Nat.pow_le_pow_right (by decide) (by decide))

section Written

variable {k : Kind} {text : Text} {cs : List Char} {n : Int}

/-- A text in which an integer of the kind is written is a default of the kind. -/
theorem Kind.readNumber_of_writes (hk : k.isNumeric = true) (hf : k.isFloating = false)
    (hplain : text.contains (.char '_') = false) (htrim : Text.trim text = Text.ofChars cs)
    (h : WritesInteger cs n) (hrange : k.inRange n = true) : k.readNumber text = .ok (.int n) := by
  have hsize := Kind.natAbs_lt_of_inRange hk hf hrange
  have hread : readInteger text = .ok n :=
    (readInteger_of_writes htrim h).resolve_right fun hlong => by omega
  rw [Kind.readNumber, hplain, hf, hread]
  simp only [Bool.false_eq_true, if_false, hrange, if_true]

/-- A text in which any other integer is written is none. -/
theorem Kind.readNumber_of_writes_of_not_inRange (hf : k.isFloating = false)
    (hplain : text.contains (.char '_') = false) (htrim : Text.trim text = Text.ofChars cs)
    (h : WritesInteger cs n) (hrange : k.inRange n = false) :
    k.readNumber text = .error (.outOfRange text k) ∨
      ∃ digits, Numeral.maxDigits < digits ∧ k.readNumber text = .error (.tooManyDigits digits) := by
  rw [Kind.readNumber, hplain, hf]
  rcases readInteger_of_writes htrim h with hread | ⟨-, digits, hdigits, hread⟩
  · left
    rw [hread]
    simp only [Bool.false_eq_true, if_false, hrange]
  · right
    rw [hread]
    exact ⟨digits, hdigits, rfl⟩

/-- The text of an integer is a default of each kind that holds the integer. -/
theorem Kind.readNumber_ofInt (hk : k.isNumeric = true) (hf : k.isFloating = false)
    (hrange : k.inRange n = true) : k.readNumber (Text.ofInt n) = .ok (.int n) :=
  Kind.readNumber_of_writes hk hf (Text.underscore_notMem_ofChars (integerText_subset n))
    (Text.trim_ofChars (integerText_subset n)) (writesInteger_integerText n) hrange

end Written

/-! ## Texts of doubles -/

theorem Numeral.sign_signed {negative : Bool} {c : Char} (hc : c.isDigit = true) (cs : List Char) :
    sign ((if negative then ['-'] else []) ++ c :: cs) = (negative, c :: cs) := by
  cases negative with
  | true => rfl
  | false => exact sign_of_isDigit hc cs

/-- A sign and a decimal are read as the double nearest to its value. -/
theorem Numeral.readDouble?_eq {negative : Bool} {c : Char} {cs : List Char} {d : Decimal}
    (hsub : c :: cs ⊆ numberChars) (hc : c.isDigit = true)
    (hread : Numeral.readDecimal? (c :: cs) = some d) :
    Numeral.readDouble? (Text.ofChars ((if negative then ['-'] else []) ++ c :: cs)) =
      some (.ofRat negative d.value) := by
  have hchars : (if negative then ['-'] else []) ++ c :: cs ⊆ numberChars :=
    List.append_subset.mpr ⟨by cases negative <;> decide, hsub⟩
  have hname : ∀ {name : Char} {names : List Char},
      name.isDigit = false → c :: cs ≠ name :: names := by
    intro name names hname heq
    rw [(List.cons.inj heq).1, hname] at hc
    cases hc
  unfold Numeral.readDouble?
  rw [Numeral.plain_ofChars hchars, Numeral.sign_signed hc]
  dsimp only
  rw [if_neg (by rintro (h | h) <;> exact hname rfl h), if_neg (hname rfl), hread, Option.map_some,
    Decimal.toDouble_eq]

/-- The text of a finite double is read as the double nearest to the value of its digits. -/
theorem readDouble_finiteText {l : Layout} (hmark : l.mark ∈ numberChars)
    (hlower : l.mark.toLower = 'e') (shortest : Format.double.Magnitude → Decimal) (negative : Bool)
    (m : Format.double.Magnitude) :
    readDouble (Text.ofChars (l.finiteText shortest negative m)) =
      .ok (.ofRat negative (if m.significand = 0 then 0 else (shortest m).value)) := by
  have hsub : l.finiteText shortest negative m ⊆ numberChars :=
    Layout.finiteText_subset hmark shortest negative m
  obtain ⟨c, cs, d, htext, hc, hread, hvalue⟩ := l.exists_finiteText_eq shortest negative m hlower
  have hclosed : ∀ c ∈ numberChars, c.toLower ∈ numberChars :=
    forall_mem_numberChars (by decide)
  have hlowered : (c :: cs).map Char.toLower = c :: cs.map Char.toLower := by
    rw [List.map_cons, Layout.toLower_of_isDigit hc]
  have hbody : c :: cs.map Char.toLower ⊆ numberChars := by
    intro c' hc'
    obtain ⟨b, hb, rfl⟩ := List.mem_map.mp (hlowered ▸ hc')
    exact hclosed b (hsub (htext ▸ List.mem_append_right _ hb))
  have hsign :
      (if negative then ['-'] else []).map Char.toLower = if negative then ['-'] else [] := by
    cases negative <;> rfl
  rw [hlowered] at hread
  unfold readDouble
  rw [Text.trim_ofChars hsub, Text.lower_ofChars hsub, htext, List.map_append, hsign, hlowered]
  dsimp only
  rw [Numeral.readDouble?_eq hbody hc hread, hvalue]

end FieldCode
