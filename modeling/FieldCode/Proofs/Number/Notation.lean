import FieldCode.Proofs.Number.Literal
import FieldCode.Proofs.Number.Tried

/-!
# The form of floating-point literals

A literal of a finite number is written in parts: a sign, a whole part, a fraction and an exponent.
A `NumberText` is such a text taken apart, `NumberText.size` is the number that its parts denote, and
`NumberText.Normal` says which texts are in normal form: no zero is superfluous and an exponent stands
only behind a single digit other than zero.

A layout chooses between four ways to write digits with a point somewhere before, among or behind
them.  Each way is one `NumberText`, and for each the three facts that matter are the same
(`NumberText.Writes`): it is normal, it denotes the number, and without the zeros around them its
digits are those that were laid out.  Which way is taken depends on the place of the point alone,
and that is a question of how large the number is (`Decimal.wide_iff`).

* `Layout.exists_writes`: the four ways, put together.
* `finiteLiteral_form`: the literals of both floating kinds.
-/

namespace FieldCode

/-! ## Digits without zeros around them -/

/-- Digits that neither begin nor end with a zero. -/
structure SignificantDigits (ds : List Char) : Prop where
  ne_nil : ds ≠ []
  digits : ∀ d ∈ ds, d.isDigit = true
  first : ds.head? ≠ some '0'
  last : ds.getLast? ≠ some '0'

/-- The significant digits in the text of a number: those before an exponent, without the zeros at
both ends. -/
def significantDigits (text : List Char) : List Char :=
  Text.trimBy (· == '0') ((text.takeWhile (· != 'E')).filter Char.isDigit)

theorem SignificantDigits.trimBy_zeros {ds : List Char} (h : SignificantDigits ds) (i j : Nat) :
    Text.trimBy (· == '0') (List.replicate i '0' ++ ds ++ List.replicate j '0') = ds := by
  have hzeros : ∀ k, ∀ c ∈ List.replicate k '0', (c == '0') = true := fun k c hc => by
    rw [(List.mem_replicate.mp hc).2]
    rfl
  refine Text.trimBy_around (hzeros i) (hzeros j) (fun c hc => ?_) fun c hc => ?_
  · exact beq_false_of_ne fun heq => h.first (heq ▸ hc)
  · exact beq_false_of_ne fun heq => h.last (heq ▸ hc)

namespace Decimal

theorem significand_trim_mod_ten_ne_zero (significand : Nat) (exponent : Int)
    (h : significand ≠ 0) : (trim significand exponent).significand % 10 ≠ 0 := by
  fun_induction trim significand exponent with
  | case1 n e hn ih => exact ih (by omega)
  | case2 n e hn => exact fun hzero => hn ⟨h, hzero⟩

variable {d : Decimal}

theorem trimmed_mod_ten_ne_zero (h : d.significand ≠ 0) : d.trimmed.significand % 10 ≠ 0 :=
  significand_trim_mod_ten_ne_zero d.significand d.exponent h

/-- The digits of a trimmed decimal neither begin nor end with a zero. -/
theorem significantDigits_trimmed (h : d.significand ≠ 0) :
    SignificantDigits d.trimmed.digits := by
  have hlast := trimmed_mod_ten_ne_zero h
  obtain ⟨n, hn⟩ : ∃ n, n = d.trimmed.significand := ⟨_, rfl⟩
  rw [digits, ← hn]
  rw [← hn] at hlast
  refine ⟨Nat.toDigits_ne_nil, isDigit_toDigits n, fun hhead => ?_, fun hzero => ?_⟩
  · obtain ⟨rest, hrest⟩ := List.head?_eq_some_iff.mp hhead
    rw [toDigits_eq_zero_cons hrest] at hrest
    have hvalue : n = 0 := by
      rw [← Numeral.ofAscii_toDigits n, hrest]
      rfl
    omega
  · obtain ⟨init, hinit⟩ := List.getLast?_eq_some_iff.mp hzero
    have hvalue : n = Numeral.ofAscii init * 10 := by
      rw [← Numeral.ofAscii_toDigits n, hinit, Numeral.ofAscii_append]
      rfl
    omega

end Decimal

/-! ## Texts of numbers taken apart -/

/-- A text of a number, taken apart. -/
structure NumberText where
  /-- A minus sign stands first. -/
  negative : Bool
  /-- The digits before the point. -/
  whole : List Char
  /-- The digits behind the point; without any, there is no point. -/
  fraction : List Char
  /-- The exponent, if there is one: whether its sign is a minus, and its digits. -/
  exponent : Option (Bool × List Char)

namespace NumberText

/-- The point and what is behind it. -/
def fractionText (p : NumberText) : List Char :=
  if p.fraction = [] then [] else '.' :: p.fraction

/-- The mark of the exponent, its sign and its digits. -/
def exponentText (p : NumberText) : List Char :=
  p.exponent.elim [] fun e => 'E' :: (if e.1 then '-' else '+') :: e.2

/-- The text put together. -/
def chars (p : NumberText) : List Char :=
  (if p.negative then ['-'] else []) ++ (p.whole ++ p.fractionText ++ p.exponentText)

/-- The power of ten of the exponent. -/
def power (p : NumberText) : Int :=
  p.exponent.elim 0 fun e => Numeral.signed e.1 (Numeral.ofAscii e.2)

/-- The number that the text denotes, the sign aside. -/
def size (p : NumberText) : ℚ :=
  (Numeral.ofAscii (p.whole ++ p.fraction) : ℚ) * 10 ^ (p.power - p.fraction.length)

/-- The text is in normal form, `-?(0|[1-9][0-9]*)(\.[0-9]*[1-9])?(E[+-][0-9]{2,})?` with more
conditions on what has an exponent. -/
structure Normal (p : NumberText) : Prop where
  /-- Before the point stands a zero or a number that does not begin with one. -/
  whole : p.whole = ['0'] ∨ p.whole ≠ [] ∧ p.whole.head? ≠ some '0'
  whole_digits : ∀ c ∈ p.whole, c.isDigit = true
  /-- The last digit behind the point is not a zero. -/
  fraction : p.fraction.getLast? ≠ some '0'
  fraction_digits : ∀ c ∈ p.fraction, c.isDigit = true
  exponent_digits : ∀ minus ds, p.exponent = some (minus, ds) → ∀ c ∈ ds, c.isDigit = true
  /-- An exponent has two digits at least, and more only without a zero in front. -/
  exponent : ∀ minus ds, p.exponent = some (minus, ds) →
    2 ≤ ds.length ∧ (2 < ds.length → ds.head? ≠ some '0')
  /-- Before an exponent stands a single digit before the point, and it is not a zero. -/
  scientific : p.exponent.isSome → p.whole.length = 1 ∧ p.whole ≠ ['0']

/-- The significant digits of a normal text are those of its whole part and its fraction. -/
theorem Normal.significantDigits_chars {p : NumberText} (h : p.Normal) :
    significantDigits p.chars = Text.trimBy (· == '0') (p.whole ++ p.fraction) := by
  have hmark : ∀ c : Char, c.isDigit = true → (c != 'E') = true := by
    rintro c hc
    rw [bne_iff_ne]
    rintro rfl
    cases hc
  have hbefore : ∀ c ∈ (if p.negative then ['-'] else []) ++ (p.whole ++ p.fractionText),
      (c != 'E') = true := by
    intro c hc
    rcases List.mem_append.mp hc with hc | hc
    · cases hnegative : p.negative <;> simp [hnegative] at hc
      rw [hc]
      rfl
    rcases List.mem_append.mp hc with hc | hc
    · exact hmark c (h.whole_digits c hc)
    · rw [fractionText] at hc
      split at hc
      · simp at hc
      · rcases List.mem_cons.mp hc with rfl | hc
        · rfl
        · exact hmark c (h.fraction_digits c hc)
  have hexponent : p.exponentText.takeWhile (· != 'E') = [] := by
    cases hexp : p.exponent with
    | none => rw [exponentText, hexp]; rfl
    | some e => rw [exponentText, hexp]; rfl
  have hsign : (if p.negative then ['-'] else []).filter Char.isDigit = [] := by
    cases p.negative <;> rfl
  have hfraction : p.fractionText.filter Char.isDigit = p.fraction := by
    rw [fractionText]
    split
    · rename_i hnil
      rw [hnil, List.filter_nil]
    · rw [List.filter_cons_of_neg (by decide), List.filter_eq_self.mpr h.fraction_digits]
  rw [significantDigits, chars, ← List.append_assoc,
    List.takeWhile_append_of_pos (by simpa [List.append_assoc] using hbefore), hexponent,
    List.append_nil, List.filter_append, List.filter_append, hsign, hfraction,
    List.filter_eq_self.mpr h.whole_digits, List.nil_append]

/-- The text is a normal one of digits with the point so many places after the first. -/
structure Writes (p : NumberText) (ds : List Char) (scale : Int) : Prop where
  normal : p.Normal
  significant : Text.trimBy (· == '0') (p.whole ++ p.fraction) = ds
  size : p.size = (Numeral.ofAscii ds : ℚ) * 10 ^ (scale - ds.length)

theorem Writes.significantDigits_chars {p : NumberText} {ds : List Char} {scale : Int}
    (h : p.Writes ds scale) : significantDigits p.chars = ds := by
  rw [h.normal.significantDigits_chars, h.significant]

end NumberText

/-! ## The four ways -/

/-- The digits of an exponent. -/
def exponentDigits (power : Int) : List Char :=
  List.replicate (2 - (Nat.toDigits 10 power.natAbs).length) '0' ++ Nat.toDigits 10 power.natAbs

theorem isDigit_exponentDigits (power : Int) : ∀ c ∈ exponentDigits power, c.isDigit = true :=
  fun c hc => (List.mem_append.mp hc).elim (Layout.isDigit_zeros _ c) (isDigit_toDigits _ c)

theorem exponentDigits_form (power : Int) : 2 ≤ (exponentDigits power).length ∧
    (2 < (exponentDigits power).length → (exponentDigits power).head? ≠ some '0') := by
  obtain ⟨ds, hds⟩ : ∃ ds, ds = Nat.toDigits 10 power.natAbs := ⟨_, rfl⟩
  rw [exponentDigits, ← hds, List.length_append, List.length_replicate]
  refine ⟨by omega, fun hlong hhead => ?_⟩
  have hnone : 2 - ds.length = 0 := by omega
  rw [hnone, List.replicate_zero, List.nil_append] at hhead
  obtain ⟨rest, hrest⟩ := List.head?_eq_some_iff.mp hhead
  have hnil := toDigits_eq_zero_cons (hds.symm.trans hrest)
  rw [hrest, hnil] at hlong
  simp at hlong

theorem signed_exponentDigits (power : Int) :
    Numeral.signed (decide (power < 0)) (Numeral.ofAscii (exponentDigits power)) = power := by
  rw [exponentDigits, Numeral.ofAscii_append, Numeral.ofAscii_zeros, Numeral.ofAscii_toDigits,
    Numeral.signed]
  by_cases hneg : power < 0
  · rw [if_pos (decide_eq_true hneg)]
    omega
  · rw [if_neg (by simpa using hneg)]
    omega

namespace NumberText

section Ways

variable {ds : List Char} (h : SignificantDigits ds) (negative : Bool)

include h

theorem writes_scientific (scale : Int) :
    Writes ⟨negative, ds.take 1, ds.drop 1,
      some (decide (scale - 1 < 0), exponentDigits (scale - 1))⟩ ds scale := by
  obtain ⟨d, rest, rfl⟩ := List.exists_cons_of_ne_nil h.ne_nil
  have hd : d ≠ '0' := by simpa using h.first
  have hlast : rest.getLast? ≠ some '0' := by
    cases rest with
    | nil => simp
    | cons c cs => simpa using h.last
  have hform := exponentDigits_form (scale - 1)
  refine ⟨⟨.inr ⟨by simp, by simpa using hd⟩, ?_, hlast, ?_, ?_, ?_, fun _ => ⟨rfl, by simpa using hd⟩⟩,
    ?_, ?_⟩
  · intro c hc
    exact h.digits c (List.mem_of_mem_take hc)
  · intro c hc
    exact h.digits c (List.mem_of_mem_drop hc)
  · rintro minus es heq
    rw [Option.some.injEq, Prod.mk.injEq] at heq
    exact heq.2 ▸ isDigit_exponentDigits _
  · rintro minus es heq
    rw [Option.some.injEq, Prod.mk.injEq] at heq
    exact heq.2 ▸ hform
  · rw [List.take_append_drop]
    have htrim := h.trimBy_zeros 0 0
    simpa using htrim
  · have hpower := signed_exponentDigits (scale - 1)
    rw [NumberText.size, List.take_append_drop]
    congr 2
    refine (congrArg (· - _) hpower).trans ?_
    simp only [List.length_drop, List.length_cons]
    omega

theorem writes_belowOne (k : Nat) :
    Writes ⟨negative, ['0'], List.replicate k '0' ++ ds, none⟩ ds (-k) := by
  refine ⟨⟨.inl rfl, by simp, ?_, ?_, by simp, by simp, by simp⟩, ?_, ?_⟩
  · rw [List.getLast?_append_of_ne_nil _ h.ne_nil]
    exact h.last
  · intro c hc
    exact (List.mem_append.mp hc).elim (Layout.isDigit_zeros k c) (h.digits c)
  · have htrim := h.trimBy_zeros (k + 1) 0
    rw [List.replicate_zero, List.append_nil, List.replicate_succ] at htrim
    exact htrim
  · have hvalue : Numeral.ofAscii (['0'] ++ (List.replicate k '0' ++ ds)) = Numeral.ofAscii ds := by
      rw [Numeral.ofAscii_append, Numeral.ofAscii_append, Numeral.ofAscii_zeros]
      show 0 * _ + (0 * _ + _) = _
      omega
    rw [NumberText.size, hvalue, power, Option.elim_none]
    congr 2
    simp only [List.length_append, List.length_replicate]
    omega

theorem writes_filled (k : Nat) :
    Writes ⟨negative, ds ++ List.replicate k '0', [], none⟩ ds (ds.length + k) := by
  refine ⟨⟨.inr ⟨?_, ?_⟩, ?_, by simp, by simp, by simp, by simp, by simp⟩, ?_, ?_⟩
  · exact List.append_ne_nil_of_left_ne_nil h.ne_nil _
  · rw [List.head?_append_of_ne_nil _ h.ne_nil]
    exact h.first
  · intro c hc
    exact (List.mem_append.mp hc).elim (h.digits c) (Layout.isDigit_zeros k c)
  · have htrim := h.trimBy_zeros 0 k
    rw [List.replicate_zero, List.nil_append] at htrim
    rw [List.append_nil, htrim]
  · rw [NumberText.size, List.append_nil, Numeral.ofAscii_append, Numeral.ofAscii_zeros, power,
      Option.elim_none, List.length_nil, List.length_replicate, add_sub_cancel_left, zpow_natCast]
    push_cast
    ring

theorem writes_split {n : Nat} (hn : 0 < n) (hlt : n < ds.length) :
    Writes ⟨negative, ds.take n, ds.drop n, none⟩ ds n := by
  refine ⟨⟨.inr ⟨?_, ?_⟩, ?_, ?_, ?_, by simp, by simp, by simp⟩, ?_, ?_⟩
  · rw [Ne, List.take_eq_nil_iff]
    rintro (hzero | hnil)
    · omega
    · exact h.ne_nil hnil
  · rw [List.head?_take, if_neg (by omega)]
    exact h.first
  · intro c hc
    exact h.digits c (List.mem_of_mem_take hc)
  · rw [List.getLast?_drop, if_neg (by omega)]
    exact h.last
  · intro c hc
    exact h.digits c (List.mem_of_mem_drop hc)
  · rw [List.take_append_drop]
    have htrim := h.trimBy_zeros 0 0
    simpa using htrim
  · rw [NumberText.size, List.take_append_drop, power, Option.elim_none]
    congr 2
    rw [List.length_drop]
    omega

end Ways

end NumberText

/-! ## The layout of literals -/

/-- What the layout of literals writes is a normal text of the digits, with an exponent exactly if the
point is too far from them. -/
theorem Layout.exists_writes (precision : Nat) {ds : List Char} (h : SignificantDigits ds)
    (negative : Bool) (scale : Int) : ∃ p : NumberText, p.negative = negative ∧
      (if negative then ['-'] else []) ++ (Layout.literal precision).place ds scale = p.chars ∧
        p.Writes ds scale ∧
          (p.exponent.isSome ↔ ((max ds.length precision : Nat) : Int) < scale ∨ scale < -3) := by
  have hwidest : (Layout.literal precision).widest ds.length = max ds.length precision := rfl
  have hwhole : (Layout.literal precision).marksWhole = false := rfl
  unfold place
  rw [hwidest, hwhole]
  by_cases hwide : ((max ds.length precision : Nat) : Int) < scale ∨ scale < -3
  · rw [if_pos hwide]
    refine ⟨_, rfl, ?_, NumberText.writes_scientific h negative scale, by simpa using hwide⟩
    have hsign : (if 0 ≤ scale - 1 then '+' else '-') =
        if decide (scale - 1 < 0) then '-' else '+' := by
      by_cases hneg : scale - 1 < 0
      · rw [if_neg (by omega), if_pos (decide_eq_true hneg)]
      · rw [if_pos (by omega), if_neg (by simpa using hneg)]
    rw [Layout.exponentText, hsign]
    rfl
  rw [if_neg hwide]
  by_cases hsmall : scale ≤ 0
  · obtain ⟨k, rfl⟩ : ∃ k : Nat, scale = -k := ⟨(-scale).toNat, by omega⟩
    rw [if_pos hsmall, neg_neg, Int.toNat_natCast]
    refine ⟨_, rfl, ?_, NumberText.writes_belowOne h negative k, by simpa using hwide⟩
    have hne : List.replicate k '0' ++ ds ≠ [] := List.append_ne_nil_of_right_ne_nil _ h.ne_nil
    rw [NumberText.chars, NumberText.fractionText, if_neg hne]
    simp [NumberText.exponentText]
  rw [if_neg hsmall]
  by_cases hfull : (ds.length : Int) ≤ scale
  · obtain ⟨k, rfl⟩ : ∃ k : Nat, scale = ds.length + k := ⟨(scale - ds.length).toNat, by omega⟩
    have hzeros : (ds.length + k : Int).toNat - ds.length = k := by omega
    rw [if_pos hfull, hzeros]
    refine ⟨_, rfl, ?_, NumberText.writes_filled h negative k, by simpa using hwide⟩
    simp [NumberText.chars, NumberText.fractionText, NumberText.exponentText]
  · obtain ⟨n, rfl⟩ : ∃ n : Nat, scale = n := ⟨scale.toNat, by omega⟩
    rw [if_neg hfull, Int.toNat_natCast]
    refine ⟨_, rfl, ?_, NumberText.writes_split h negative (n := n) (by omega) (by omega),
      by simpa using hwide⟩
    have hne : ds.drop n ≠ [] := by
      rw [Ne, List.drop_eq_nil_iff]
      omega
    rw [NumberText.chars, NumberText.fractionText, if_neg hne]
    simp [NumberText.exponentText]

/-- Whether the point is far from the digits of a decimal is a question of its value. -/
theorem Decimal.wide_iff {d : Decimal} (h : d.significand ≠ 0) (width : Nat) :
    ((width : Int) < d.scale ∨ d.scale < -3) ↔
      d.value < 10 ^ (-4 : Int) ∨ (10 : ℚ) ^ width ≤ d.value := by
  have hlow := zpow_le_value h
  have hhigh := value_lt d
  have hlt : ∀ {i j : Int}, (10 : ℚ) ^ i < 10 ^ j → i < j := (zpow_lt_zpow_iff_right₀ (by norm_num)).mp
  have hle : ∀ {i j : Int}, i ≤ j → (10 : ℚ) ^ i ≤ 10 ^ j := zpow_le_zpow_right₀ (by norm_num)
  rw [or_comm, ← zpow_natCast]
  refine or_congr ⟨fun hscale => ?_, fun hvalue => ?_⟩ ⟨fun hscale => ?_, fun hvalue => ?_⟩
  · exact hhigh.trans_le (hle (by omega))
  · have hscale := hlt (hlow.trans_lt hvalue)
    omega
  · exact (hle (by omega)).trans hlow
  · exact hlt (hvalue.trans_lt hhigh)

/-! ## The literals of both floating kinds -/

/-- The shortest decimal of a finite number of a floating kind. -/
def shortestDecimal (single : Bool) : Format.double.Magnitude → Decimal :=
  if single then shortestSingle else shortestDouble

variable {m : Format.double.Magnitude}

/-- The shortest decimal of a number that is not zero is a trimmed one that is not zero. -/
theorem exists_shortestDecimal_eq (single : Bool) (hm : m.significand ≠ 0) :
    ∃ d : Decimal, d.significand ≠ 0 ∧ shortestDecimal single m = d.trimmed := by
  have hvalue : ∀ d : Decimal, d.significand = 0 → d.value = 0 := fun d hd => by
    rw [Decimal.value, hd, Nat.cast_zero, zero_mul]
  have hdouble : ∃ d : Decimal, d.significand ≠ 0 ∧ shortestDouble m = d.trimmed := by
    refine ⟨_, fun hzero => hm ?_, rfl⟩
    have hread := ofRat_shortestDouble m
    rw [shortestDouble, Decimal.value_trimmed, hvalue _ hzero, Double.ofRat_zero, Double.zero,
      Double.finite.injEq] at hread
    rw [← hread.2]
    rfl
  cases single with
  | false => exact hdouble
  | true =>
    cases hfound : triedDecimal? m with
    | none =>
      rw [shortestDecimal, if_pos rfl, shortestSingle_of_not_tried hfound]
      exact hdouble
    | some d =>
      refine ⟨d, fun hzero => hm ?_, shortestSingle_of_tried hfound⟩
      obtain ⟨i, -, -, hnarrow⟩ := exists_nearest_of_tried hfound
      have hread : (Double.zero false).toSingle = .finite false m := by
        rw [← Double.ofRat_zero, ← hvalue d hzero, ← Decimal.toDouble_eq]
        exact eq_of_beq hnarrow
      have hzero : (Double.zero false).toSingle = Double.zero false := by decide +kernel
      rw [hzero, Double.zero, Double.finite.injEq] at hread
      rw [← hread.2]
      rfl

theorem exists_finiteLiteral_eq (single negative : Bool) (hm : m.significand ≠ 0) :
    SignificantDigits (shortestDecimal single m).digits ∧
      ∃ p : NumberText, p.negative = negative ∧ finiteLiteral single negative m = p.chars ∧
        p.Writes (shortestDecimal single m).digits (shortestDecimal single m).scale ∧
          (p.exponent.isSome ↔ (shortestDecimal single m).value < 10 ^ (-4 : Int) ∨
            (10 : ℚ) ^ max (shortestDecimal single m).digits.length (literalPrecision single) ≤
              (shortestDecimal single m).value) := by
  obtain ⟨d, hd, heq⟩ := exists_shortestDecimal_eq single hm
  have hdigits : SignificantDigits (shortestDecimal single m).digits := by
    rw [heq]
    exact Decimal.significantDigits_trimmed hd
  have hne : (shortestDecimal single m).significand ≠ 0 := by
    intro hzero
    have hfirst := hdigits.first
    rw [Decimal.digits, hzero] at hfirst
    exact hfirst rfl
  obtain ⟨p, hnegative, hchars, hwrites, hexponent⟩ := Layout.exists_writes
    (literalPrecision single) hdigits negative (shortestDecimal single m).scale
  refine ⟨hdigits, p, hnegative, ?_, hwrites, hexponent.trans (Decimal.wide_iff hne _)⟩
  rw [← hchars, finiteLiteral, Layout.finiteText, if_neg hm]
  rfl

/-- **The form of floating-point literals.**  The literal of a zero is its sign and a zero.  Of any
other finite number let `0.d₁…dₙ · 10^scale` be the shortest decimal.  The literal is a text in normal
form that has these digits and the sign of the number and denotes exactly that decimal, and it has an
exponent exactly if the decimal is below `10^-4` or at least `10^max(n, P)`, where `P` is 7 for the
single and 15 for the double kind. -/
theorem finiteLiteral_form (single negative : Bool) (m : Format.double.Magnitude) :
    (m.significand = 0 →
      finiteLiteral single negative m = (if negative then ['-', '0'] else ['0'])) ∧
    (m.significand ≠ 0 → ∃ (n : Nat) (d : Decimal) (p : NumberText),
      d = (if single then shortestSingle m else shortestDouble m) ∧
      SignificantDigits d.digits ∧ n = d.digits.length ∧
      d.value = (Numeral.ofAscii d.digits : ℚ) * 10 ^ (d.scale - n) ∧
      finiteLiteral single negative m = p.chars ∧ p.Normal ∧ p.negative = negative ∧
      p.size = d.value ∧ significantDigits p.chars = d.digits ∧
      (p.exponent.isSome ↔ d.value < 10 ^ (-4 : Int) ∨
        (10 : ℚ) ^ max n (if single then 7 else 15) ≤ d.value)) := by
  constructor
  · intro hm
    rw [finiteLiteral, Layout.finiteText, if_pos hm]
    cases negative <;> rfl
  · intro hm
    obtain ⟨hdigits, p, hnegative, hchars, hwrites, hexponent⟩ :=
      exists_finiteLiteral_eq single negative hm
    have hvalue : ∀ d : Decimal,
        d.value = (Numeral.ofAscii d.digits : ℚ) * 10 ^ (d.scale - d.digits.length) := fun d => by
      rw [Decimal.digits, Numeral.ofAscii_toDigits, Decimal.value, Decimal.scale, Decimal.digits,
        add_sub_cancel_left]
    have hshortest : shortestDecimal single m =
        if single then shortestSingle m else shortestDouble m := by
      cases single <;> rfl
    exact ⟨_, _, p, hshortest, hdigits, rfl, hvalue _, hchars, hwrites.normal, hnegative,
      hwrites.size.trans (hvalue _).symm, hwrites.significantDigits_chars, hexponent⟩

end FieldCode
