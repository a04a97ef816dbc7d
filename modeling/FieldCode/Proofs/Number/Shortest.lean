import FieldCode.Number.Shortest
import FieldCode.Proofs.Number.Digits
import FieldCode.Proofs.Number.Rounding

/-!
# The digits of a double read back

A decimal is read by rounding its value; that some decimals are decided by their scale alone makes
no difference (`Decimal.toDouble_eq`).  So reading depends on the value only, and what the searches
return has the value that they tried, or the exact one: trailing zeros and the ways to lay it out do
not matter.

* `ofRat_shortestDouble`: the digits found for a double read as that double.
* `toSingle_shortestSingle`: the digits found for a single read as a double that narrows to that
  single.
-/

namespace FieldCode

namespace Decimal

/-! ## The value of a decimal -/

theorem value_lt (d : Decimal) : d.value < 10 ^ d.scale := by
  have hlt : (d.significand : ℚ) < 10 ^ (d.digits.length : Int) := by
    rw [zpow_natCast]
    exact_mod_cast lt_pow_length_toDigits d.significand
  calc d.value = (d.significand : ℚ) * 10 ^ d.exponent := rfl
    _ < 10 ^ (d.digits.length : Int) * 10 ^ d.exponent :=
      mul_lt_mul_of_pos_right hlt (zpow_pos (by norm_num) _)
    _ = 10 ^ d.scale := (zpow_add₀ (by norm_num) _ _).symm

/-- A decimal that is not zero reaches the power of ten below that. -/
theorem zpow_le_value {d : Decimal} (h : d.significand ≠ 0) : 10 ^ (d.scale - 1) ≤ d.value := by
  have hpos : 0 < d.digits.length := Nat.length_toDigits_pos
  have hle : (10 : ℚ) ^ ((d.digits.length : Int) - 1) ≤ d.significand := by
    have hpower : (d.digits.length : Int) - 1 = ((d.digits.length - 1 : Nat) : Int) := by omega
    rw [hpower, zpow_natCast]
    exact_mod_cast pow_length_toDigits_le h
  calc (10 : ℚ) ^ (d.scale - 1) = 10 ^ ((d.digits.length : Int) - 1) * 10 ^ d.exponent := by
        rw [← zpow_add₀ (by norm_num), scale]
        congr 1
        ring
    _ ≤ d.significand * 10 ^ d.exponent :=
      mul_le_mul_of_nonneg_right hle (zpow_pos (by norm_num) _).le

theorem value_trim (significand : Nat) (exponent : Int) :
    (trim significand exponent).value = (significand : ℚ) * 10 ^ exponent := by
  fun_induction trim significand exponent with
  | case1 n e h ih =>
    have hn : ((n / 10 : Nat) : ℚ) * 10 = n := by
      have hdiv : n / 10 * 10 = n := by omega
      exact_mod_cast hdiv
    rw [ih, add_comm, zpow_add₀ (by norm_num), zpow_one, ← mul_assoc, hn]
  | case2 n e h => rfl

@[simp]
theorem value_trimmed (d : Decimal) : d.trimmed.value = d.value :=
  value_trim d.significand d.exponent

/-! ## Reading a decimal -/

/-- The scales that decide a decimal lie outside the range of doubles, on both sides. -/
theorem two_zpow_le_ten_zpow : (2 : ℚ) ^ (1075 : Int) ≤ 10 ^ (400 : Int) := by
  calc (2 : ℚ) ^ (1075 : Int)
      ≤ 2 ^ (3 * 400 : Int) := zpow_le_zpow_right₀ (by norm_num) (by norm_num)
    _ = (2 ^ (3 : Int)) ^ (400 : Int) := zpow_mul ..
    _ ≤ 10 ^ (400 : Int) := zpow_le_zpow_left₀ (by norm_num) (by norm_num) (by norm_num)

/-- A decimal is read as the double nearest to its value. -/
theorem toDouble_eq (negative : Bool) (d : Decimal) :
    d.toDouble negative = .ofRat negative d.value := by
  unfold toDouble
  by_cases hzero : d.significand = 0
  · have hvalue : d.value = 0 := by rw [value, hzero, Nat.cast_zero, zero_mul]
    rw [if_pos hzero, hvalue, Double.ofRat_zero]
  rw [if_neg hzero]
  by_cases hlarge : 400 < d.scale
  · have hbeyond : (2 : ℚ) ^ (Format.double.maxExponent + Format.double.precision) ≤ d.value := by
      calc (2 : ℚ) ^ (Format.double.maxExponent + Format.double.precision) ≤ 2 ^ (1075 : Int) :=
            zpow_le_zpow_right₀ (by norm_num) (by decide)
        _ ≤ 10 ^ (400 : Int) := two_zpow_le_ten_zpow
        _ ≤ 10 ^ (d.scale - 1) := zpow_le_zpow_right₀ (by norm_num) (by omega)
        _ ≤ d.value := zpow_le_value hzero
    rw [if_pos hlarge, Double.ofRat, Format.round?_eq_none hbeyond]
  rw [if_neg hlarge]
  by_cases hsmall : d.scale < -400
  · have hbelow : d.value < 2 ^ (Format.double.minExponent - 1) := by
      calc d.value < 10 ^ d.scale := value_lt d
        _ ≤ 10 ^ (-400 : Int) := zpow_le_zpow_right₀ (by norm_num) (by omega)
        _ ≤ 2 ^ (-1075 : Int) := by
          rw [zpow_neg, zpow_neg]
          exact inv_anti₀ (zpow_pos two_pos 1075) two_zpow_le_ten_zpow
        _ = 2 ^ (Format.double.minExponent - 1) := rfl
    have hnonneg : 0 ≤ d.value := mul_nonneg (Nat.cast_nonneg _) (zpow_pos (by norm_num) _).le
    rw [if_pos hsmall, Double.ofRat, Format.round?_eq_zero (by decide) hnonneg hbelow]
    rfl
  · rw [if_neg hsmall]

/-- A decimal that is tried successfully has a value that is rounded to the double. -/
theorem ofRat_of_readsAs {d : Decimal} {m : Format.double.Magnitude} (h : d.readsAs m = true) :
    Double.ofRat false d.value = .finite false m := by
  rw [← toDouble_eq]
  exact eq_of_beq h

end Decimal

/-! ## What the searches return -/

variable {m : Format.double.Magnitude}

/-- The exact expansion has the value of the double. -/
theorem value_exactDecimal (m : Format.double.Magnitude) : (exactDecimal m).value = m.value := by
  unfold exactDecimal
  by_cases hexp : 0 ≤ m.exponent
  · obtain ⟨n, hn⟩ := Int.eq_ofNat_of_zero_le hexp
    rw [if_pos hexp, Decimal.value, Format.Magnitude.value, hn]
    simp
  · obtain ⟨n, hn⟩ : ∃ n : Nat, m.exponent = -n := ⟨(-m.exponent).toNat, by omega⟩
    have hten : (10 : ℚ) ^ n = 2 ^ n * 5 ^ n := by rw [← mul_pow]; norm_num
    rw [if_neg hexp, Decimal.value, Format.Magnitude.value, hn]
    simp only [neg_neg, Int.toNat_natCast, Nat.pow_eq, Nat.cast_mul, Nat.cast_pow, Nat.cast_ofNat,
      zpow_neg, zpow_natCast, hten]
    field_simp

/-- A decimal found among the neighbours reads as the double. -/
theorem readsAs_of_doubleDigits? {n : Nat} {d : Decimal} (h : doubleDigits? m n = some d) :
    d.readsAs m = true := by
  unfold doubleDigits? at h
  dsimp only at h
  split at h
  · rename_i hlow hhigh
    rw [← Option.some.inj h, Decimal.nearer]
    split_ifs <;> assumption
  · rename_i hlow hhigh
    exact Option.some.inj h ▸ hlow
  · rename_i hlow hhigh
    exact Option.some.inj h ▸ hhigh
  · cases h

theorem ofRat_shortestDouble (m : Format.double.Magnitude) :
    Double.ofRat false (shortestDouble m).value = .finite false m := by
  rw [shortestDouble, Decimal.value_trimmed]
  cases hfind : (List.range 17).findSome? fun i => doubleDigits? m (i + 1) with
  | none => rw [Option.getD_none, value_exactDecimal, Double.ofRat_value]
  | some d =>
    obtain ⟨i, -, hi⟩ := List.exists_of_findSome?_eq_some hfind
    exact Decimal.ofRat_of_readsAs (readsAs_of_doubleDigits? hi)

/-- The digits of a single read as a double that narrows to that single. -/
theorem toSingle_shortestSingle (h : (Double.finite false m).toSingle = .finite false m) :
    (Double.ofRat false (shortestSingle m).value).toSingle = .finite false m := by
  unfold shortestSingle
  cases hfind : (List.range 9).findSome? fun i => singleDigits? m (i + 1) with
  | none =>
    dsimp only
    rw [ofRat_shortestDouble, h]
  | some d =>
    obtain ⟨i, -, hi⟩ := List.exists_of_findSome?_eq_some hfind
    unfold singleDigits? at hi
    dsimp only at hi
    split at hi
    · rename_i hnarrow
      dsimp only
      rw [Decimal.value_trimmed, ← Option.some.inj hi, ← Decimal.toDouble_eq]
      exact eq_of_beq hnarrow
    · cases hi

end FieldCode
