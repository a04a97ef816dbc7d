import FieldCode.Number.Double
import Mathlib.Algebra.Order.Floor.Semiring
import Mathlib.Data.Int.Log
import Mathlib.Data.Rat.Floor
import Mathlib.Tactic.FieldSimp
import Mathlib.Tactic.Linarith
import Mathlib.Tactic.NormNum
import Mathlib.Tactic.Positivity
import Mathlib.Tactic.Ring

/-!
# Rounding at the numbers of a format and far away from them

Rounding divides a number by the unit of its binade.  `binade_eq_log` says that the binade is the
logarithm to the base two, so the unit of a number of the format is the last bit of its canonical
pair (`Format.unitExponent_value`) and rounding gives the number back (`Format.round?_value`).
Beyond the greatest numbers nothing is found, and close to zero rounding finds zero.

A number on a coarser grid is a number of the format too (`Format.exists_magnitude`); since every
single is a number of the 64-bit format, narrowing twice is narrowing once
(`Double.toSingle_toSingle`).
-/

namespace FieldCode

/-! ## Logarithms -/

theorem two_zpow_le_iff {x : ℚ} (hx : 0 < x) (e : Int) : (2 : ℚ) ^ e ≤ x ↔ e ≤ Int.log 2 x := by
  exact_mod_cast Int.zpow_le_iff_le_log (b := 2) (by decide) hx

theorem lt_two_zpow_iff {x : ℚ} (hx : 0 < x) (e : Int) : x < (2 : ℚ) ^ e ↔ Int.log 2 x < e := by
  exact_mod_cast Int.lt_zpow_iff_log_lt (b := 2) (by decide) hx

/-- The logarithm to the base two is pinned by two neighbouring powers. -/
theorem log_eq_of_zpow_le {x : ℚ} {e : Int} (hlow : (2 : ℚ) ^ e ≤ x) (hhigh : x < 2 ^ (e + 1)) :
    Int.log 2 x = e := by
  have hx : 0 < x := lt_of_lt_of_le (zpow_pos two_pos e) hlow
  have hle := (two_zpow_le_iff hx e).mp hlow
  have hlt := (lt_two_zpow_iff hx (e + 1)).mp hhigh
  omega

/-- The leading bit of a natural number, moved by a power of two. -/
theorem log_natCast_mul_zpow {m : Nat} (hm : m ≠ 0) (q : Int) :
    Int.log 2 ((m : ℚ) * 2 ^ q) = m.log2 + q := by
  have hlow : (2 : ℚ) ^ (m.log2 : Int) ≤ m := by exact_mod_cast Nat.log2_self_le hm
  have hhigh : (m : ℚ) < 2 ^ ((m.log2 : Int) + 1) := by exact_mod_cast Nat.lt_log2_self (n := m)
  refine log_eq_of_zpow_le ?_ ?_
  · rw [zpow_add₀ two_ne_zero]
    exact mul_le_mul_of_nonneg_right hlow (zpow_pos two_pos q).le
  · rw [add_right_comm, zpow_add₀ two_ne_zero]
    exact mul_lt_mul_of_pos_right hhigh (zpow_pos two_pos q)

/-- The logarithm of a fraction is the difference of the leading bits, or one less. -/
theorem two_zpow_log2_sub_bounds {a b : Nat} (ha : a ≠ 0) (hb : b ≠ 0) :
    (2 : ℚ) ^ ((a.log2 : Int) - b.log2 - 1) ≤ a / b ∧
      (a / b : ℚ) < 2 ^ ((a.log2 : Int) - b.log2 + 1) := by
  have halow : (2 : ℚ) ^ (a.log2 : Int) ≤ a := by exact_mod_cast Nat.log2_self_le ha
  have hahigh : (a : ℚ) < 2 ^ ((a.log2 : Int) + 1) := by exact_mod_cast Nat.lt_log2_self (n := a)
  have hblow : (2 : ℚ) ^ (b.log2 : Int) ≤ b := by exact_mod_cast Nat.log2_self_le hb
  have hbhigh : (b : ℚ) < 2 ^ ((b.log2 : Int) + 1) := by exact_mod_cast Nat.lt_log2_self (n := b)
  have hbpos : (0 : ℚ) < b := by exact_mod_cast Nat.pos_of_ne_zero hb
  constructor
  · rw [le_div_iff₀ hbpos]
    calc (2 : ℚ) ^ ((a.log2 : Int) - b.log2 - 1) * b
        ≤ 2 ^ ((a.log2 : Int) - b.log2 - 1) * 2 ^ ((b.log2 : Int) + 1) :=
          mul_le_mul_of_nonneg_left hbhigh.le (zpow_pos two_pos _).le
      _ = 2 ^ (a.log2 : Int) := by rw [← zpow_add₀ two_ne_zero]; congr 1; ring
      _ ≤ a := halow
  · rw [div_lt_iff₀ hbpos]
    calc (a : ℚ) < 2 ^ ((a.log2 : Int) + 1) := hahigh
      _ = 2 ^ ((a.log2 : Int) - b.log2 + 1) * 2 ^ (b.log2 : Int) := by
          rw [← zpow_add₀ two_ne_zero]; congr 1; ring
      _ ≤ 2 ^ ((a.log2 : Int) - b.log2 + 1) * b :=
          mul_le_mul_of_nonneg_left hblow (zpow_pos two_pos _).le

theorem binade_eq_log {x : ℚ} (hx : 0 < x) : binade x = Int.log 2 x := by
  have hnum : 0 < x.num := Rat.num_pos.mpr hx
  have hfraction : x = (x.num.toNat : ℚ) / x.den := by
    have hcast : ((x.num.toNat : ℤ) : ℚ) = x.num := by rw [Int.toNat_of_nonneg hnum.le]
    rw [← Int.cast_natCast, hcast, Rat.num_div_den]
  obtain ⟨hlow, hhigh⟩ :=
    two_zpow_log2_sub_bounds (a := x.num.toNat) (b := x.den) (by omega) x.den_nz
  rw [← hfraction] at hlow hhigh
  rw [binade]
  split
  · rename_i hle
    exact (log_eq_of_zpow_le hle hhigh).symm
  · rename_i hlt
    rw [not_le] at hlt
    exact (log_eq_of_zpow_le hlow (by rwa [sub_add_cancel])).symm

/-! ## The nearest integer -/

theorem nearestEven_intCast (n : Int) : nearestEven (n : ℚ) = n := by
  simp [nearestEven, Rat.floor_intCast]

theorem nearestEven_eq_zero {x : ℚ} (hx : 0 ≤ x) (hhalf : x < 1 / 2) : nearestEven x = 0 := by
  have hfloor : x.floor = 0 := by
    have hlow := Rat.le_floor_iff.mpr (show ((0 : Int) : ℚ) ≤ x by exact_mod_cast hx)
    have hhigh := Rat.floor_lt_iff.mpr (show x < ((1 : Int) : ℚ) by push_cast; linarith)
    omega
  rw [nearestEven, hfloor, Int.cast_zero, sub_zero]
  exact if_pos hhalf

namespace Format

variable {f : Format}

/-! ## Numbers of a format -/

theorem bound_eq (f : Format) : f.bound = 2 ^ f.precision :=
  rfl

theorem Magnitude.value_pos {m : f.Magnitude} (h : m.significand ≠ 0) : 0 < m.value :=
  mul_pos (Nat.cast_pos.mpr (Nat.pos_of_ne_zero h)) (zpow_pos two_pos _)

theorem Magnitude.significand_ne_zero {m : f.Magnitude} (h : 0 < m.value) : m.significand ≠ 0 := by
  intro hzero
  rw [Magnitude.value, hzero, Nat.cast_zero, zero_mul] at h
  exact lt_irrefl 0 h

/-- The unit of a number of the format is the last bit of its significand. -/
theorem unitExponent_value (m : f.Magnitude) : f.unitExponent m.value = m.exponent := by
  obtain ⟨hbound, hmin, -, hcanonical⟩ := m.canonical
  by_cases hm : m.significand = 0
  · have hvalue : m.value = 0 := by rw [Magnitude.value, hm, Nat.cast_zero, zero_mul]
    have hpos : 0 < f.bound := Nat.pow_pos (by decide)
    rw [unitExponent, if_pos hvalue]
    omega
  · rw [unitExponent, if_neg (Magnitude.value_pos hm).ne', binade_eq_log (Magnitude.value_pos hm),
      Magnitude.value, log_natCast_mul_zpow hm]
    have hbits : m.significand.log2 < f.precision := (Nat.log2_lt hm).mpr hbound
    rcases hcanonical with hleading | hexponent
    · have hpower : 2 ^ f.precision < 2 ^ (m.significand.log2 + 2) := by
        have hlog := Nat.lt_log2_self (n := m.significand)
        rw [bound_eq] at hleading
        rw [Nat.pow_succ]
        omega
      have hlt := (Nat.pow_lt_pow_iff_right (by decide)).mp hpower
      omega
    · omega

theorem magnitude?_of_canonical {m : Nat} {q : Int} (h : f.Canonical m q) :
    f.magnitude? m q = some ⟨m, q, h⟩ := by
  unfold magnitude?
  simp only [h.1, if_true, h, dif_pos]

theorem round?_value (m : f.Magnitude) : f.round? m.value = some m := by
  have hexact : m.value / 2 ^ m.exponent = ((m.significand : Int) : ℚ) := by
    rw [Magnitude.value, mul_div_assoc, div_self (zpow_pos two_pos _).ne', mul_one,
      Int.cast_natCast]
  rw [round?, unitExponent_value, hexact, nearestEven_intCast, Int.toNat_natCast]
  exact magnitude?_of_canonical m.canonical

/-- A pair with a short significand and an exponent within the range stands for a number of the
format, though it need not be canonical. -/
theorem exists_magnitude {m : Nat} {q : Int} (hm : m < f.bound) (hmin : f.minExponent ≤ q)
    (hmax : q ≤ f.maxExponent) : ∃ s : f.Magnitude, s.value = (m : ℚ) * 2 ^ q := by
  by_cases hzero : m = 0
  · refine ⟨f.zero (hmin.trans hmax), ?_⟩
    rw [Magnitude.value, hzero]
    simp [zero]
  · -- the significand moves up until it has its leading bit or the exponent is the least
    have hbits : m.log2 < f.precision := (Nat.log2_lt hzero).mpr hm
    obtain ⟨j, hj⟩ : ∃ j, j = min (q - f.minExponent).toNat (f.precision - 1 - m.log2) := ⟨_, rfl⟩
    have hbound : m * 2 ^ j < f.bound := by
      calc m * 2 ^ j < 2 ^ (m.log2 + 1) * 2 ^ j :=
            Nat.mul_lt_mul_of_pos_right Nat.lt_log2_self (Nat.pow_pos (by decide))
        _ = 2 ^ (m.log2 + 1 + j) := (Nat.pow_add ..).symm
        _ ≤ 2 ^ f.precision := Nat.pow_le_pow_right (by decide) (by omega)
    have hcanonical : f.bound ≤ 2 * (m * 2 ^ j) ∨ q - j = f.minExponent := by
      by_cases hfull : j = f.precision - 1 - m.log2
      · left
        calc 2 ^ f.precision = 2 ^ (m.log2 + j + 1) := by congr 1; omega
          _ = 2 * (2 ^ m.log2 * 2 ^ j) := by rw [Nat.pow_succ, Nat.pow_add, Nat.mul_comm]
          _ ≤ 2 * (m * 2 ^ j) :=
            Nat.mul_le_mul_left 2 (Nat.mul_le_mul_right _ (Nat.log2_self_le hzero))
      · right
        omega
    refine ⟨⟨m * 2 ^ j, q - j, hbound, by omega, by omega, hcanonical⟩, ?_⟩
    show ((m * 2 ^ j : Nat) : ℚ) * 2 ^ (q - j) = m * 2 ^ q
    rw [Nat.cast_mul, Nat.cast_pow, Nat.cast_ofNat, mul_assoc, ← zpow_natCast,
      ← zpow_add₀ two_ne_zero]
    congr 2
    ring

theorem round?_eq_none {x : ℚ} (h : (2 : ℚ) ^ (f.maxExponent + f.precision) ≤ x) :
    f.round? x = none := by
  have hx : 0 < x := lt_of_lt_of_le (zpow_pos two_pos _) h
  have hlog := (two_zpow_le_iff hx _).mp h
  have hunit : f.maxExponent < f.unitExponent x := by
    rw [unitExponent, if_neg hx.ne', binade_eq_log hx]
    omega
  rw [round?, magnitude?]
  refine dif_neg ?_
  rintro ⟨-, -, hle, -⟩
  split at hle <;> dsimp only at hle <;> omega

/-- The numbers of a format are below the power of two behind the greatest. -/
theorem Magnitude.value_lt (m : f.Magnitude) : m.value < 2 ^ (f.maxExponent + f.precision) := by
  by_contra hge
  have hnone := round?_eq_none (not_lt.mp hge)
  rw [round?_value] at hnone
  cases hnone

theorem round?_eq_zero (range : f.minExponent ≤ f.maxExponent) {x : ℚ} (hx : 0 ≤ x)
    (h : x < 2 ^ (f.minExponent - 1)) : f.round? x = some (f.zero range) := by
  have hunit : f.unitExponent x = f.minExponent := by
    rw [unitExponent]
    split
    · rfl
    · rename_i hne
      have hpos := lt_of_le_of_ne hx (Ne.symm hne)
      have hlog := (lt_two_zpow_iff hpos _).mp h
      rw [binade_eq_log hpos]
      omega
  have hhalf : x / 2 ^ f.minExponent < 1 / 2 := by
    rw [div_lt_iff₀ (zpow_pos two_pos _)]
    calc x < 2 ^ (f.minExponent - 1) := h
      _ = 1 / 2 * 2 ^ f.minExponent := by
        rw [sub_eq_add_neg, zpow_add₀ two_ne_zero, zpow_neg_one]
        ring
  have hzero := nearestEven_eq_zero (div_nonneg hx (zpow_pos two_pos _).le) hhalf
  rw [round?, hunit, hzero, Int.toNat_zero]
  exact magnitude?_of_canonical (f.zero range).canonical

end Format

/-! ## Doubles and singles -/

namespace Double

/-- The double nearest to a number of the 64-bit format is that number. -/
theorem ofRat_value (negative : Bool) (m : Format.double.Magnitude) :
    ofRat negative m.value = finite negative m := by
  rw [ofRat, Format.round?_value]

theorem ofRat_zero (negative : Bool) : ofRat negative 0 = zero negative := by
  rw [ofRat, Format.round?_eq_zero (by decide) le_rfl (zpow_pos two_pos _)]
  rfl

theorem finite_eq_zero {m : Format.double.Magnitude} (h : m.significand = 0) (negative : Bool) :
    finite negative m = zero negative := by
  have hvalue : m.value = 0 := by rw [Format.Magnitude.value, h, Nat.cast_zero, zero_mul]
  rw [← ofRat_value, hvalue, ofRat_zero]

theorem ofRat_eq_finite {x : ℚ} {m : Format.double.Magnitude} {n : Bool}
    (h : ofRat n x = finite n m)
    (negative : Bool) : ofRat negative x = finite negative m := by
  unfold ofRat at h ⊢
  cases hround : Format.double.round? x with
  | none => simp [hround] at h
  | some m' =>
    rw [hround] at h
    injection h with _ hm
    rw [hm]

theorem toSingle_eq_finite {m s : Format.double.Magnitude} {n : Bool}
    (h : (finite n m).toSingle = finite n s) (negative : Bool) :
    (finite negative m).toSingle = finite negative s := by
  unfold toSingle at h ⊢
  dsimp only at h ⊢
  cases hround : Format.single.round? m.value with
  | none => simp [hround] at h
  | some s' =>
    rw [hround] at h
    exact ofRat_eq_finite h negative

theorem toSingle_ofRat_eq_finite {x : ℚ} {s : Format.double.Magnitude} {n : Bool}
    (h : (ofRat n x).toSingle = finite n s) (negative : Bool) :
    (ofRat negative x).toSingle = finite negative s := by
  unfold ofRat at h ⊢
  cases hround : Format.double.round? x with
  | none => simp [hround, toSingle] at h
  | some m =>
    rw [hround] at h
    exact toSingle_eq_finite h negative

theorem exists_double_value (s : Format.single.Magnitude) :
    ∃ m : Format.double.Magnitude, m.value = s.value := by
  obtain ⟨hbound, hmin, hmax, -⟩ := s.canonical
  refine Format.exists_magnitude (hbound.trans (by decide)) ?_ ?_
  · exact le_trans (by decide) hmin
  · exact le_trans hmax (by decide)

theorem toSingle_toSingle (x : Double) : x.toSingle.toSingle = x.toSingle := by
  cases x with
  | nan => rfl
  | infinite negative => rfl
  | finite negative m =>
    cases hround : Format.single.round? m.value with
    | none => simp only [toSingle, hround]
    | some s =>
      obtain ⟨m', hm'⟩ := exists_double_value s
      have hnarrow : (finite negative m).toSingle = finite negative m' := by
        simp only [toSingle, hround]
        rw [← hm', ofRat_value]
      rw [hnarrow]
      simp only [toSingle, hm', Format.round?_value]
      rw [← hm', ofRat_value]

end Double

end FieldCode
