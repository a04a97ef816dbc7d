import FieldCode.Proofs.Number.Rounding

/-!
# How far rounding goes, and rounding twice

The nearest integer is at most one half away, and it respects integer bounds.  Divided by the unit of
a binade, these are the bounds of rounding into a format (`Format.round?_eq`), and they hold on the
closed binade, whose upper end is a number of the format too.

A number that is rounded to a double and then to a single goes where rounding it once would take it,
with one exception: the double may stand in the middle between two neighbouring singles while the
number does not.  Then nothing is left of the side on which the number stood
(`Double.round?_eq_or_isMiddleFor`).  Such a number is closer to the middle than the last bit of the
double, which is what makes it rare.
-/

namespace FieldCode

/-! ## The nearest integer -/

theorem floor_le_and_lt (x : ℚ) : (x.floor : ℚ) ≤ x ∧ x < x.floor + 1 := by
  constructor
  · exact Rat.le_floor_iff.mp le_rfl
  · exact_mod_cast Rat.floor_lt_iff.mp (Int.lt_succ x.floor)

/-- The nearest integer is at most one half away. -/
theorem abs_nearestEven_sub_le (x : ℚ) : |(nearestEven x : ℚ) - x| ≤ 1 / 2 := by
  obtain ⟨hlow, hhigh⟩ := floor_le_and_lt x
  rw [nearestEven, abs_le]
  split_ifs with hbelow habove heven
  · constructor <;> linarith
  · push_cast
    constructor <;> linarith
  · constructor <;> linarith
  · push_cast
    constructor <;> linarith

theorem nearestEven_eq_of_abs_sub_lt {x : ℚ} {n : ℤ} (h : |(n : ℚ) - x| < 1 / 2) :
    nearestEven x = n := by
  have hnear := abs_le.mp (abs_nearestEven_sub_le x)
  have hn := abs_lt.mp h
  have hlt : ((nearestEven x - n : ℤ) : ℚ) < 1 := by push_cast; linarith
  have hgt : (-1 : ℚ) < ((nearestEven x - n : ℤ) : ℚ) := by push_cast; linarith
  have hlt' : nearestEven x - n < 1 := by exact_mod_cast hlt
  have hgt' : -1 < nearestEven x - n := by exact_mod_cast hgt
  omega

theorem nearestEven_le {x : ℚ} {n : ℤ} (h : x ≤ n) : nearestEven x ≤ n := by
  have hnear := abs_le.mp (abs_nearestEven_sub_le x)
  have hlt : (nearestEven x : ℚ) < ((n + 1 : ℤ) : ℚ) := by push_cast; linarith
  have hlt' : nearestEven x < n + 1 := by exact_mod_cast hlt
  omega

theorem le_nearestEven {x : ℚ} {n : ℤ} (h : n ≤ x) : n ≤ nearestEven x := by
  have hnear := abs_le.mp (abs_nearestEven_sub_le x)
  have hlt : ((n - 1 : ℤ) : ℚ) < nearestEven x := by push_cast; linarith
  have hlt' : n - 1 < nearestEven x := by exact_mod_cast hlt
  omega

/-- No integer is closer than one half to the middle between two integers. -/
theorem half_le_abs_sub_midpoint (z j : ℤ) : (1 : ℚ) / 2 ≤ |(z : ℚ) - (j + 1 / 2)| := by
  rw [le_abs]
  rcases le_or_gt z j with hle | hgt
  · right
    have hle' : (z : ℚ) ≤ j := by exact_mod_cast hle
    linarith
  · left
    have hgt' : ((j + 1 : ℤ) : ℚ) ≤ z := by exact_mod_cast hgt
    push_cast at hgt'
    linarith

/-- Rounding to integers and then to multiples of an even number is rounding to those multiples,
unless the integer is in the middle between two of them. -/
theorem nearestEven_div_nearestEven {b : ℤ} (hb : 0 < b) {t : ℚ}
    (hmiddle : ∀ j : ℤ, nearestEven t ≠ 2 * b * j + b) :
    nearestEven (nearestEven t / (2 * b : ℤ)) = nearestEven (t / (2 * b : ℤ)) := by
  obtain ⟨r, hr⟩ : ∃ r, r = nearestEven t := ⟨_, rfl⟩
  have hnear := abs_le.mp (abs_nearestEven_sub_le t)
  rw [← hr] at hnear hmiddle ⊢
  have hbpos : (0 : ℚ) < ((2 * b : ℤ) : ℚ) := by exact_mod_cast (by omega : 0 < 2 * b)
  -- an integer `n` is nearest to both if both are less than `b` from its multiple
  have hboth : ∀ n : ℤ, -b < n * (2 * b) - r → n * (2 * b) - r < b →
      nearestEven (r / (2 * b : ℤ)) = n ∧ nearestEven (t / (2 * b : ℤ)) = n := by
    intro n hlow hhigh
    have hlow' : (-b + 1 : ℚ) ≤ n * (2 * b) - r := by exact_mod_cast (by omega : -b + 1 ≤ _)
    have hhigh' : (n * (2 * b) - r : ℚ) ≤ b - 1 := by exact_mod_cast (by omega : _ ≤ b - 1)
    have hdistance : ∀ u : ℚ, (-b : ℚ) < n * (2 * b) - u → (n * (2 * b) - u : ℚ) < b →
        nearestEven (u / (2 * b : ℤ)) = n := by
      intro u hu hu'
      refine nearestEven_eq_of_abs_sub_lt ?_
      have hscaled : (n : ℚ) - u / (2 * b : ℤ) = (n * (2 * b) - u) / (2 * b : ℤ) := by
        rw [sub_div]
        push_cast at hbpos ⊢
        rw [mul_div_assoc, div_self hbpos.ne', mul_one]
      rw [hscaled, abs_lt, lt_div_iff₀ hbpos, div_lt_iff₀ hbpos]
      push_cast
      constructor <;> linarith
    exact ⟨hdistance r (by linarith) (by linarith), hdistance t (by linarith) (by linarith)⟩
  have hdivision := Int.mul_ediv_add_emod r (2 * b)
  have hrest := Int.emod_nonneg r (show 2 * b ≠ 0 by omega)
  have hrest' := Int.emod_lt_of_pos r (show 0 < 2 * b by omega)
  have hne := hmiddle (r / (2 * b))
  rcases lt_or_ge (r % (2 * b)) b with hbelow | habove
  · obtain ⟨hleft, hright⟩ := hboth (r / (2 * b)) (by rw [mul_comm]; omega) (by rw [mul_comm]; omega)
    rw [hleft, hright]
  · obtain ⟨hleft, hright⟩ := hboth (r / (2 * b) + 1)
      (by rw [add_mul, mul_comm]; omega) (by rw [add_mul, mul_comm]; omega)
    rw [hleft, hright]

/-! ## Rounding in a closed binade -/

theorem exists_two_zpow_eq_mul {q e : Int} (h : q ≤ e) :
    ∃ i : Nat, (2 : ℚ) ^ e = ((2 ^ i : ℤ) : ℚ) * 2 ^ q := by
  obtain ⟨i, rfl⟩ : ∃ i : Nat, e = q + i := ⟨(e - q).toNat, by omega⟩
  refine ⟨i, ?_⟩
  rw [zpow_add₀ two_ne_zero, mul_comm, zpow_natCast]
  push_cast
  rfl

namespace Format

variable {f : Format} {x : ℚ} {k : Int}

/-- The exponent of the last bit that is kept in the binade of a power of two. -/
def unitAt (f : Format) (k : Int) : Int :=
  max f.minExponent (k - (f.precision - 1 : Int))

theorem unitAt_single (k : Int) : single.unitAt k = max (-149) (k - 23) :=
  rfl

theorem unitAt_double (k : Int) : double.unitAt k = max (-1074) (k - 52) :=
  rfl

theorem unitExponent_eq (hlow : (2 : ℚ) ^ k ≤ x) (hhigh : x < 2 ^ (k + 1)) :
    f.unitExponent x = f.unitAt k := by
  have hx : 0 < x := lt_of_lt_of_le (zpow_pos two_pos k) hlow
  rw [unitExponent, if_neg hx.ne', binade_eq_log hx, log_eq_of_zpow_le hlow hhigh, unitAt]

/-- A significand that has run over its last bit is carried into the exponent. -/
theorem magnitude?_carry {p : Nat} (hp : f.precision = p + 1) (q : Int) :
    f.magnitude? (2 ^ (p + 1)) q = f.magnitude? (2 ^ p) (q + 1) := by
  have hbound : f.bound = 2 ^ (p + 1) := by rw [bound_eq, hp]
  have hcarry : ¬ 2 ^ (p + 1) < f.bound := by rw [hbound]; exact lt_irrefl _
  have hkeep : 2 ^ p < f.bound := by
    rw [hbound]
    exact Nat.pow_lt_pow_right (by decide) (Nat.lt_succ_self p)
  have hdiv : 2 ^ (p + 1) / 2 = 2 ^ p := by rw [Nat.pow_succ]; omega
  unfold magnitude?
  simp only [if_pos hkeep, if_neg hcarry, hdiv]

/-- In a binade, its upper end included, rounding keeps multiples of one unit. -/
theorem round?_eq (hprecision : 0 < f.precision) (hlow : (2 : ℚ) ^ k ≤ x)
    (hhigh : x ≤ 2 ^ (k + 1)) :
    f.round? x = f.magnitude? (nearestEven (x / 2 ^ f.unitAt k)).toNat (f.unitAt k) := by
  rcases lt_or_eq_of_le hhigh with hlt | rfl
  · rw [round?, unitExponent_eq hlow hlt]
  · -- the upper end belongs to the next binade, whose unit may be twice as large
    have hnext : f.unitExponent ((2 : ℚ) ^ (k + 1)) = f.unitAt (k + 1) :=
      unitExponent_eq le_rfl (zpow_lt_zpow_right₀ one_lt_two (by omega))
    rw [round?, hnext]
    by_cases hmin : k + 1 - (f.precision - 1 : Int) ≤ f.minExponent
    · rw [unitAt, unitAt, max_eq_left hmin, max_eq_left (by omega)]
    · have hunit : f.unitAt k = k - (f.precision - 1 : Int) := max_eq_right (by omega)
      have hunit' : f.unitAt (k + 1) = f.unitAt k + 1 := by
        rw [hunit, unitAt, max_eq_right (by omega)]
        ring
      obtain ⟨p, hp⟩ : ∃ p : Nat, f.precision = p + 1 := ⟨f.precision - 1, by omega⟩
      have hquotient : ∀ (i : Nat) (q : Int), k + 1 - q = i →
          (2 : ℚ) ^ (k + 1) / 2 ^ q = ((2 ^ i : Nat) : ℤ) := by
        intro i q hq
        rw [← zpow_sub₀ two_ne_zero, hq]
        push_cast
        rw [zpow_natCast]
      rw [hunit', hquotient (p + 1) (f.unitAt k) (by omega),
        hquotient p (f.unitAt k + 1) (by omega), nearestEven_intCast, nearestEven_intCast,
        Int.toNat_natCast, Int.toNat_natCast, magnitude?_carry hp]

/-- A pair whose significand is at most the bound stands for the number that it makes. -/
theorem value_of_magnitude? {m : Nat} {q : Int} {s : f.Magnitude} (hm : m ≤ f.bound)
    (hprecision : 0 < f.precision) (h : f.magnitude? m q = some s) : s.value = m * 2 ^ q := by
  unfold magnitude? at h
  by_cases hkeep : m < f.bound
  · simp only [if_pos hkeep, Option.dite_none_right_eq_some, Option.some.injEq] at h
    obtain ⟨_, rfl⟩ := h
    rfl
  · obtain rfl : m = f.bound := le_antisymm hm (not_lt.mp hkeep)
    simp only [if_neg hkeep, Option.dite_none_right_eq_some, Option.some.injEq] at h
    obtain ⟨_, rfl⟩ := h
    obtain ⟨p, hp⟩ : ∃ p : Nat, f.precision = p + 1 := ⟨f.precision - 1, by omega⟩
    have hdiv : f.bound / 2 = 2 ^ p := by rw [bound_eq, hp, Nat.pow_succ]; omega
    rw [Magnitude.value]
    simp only [hdiv]
    rw [bound_eq, hp, zpow_add_one₀ two_ne_zero]
    push_cast
    ring

/-- In units a number of a binade is at most the bound of the significands. -/
theorem nearestEven_le_bound (hhigh : x ≤ 2 ^ (k + 1)) :
    nearestEven (x / 2 ^ f.unitAt k) ≤ ((f.bound : Nat) : ℤ) := by
  refine nearestEven_le ?_
  rw [div_le_iff₀ (zpow_pos two_pos _), bound_eq]
  push_cast
  rw [← zpow_natCast, ← zpow_add₀ two_ne_zero]
  have hunit : k - (f.precision - 1 : Int) ≤ f.unitAt k := le_max_right _ _
  exact hhigh.trans (zpow_le_zpow_right₀ one_le_two (by omega))

section Binade

variable {s : f.Magnitude} (hprecision : 0 < f.precision) (hlow : (2 : ℚ) ^ k ≤ x)
  (hhigh : x ≤ 2 ^ (k + 1)) (h : f.round? x = some s)

include hprecision hlow hhigh h

/-- What a number of the binade is rounded to, as a multiple of the unit. -/
theorem value_of_round? : s.value = nearestEven (x / 2 ^ f.unitAt k) * 2 ^ f.unitAt k := by
  have hnonneg : 0 ≤ nearestEven (x / 2 ^ f.unitAt k) :=
    le_nearestEven (by
      rw [Int.cast_zero]
      exact div_nonneg ((zpow_pos two_pos k).le.trans hlow) (zpow_pos two_pos _).le)
  have hle := nearestEven_le_bound (f := f) hhigh
  rw [round?_eq hprecision hlow hhigh] at h
  rw [value_of_magnitude? (by omega) hprecision h, ← Int.cast_natCast, Int.toNat_of_nonneg hnonneg]

theorem abs_sub_value_le : |x - s.value| ≤ 2 ^ (f.unitAt k - 1) := by
  have hunit : (0 : ℚ) < 2 ^ f.unitAt k := zpow_pos two_pos _
  have hnear := abs_nearestEven_sub_le (x / 2 ^ f.unitAt k)
  have hscaled : x - s.value =
      -((nearestEven (x / 2 ^ f.unitAt k) - x / 2 ^ f.unitAt k) * 2 ^ f.unitAt k) := by
    rw [value_of_round? hprecision hlow hhigh h, sub_mul, div_mul_cancel₀ _ hunit.ne']
    ring
  rw [hscaled, abs_neg, abs_mul, abs_of_pos hunit, zpow_sub_one₀ two_ne_zero]
  calc _ ≤ 1 / 2 * (2 : ℚ) ^ f.unitAt k := mul_le_mul_of_nonneg_right hnear hunit.le
    _ = 2 ^ f.unitAt k * 2⁻¹ := by ring

/-- Rounding does not pass a power of two that is a multiple of the unit, from below. -/
theorem value_le_two_zpow {e : Int} (hunit : f.unitAt k ≤ e) (hx : x ≤ 2 ^ e) :
    s.value ≤ 2 ^ e := by
  obtain ⟨n, hpower⟩ := exists_two_zpow_eq_mul hunit
  rw [value_of_round? hprecision hlow hhigh h, hpower]
  refine mul_le_mul_of_nonneg_right (Int.cast_le.mpr (nearestEven_le ?_)) (zpow_pos two_pos _).le
  rwa [div_le_iff₀ (zpow_pos two_pos _), ← hpower]

theorem two_zpow_le_value {e : Int} (hunit : f.unitAt k ≤ e) (hx : (2 : ℚ) ^ e ≤ x) :
    2 ^ e ≤ s.value := by
  obtain ⟨n, hpower⟩ := exists_two_zpow_eq_mul hunit
  rw [value_of_round? hprecision hlow hhigh h, hpower]
  refine mul_le_mul_of_nonneg_right (Int.cast_le.mpr (le_nearestEven ?_)) (zpow_pos two_pos _).le
  rwa [le_div_iff₀ (zpow_pos two_pos _), ← hpower]

end Binade

end Format

/-! ## Rounding twice -/

/-- A number is read as a double that stands in the middle between two neighbouring singles, and is
not that double itself. -/
structure Format.Magnitude.IsMiddleFor (d : Format.double.Magnitude) (x : ℚ) (k : Int) : Prop where
  low : 2 ^ k ≤ d.value
  high : d.value ≤ 2 ^ (k + 1)
  middle : ∃ j : ℤ, d.value = (2 * j + 1) * 2 ^ (Format.single.unitAt k - 1)
  near : |x - d.value| ≤ 2 ^ (k - 53)
  ne : x ≠ d.value

section Twice

variable {x : ℚ} {k : Int} {d : Format.double.Magnitude}

/-- A number that is rounded to a double and then to a single is rounded to that single, unless the
double is in the middle between two singles. -/
theorem Double.round?_eq_or_isMiddleFor (hk : -1022 ≤ k) (hlow : (2 : ℚ) ^ k ≤ x)
    (hhigh : x < 2 ^ (k + 1)) (hd : Format.double.round? x = some d) :
    Format.single.round? d.value = Format.single.round? x ∨ d.IsMiddleFor x k := by
  have hunit : Format.double.unitAt k = k - 52 := by
    rw [Format.unitAt_double]
    omega
  have hcoarser : k - 23 ≤ Format.single.unitAt k := le_max_right _ _
  by_cases hexact : x = d.value
  · exact Or.inl (by rw [hexact])
  have hvalue := Format.value_of_round? (by decide) hlow hhigh.le hd
  have hdlow := Format.two_zpow_le_value (by decide) hlow hhigh.le hd (e := k) (by omega) hlow
  have hdhigh := Format.value_le_two_zpow (by decide) hlow hhigh.le hd (e := k + 1) (by omega)
    hhigh.le
  rw [hunit] at hvalue
  -- the unit of the singles is an even multiple of that of the doubles
  obtain ⟨i, hhalf⟩ :=
    exists_two_zpow_eq_mul (show k - 52 ≤ Format.single.unitAt k - 1 by omega)
  have hwhole : (2 : ℚ) ^ Format.single.unitAt k = ((2 * 2 ^ i : ℤ) : ℚ) * 2 ^ (k - 52) := by
    rw [← sub_add_cancel (Format.single.unitAt k) 1, zpow_add_one₀ two_ne_zero, hhalf]
    push_cast
    ring
  by_cases hmiddle : ∀ j : ℤ, nearestEven (x / 2 ^ (k - 52)) ≠ 2 * 2 ^ i * j + 2 ^ i
  · left
    have hrounded : d.value / 2 ^ Format.single.unitAt k =
        nearestEven (x / 2 ^ (k - 52)) / (2 * 2 ^ i : ℤ) := by
      rw [hvalue, hwhole, mul_div_mul_right _ _ (zpow_pos two_pos _).ne']
    have hgiven : x / 2 ^ Format.single.unitAt k = x / 2 ^ (k - 52) / (2 * 2 ^ i : ℤ) := by
      rw [hwhole, div_div, mul_comm (((2 * 2 ^ i : ℤ) : ℚ))]
    rw [Format.round?_eq (by decide) hdlow hdhigh, Format.round?_eq (by decide) hlow hhigh.le,
      hrounded, hgiven, nearestEven_div_nearestEven (by positivity) hmiddle]
  · right
    rw [not_forall] at hmiddle
    obtain ⟨j, hj⟩ := hmiddle
    rw [not_not] at hj
    refine ⟨hdlow, hdhigh, ⟨j, ?_⟩, ?_, hexact⟩
    · rw [hvalue, hj, hhalf]
      push_cast
      ring
    · have hnear := Format.abs_sub_value_le (by decide) hlow hhigh.le hd
      rwa [hunit, show k - 52 - 1 = k - 53 by ring] at hnear

/-- The middle is half a unit away from the single that it is narrowed to. -/
theorem Format.Magnitude.IsMiddleFor.half_unit_le (h : d.IsMiddleFor x k)
    {t : Format.single.Magnitude} (ht : Format.single.round? d.value = some t) :
    2 ^ (Format.single.unitAt k - 1) ≤ |t.value - d.value| := by
  obtain ⟨j, hj⟩ := h.middle
  have hunit : (0 : ℚ) < 2 ^ Format.single.unitAt k := zpow_pos two_pos _
  have hvalue := Format.value_of_round? (by decide) h.low h.high ht
  have hscaled : t.value - d.value =
      (nearestEven (d.value / 2 ^ Format.single.unitAt k) - (j + 1 / 2)) *
        2 ^ Format.single.unitAt k := by
    rw [hvalue, sub_mul]
    congr 1
    rw [hj, zpow_sub_one₀ two_ne_zero]
    ring
  rw [hscaled, abs_mul, abs_of_pos hunit, zpow_sub_one₀ two_ne_zero]
  calc (2 : ℚ) ^ Format.single.unitAt k * 2⁻¹ = 1 / 2 * 2 ^ Format.single.unitAt k := by ring
    _ ≤ _ := mul_le_mul_of_nonneg_right (half_le_abs_sub_midpoint _ j) hunit.le

/-- What is narrowed to a number other than zero is not far below the smallest single. -/
theorem Double.le_of_narrowed (hlow : (2 : ℚ) ^ k ≤ x) (hhigh : x < 2 ^ (k + 1))
    (hd : Format.double.round? x = some d) {t : Format.single.Magnitude}
    (ht : Format.single.round? d.value = some t) (hne : t.significand ≠ 0) : -200 ≤ k := by
  by_contra hk
  rw [not_le] at hk
  have hunit : Format.double.unitAt k ≤ -200 := by
    rw [Format.unitAt_double]
    omega
  have hsmall : x ≤ 2 ^ (-200 : Int) :=
    hhigh.le.trans (zpow_le_zpow_right₀ one_le_two (by omega))
  have hdsmall := Format.value_le_two_zpow (by decide) hlow hhigh.le hd hunit hsmall
  have hnonneg : 0 ≤ d.value := mul_nonneg (Nat.cast_nonneg _) (zpow_pos two_pos _).le
  have hzero := Format.round?_eq_zero (f := Format.single) (by decide) hnonneg
    (lt_of_le_of_lt hdsmall (zpow_lt_zpow_right₀ one_lt_two (by decide)))
  rw [ht, Option.some.injEq] at hzero
  exact hne (by rw [hzero]; rfl)

end Twice

end FieldCode
