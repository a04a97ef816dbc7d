import FieldCode.Proofs.Number.ReadAs

/-!
# Narrowing is correct rounding

The numbers of the 32-bit format are said here in words of their own (`IsSingleOf`): a significand of
24 bits, its leading bit set unless the spacing is the least one, `2^-149`.  A rational is rounded
correctly to one of them if no other is nearer, and if of two that are equally near it is the one
whose significand is even (`IsNearestSingle`).  That determines the number
(`IsNearestSingle.unique`), and it is all that monotonicity needs (`IsNearestSingle.mono`).

A number of any format is either a multiple of the unit at which a rational is rounded, or it lies
below the binade of the rational, and then the power of two at which the binade begins is nearer.  So
the nearest integer, which is known to be even in the middle between two others
(`nearestEven_of_tie`), gives the nearest number of the format (`Format.abs_sub_round?_le`) and
decides ties (`Format.even_odd_of_tie`).  Nothing is found exactly from the middle between the
greatest single and the next power of two on (`round?_single_eq_none_iff`).

The main result, `toSingle_rounds_correctly`, says this of narrowing for every double, and what
follows from it.
-/

namespace FieldCode

/-! ## The nearest integer -/

theorem even_nearestEven_middle (n : ℤ) : Even (nearestEven ((n : ℚ) + 1 / 2)) := by
  have hfloor : ((n : ℚ) + 1 / 2).floor = n := by
    refine le_antisymm (Int.lt_add_one_iff.mp (Rat.floor_lt_iff.mpr ?_)) (Rat.le_floor_iff.mpr ?_)
    · push_cast
      linarith
    · linarith
  rw [nearestEven, hfloor, add_sub_cancel_left, if_neg (lt_irrefl _), if_neg (lt_irrefl _),
    Int.even_iff]
  split <;> omega

/-- Of two integers that are equally near, the nearest one is even and the other one odd. -/
theorem nearestEven_of_tie {x : ℚ} {j : ℤ} (hne : j ≠ nearestEven x)
    (htie : |(j : ℚ) - x| = |(nearestEven x : ℚ) - x|) : Even (nearestEven x) ∧ Odd j := by
  obtain ⟨n, hn⟩ : ∃ n, n = nearestEven x := ⟨_, rfl⟩
  have hnear := abs_le.mp (abs_nearestEven_sub_le x)
  rw [← hn] at hne htie hnear
  have hopposite : (j : ℚ) - x = -(n - x) := by
    refine (abs_eq_abs.mp htie).resolve_left fun heq => hne ?_
    exact_mod_cast sub_left_inj.mp heq
  have hneighbour : j = n + 1 ∨ n = j + 1 := by
    have hhigh : ((j - n : ℤ) : ℚ) ≤ (1 : ℤ) := by push_cast; linarith
    have hlow : ((-1 : ℤ) : ℚ) ≤ (j - n : ℤ) := by push_cast; linarith
    have hhigh' : j - n ≤ 1 := by exact_mod_cast hhigh
    have hlow' : -1 ≤ j - n := by exact_mod_cast hlow
    omega
  have heven : Even n := by
    rcases hneighbour with rfl | rfl
    · have hx : x = n + 1 / 2 := by push_cast at hopposite; linarith
      rw [hn, hx]
      exact even_nearestEven_middle n
    · have hx : x = j + 1 / 2 := by push_cast at hopposite; linarith
      rw [hn, hx]
      exact even_nearestEven_middle j
  refine ⟨hn ▸ heven, ?_⟩
  rw [Int.even_iff] at heven
  rw [Int.odd_iff]
  omega

/-- The distance to a multiple of a power of two, measured in that power. -/
theorem abs_sub_mul_zpow (x : ℚ) (i q : ℤ) :
    |x - i * 2 ^ q| = |(i : ℚ) - x / 2 ^ q| * 2 ^ q := by
  have hpower : (0 : ℚ) < 2 ^ q := zpow_pos two_pos _
  rw [abs_sub_comm, ← abs_of_pos hpower, ← abs_mul, abs_of_pos hpower, sub_mul,
    div_mul_cancel₀ _ hpower.ne']

/-! ## The nearest number of a format -/

namespace Format

variable {f : Format} {x : ℚ} {k : Int} {s t : f.Magnitude}

theorem Magnitude.value_nonneg (t : f.Magnitude) : 0 ≤ t.value :=
  mul_nonneg (Nat.cast_nonneg _) (zpow_pos two_pos _).le

theorem Magnitude.exists_multiple (h : f.unitAt k ≤ t.exponent) :
    t.value = ((t.significand * 2 ^ (t.exponent - f.unitAt k).toNat : ℕ) : ℤ) * 2 ^ f.unitAt k := by
  rw [Magnitude.value]
  push_cast
  rw [mul_assoc, ← zpow_natCast, ← zpow_add₀ two_ne_zero]
  congr 2
  omega

theorem Magnitude.value_lt_two_zpow (hprecision : 0 < f.precision) (h : t.exponent < f.unitAt k) :
    t.value < 2 ^ k ∧ f.unitAt k ≤ k := by
  obtain ⟨hbound, hmin, -, -⟩ := t.canonical
  have hunit : f.unitAt k = k - (f.precision - 1 : Int) := by
    rw [unitAt] at h ⊢
    omega
  refine ⟨?_, by omega⟩
  have hsignificand : (t.significand : ℚ) < 2 ^ (f.precision : Int) := by
    rw [zpow_natCast]
    exact_mod_cast hbound
  calc t.value < 2 ^ (f.precision : Int) * 2 ^ t.exponent :=
        mul_lt_mul_of_pos_right hsignificand (zpow_pos two_pos _)
    _ = 2 ^ (f.precision + t.exponent) := (zpow_add₀ two_ne_zero _ _).symm
    _ ≤ 2 ^ k := zpow_le_zpow_right₀ one_le_two (by omega)

theorem even_significand_of_magnitude? {m : Nat} {q : Int} (hprecision : 1 < f.precision)
    (hm : m ≤ f.bound) (heven : Even m) (h : f.magnitude? m q = some s) : Even s.significand := by
  unfold magnitude? at h
  by_cases hkeep : m < f.bound
  · simp only [if_pos hkeep, Option.dite_none_right_eq_some, Option.some.injEq] at h
    obtain ⟨_, rfl⟩ := h
    exact heven
  · obtain rfl : m = f.bound := le_antisymm hm (not_lt.mp hkeep)
    simp only [if_neg hkeep, Option.dite_none_right_eq_some, Option.some.injEq] at h
    obtain ⟨_, rfl⟩ := h
    obtain ⟨p, hp⟩ : ∃ p : Nat, f.precision = p + 2 := ⟨f.precision - 2, by omega⟩
    refine ⟨2 ^ p, ?_⟩
    show f.bound / 2 = 2 ^ p + 2 ^ p
    rw [bound_eq, hp, Nat.pow_add]
    omega

section Binade

variable (hprecision : 1 < f.precision) (hlow : (2 : ℚ) ^ k ≤ x) (hhigh : x < 2 ^ (k + 1))
  (h : f.round? x = some s)

include hprecision hlow hhigh h

/-- No multiple of the unit is nearer than what a number is rounded to. -/
theorem abs_sub_round?_le_multiple (j : ℤ) : |x - s.value| ≤ |x - j * 2 ^ f.unitAt k| := by
  rw [value_of_round? (by omega) hlow hhigh.le h, abs_sub_mul_zpow, abs_sub_mul_zpow]
  exact mul_le_mul_of_nonneg_right (abs_nearestEven_sub_le_abs_sub _ j) (zpow_pos two_pos _).le

theorem abs_sub_round?_lt_of_lt (hexponent : t.exponent < f.unitAt k) :
    |x - s.value| < |x - t.value| := by
  obtain ⟨hbelow, hunit⟩ := t.value_lt_two_zpow (by omega) hexponent
  obtain ⟨i, hi⟩ := exists_two_zpow_eq_mul hunit
  calc |x - s.value| ≤ |x - 2 ^ k| := by
        rw [hi]
        exact abs_sub_round?_le_multiple hprecision hlow hhigh h _
    _ = x - 2 ^ k := abs_of_nonneg (sub_nonneg.mpr hlow)
    _ < x - t.value := by linarith
    _ ≤ |x - t.value| := le_abs_self _

theorem abs_sub_round?_le_of_binade : |x - s.value| ≤ |x - t.value| := by
  rcases lt_or_ge t.exponent (f.unitAt k) with hlt | hge
  · exact (abs_sub_round?_lt_of_lt hprecision hlow hhigh h hlt).le
  · rw [t.exists_multiple hge]
    exact abs_sub_round?_le_multiple hprecision hlow hhigh h _

/-- Of two numbers of the format that are equally near, the one with the even significand is taken. -/
theorem even_odd_of_tie_of_binade (hne : t.value ≠ s.value)
    (htie : |x - t.value| = |x - s.value|) : Even s.significand ∧ Odd t.significand := by
  have hexponent : f.unitAt k ≤ t.exponent := by
    by_contra hlt
    exact (abs_sub_round?_lt_of_lt hprecision hlow hhigh h (not_le.mp hlt)).ne' htie
  have hs := value_of_round? (by omega) hlow hhigh.le h
  have ht := t.exists_multiple hexponent
  rw [ht, hs] at hne
  rw [ht, hs, abs_sub_mul_zpow, abs_sub_mul_zpow] at htie
  obtain ⟨heven, hodd⟩ := nearestEven_of_tie (fun heq => hne (by rw [heq]))
    (mul_right_cancel₀ (zpow_pos two_pos _).ne' htie)
  have hbound := nearestEven_le_bound (f := f) hhigh.le
  rw [round?_eq (by omega) hlow hhigh.le] at h
  refine ⟨even_significand_of_magnitude? hprecision (by omega) ?_ h, ?_⟩
  · rw [Int.even_iff] at heven
    rw [Nat.even_iff]
    omega
  · exact (Nat.odd_mul.mp ((Int.odd_coe_nat _).mp hodd)).1

end Binade

theorem exists_binade (hx : 0 < x) : ∃ k : Int, (2 : ℚ) ^ k ≤ x ∧ x < 2 ^ (k + 1) :=
  ⟨Int.log 2 x, (two_zpow_le_iff hx _).mpr le_rfl, (lt_two_zpow_iff hx _).mpr (Int.lt_succ _)⟩

theorem value_of_round?_zero (h : f.round? 0 = some s) : s.value = 0 := by
  have hrange : f.minExponent ≤ f.maxExponent := s.canonical.2.1.trans s.canonical.2.2.1
  rw [round?_eq_zero hrange le_rfl (zpow_pos two_pos _), Option.some.injEq] at h
  rw [← h, Magnitude.value, zero, Nat.cast_zero, zero_mul]

section Nonnegative

variable (hprecision : 1 < f.precision) (hx : 0 ≤ x) (h : f.round? x = some s)

include hprecision hx h

/-- No number of the format is nearer than the one that a number is rounded to. -/
theorem abs_sub_round?_le (t : f.Magnitude) : |x - s.value| ≤ |x - t.value| := by
  rcases lt_or_eq_of_le hx with hpos | rfl
  · obtain ⟨k, hlow, hhigh⟩ := exists_binade hpos
    exact abs_sub_round?_le_of_binade hprecision hlow hhigh h
  · rw [value_of_round?_zero h, sub_zero, abs_zero]
    exact abs_nonneg _

/-- Of two that are equally near the one with the even significand is taken. -/
theorem even_odd_of_tie (hne : t.value ≠ s.value) (htie : |x - t.value| = |x - s.value|) :
    Even s.significand ∧ Odd t.significand := by
  rcases lt_or_eq_of_le hx with hpos | rfl
  · obtain ⟨k, hlow, hhigh⟩ := exists_binade hpos
    exact even_odd_of_tie_of_binade hprecision hlow hhigh h hne htie
  · have hs := value_of_round?_zero h
    rw [hs, sub_zero, abs_zero, abs_eq_zero, zero_sub, neg_eq_zero] at htie
    exact absurd (htie.trans hs.symm) hne

end Nonnegative

end Format

/-! ## The range of singles -/

/-- In the last binade, where the unit is `2^104`, the significand runs over from the middle between
the greatest single and the next power of two on. -/
theorem nearestEven_lt_bound_iff (x : ℚ) :
    nearestEven (x / 2 ^ (104 : Int)) < 16777216 ↔ x < 2 ^ 128 - 2 ^ 103 := by
  have hunit : (0 : ℚ) < 2 ^ (104 : Int) := zpow_pos two_pos _
  have hmiddle : x < 2 ^ 128 - 2 ^ 103 ↔ x / 2 ^ (104 : Int) < 16777215 + 1 / 2 := by
    rw [div_lt_iff₀ hunit]
    norm_num
  rw [hmiddle]
  constructor
  · intro hlt
    by_contra hge
    -- the middle itself is rounded to the even neighbour, which is the power of two
    have heven : nearestEven (16777215 + 1 / 2) = 16777216 := by decide +kernel
    have hmono := nearestEven_mono (not_lt.mp hge)
    omega
  · intro hlt
    have hnear := abs_le.mp (abs_nearestEven_sub_le (x / 2 ^ (104 : Int)))
    have hbelow : (nearestEven (x / 2 ^ (104 : Int)) : ℚ) < (16777216 : ℤ) := by
      push_cast
      linarith
    exact_mod_cast hbelow

theorem round?_single_last_binade {x : ℚ} (hlow : (2 : ℚ) ^ (127 : Int) ≤ x)
    (hhigh : x < 2 ^ ((127 : Int) + 1)) :
    Format.single.round? x = none ↔ 2 ^ 128 - 2 ^ 103 ≤ x := by
  have hbound : Format.single.bound = 16777216 := rfl
  have hunit : Format.single.unitAt 127 = 104 := rfl
  have hleading : 8388608 ≤ nearestEven (x / 2 ^ (104 : Int)) := by
    refine le_nearestEven ?_
    rw [le_div_iff₀ (zpow_pos two_pos _)]
    refine le_trans (le_of_eq ?_) hlow
    norm_num
  rw [← not_lt, ← nearestEven_lt_bound_iff, Format.round?_eq (by decide) hlow hhigh.le, hunit]
  constructor
  · intro hnone hfits
    have hcanonical : Format.single.Canonical (nearestEven (x / 2 ^ (104 : Int))).toNat 104 :=
      ⟨by omega, by decide, le_rfl, Or.inl (by omega)⟩
    rw [Format.magnitude?_of_canonical hcanonical] at hnone
    cases hnone
  · intro hover
    unfold Format.magnitude?
    rw [if_neg (by omega)]
    exact dif_neg fun h => absurd h.2.2.1 (show ¬ (104 + 1 : Int) ≤ 104 by decide)

/-- Nothing is found exactly from that middle on. -/
theorem round?_single_eq_none_iff {x : ℚ} (hx : 0 ≤ x) :
    Format.single.round? x = none ↔ 2 ^ 128 - 2 ^ 103 ≤ x := by
  have hlast : (2 : ℚ) ^ (127 : Int) < 2 ^ 128 - 2 ^ 103 := by norm_num
  have hbeyond : (2 : ℚ) ^ 128 - 2 ^ 103 < 2 ^ (128 : Int) := by norm_num
  rcases lt_or_eq_of_le hx with hpos | rfl
  swap
  · rw [Format.round?_eq_zero (by decide) le_rfl (zpow_pos two_pos _)]
    exact iff_of_false (Option.some_ne_none _)
      (not_le.mpr ((zpow_pos two_pos (127 : Int)).trans hlast))
  obtain ⟨k, hlow, hhigh⟩ := Format.exists_binade hpos
  rcases lt_trichotomy k 127 with hk | rfl | hk
  · obtain ⟨s, hs⟩ := Format.exists_round? (f := Format.single) (by decide) hlow hhigh.le (by
      rw [Format.unitAt_single]
      exact max_lt (by decide) (show k - 23 < 104 by omega))
    rw [hs]
    exact iff_of_false (Option.some_ne_none _) (not_le.mpr
      (hhigh.trans ((zpow_le_zpow_right₀ one_le_two (by omega)).trans_lt hlast)))
  · exact round?_single_last_binade hlow hhigh
  · have hle : (2 : ℚ) ^ (128 : Int) ≤ x :=
      (zpow_le_zpow_right₀ one_le_two (by omega)).trans hlow
    exact iff_of_true (Format.round?_eq_none hle) (hbeyond.le.trans hle)

/-! ## Singles as rationals -/

/-- The number is one of the 32-bit format, and this is its significand: it has 24 bits and its
leading one is set, unless the spacing is the least one. -/
def IsSingleOf (significand : ℕ) (y : ℚ) : Prop :=
  ∃ q : ℤ, -149 ≤ q ∧ q ≤ 104 ∧ significand < 2 ^ 24 ∧ (2 ^ 23 ≤ significand ∨ q = -149) ∧
    |y| = significand * 2 ^ q

/-- The number is one of the 32-bit format. -/
def IsSingleNumber (y : ℚ) : Prop :=
  ∃ significand, IsSingleOf significand y

/-- A number of the 32-bit format is the correct rounding of a number: none is nearer, and if one is
equally near, its significand is odd and that of the rounding even. -/
structure IsNearestSingle (x y : ℚ) : Prop where
  single : IsSingleNumber y
  nearest : ∀ z, IsSingleNumber z → |x - y| ≤ |x - z|
  even_of_tie : ∀ m n z, IsSingleOf m y → IsSingleOf n z → z ≠ y → |x - z| = |x - y| →
    Even m ∧ Odd n

theorem isSingleOf_iff {n : ℕ} {y : ℚ} :
    IsSingleOf n y ↔ ∃ t : Format.single.Magnitude, t.significand = n ∧ t.value = |y| := by
  have hbound : Format.single.bound = 2 * 2 ^ 23 := rfl
  constructor
  · rintro ⟨q, hmin, hmax, hn, hleading, hy⟩
    have hcanonical : Format.single.Canonical n q :=
      ⟨by omega, hmin, hmax, hleading.imp_left fun h => by omega⟩
    exact ⟨⟨n, q, hcanonical⟩, rfl, hy.symm⟩
  · rintro ⟨⟨m, q, hbelow, hmin, hmax, hleading⟩, rfl, hy⟩
    exact ⟨q, hmin, hmax, by dsimp only; omega, hleading.imp_left fun h => by dsimp only; omega,
      hy.symm⟩

theorem isSingleNumber_iff {y : ℚ} :
    IsSingleNumber y ↔ ∃ t : Format.single.Magnitude, t.value = |y| := by
  constructor
  · rintro ⟨n, hn⟩
    obtain ⟨t, -, ht⟩ := isSingleOf_iff.mp hn
    exact ⟨t, ht⟩
  · rintro ⟨t, ht⟩
    exact ⟨t.significand, isSingleOf_iff.mpr ⟨t, rfl, ht⟩⟩

@[simp]
theorem isSingleOf_neg {n : ℕ} {y : ℚ} : IsSingleOf n (-y) ↔ IsSingleOf n y := by
  rw [IsSingleOf, IsSingleOf, abs_neg]

@[simp]
theorem isSingleNumber_neg {y : ℚ} : IsSingleNumber (-y) ↔ IsSingleNumber y :=
  exists_congr fun _ => isSingleOf_neg

/-- A number of the format is rounded correctly, be it zero or not. -/
theorem isNearestSingle_of_round? {x : ℚ} {s : Format.single.Magnitude} (hx : 0 ≤ x)
    (h : Format.single.round? x = some s) : IsNearestSingle x s.value := by
  have hs : s.value = |s.value| := (abs_of_nonneg s.value_nonneg).symm
  have hzero : |x - s.value| ≤ x := by
    have hle := Format.abs_sub_round?_le (by decide) hx h (Format.single.zero (by decide))
    rwa [show (Format.single.zero (by decide)).value = 0 by decide +kernel, sub_zero,
      abs_of_nonneg hx] at hle
  have hnegative : ∀ z : ℚ, z < 0 → |x - s.value| < |x - z| := fun z hz =>
    hzero.trans_lt ((by linarith : x < x - z).trans_le (le_abs_self _))
  refine ⟨isSingleNumber_iff.mpr ⟨s, hs⟩, fun z hz => ?_, fun m n z hm hn hne htie => ?_⟩
  · rcases lt_or_ge z 0 with hlt | hge
    · exact (hnegative z hlt).le
    · obtain ⟨t, ht⟩ := isSingleNumber_iff.mp hz
      rw [abs_of_nonneg hge] at ht
      rw [← ht]
      exact Format.abs_sub_round?_le (by decide) hx h t
  · have hge : 0 ≤ z := not_lt.mp fun hlt => (hnegative z hlt).ne' htie
    obtain ⟨s', rfl, hs'⟩ := isSingleOf_iff.mp hm
    obtain ⟨t, rfl, ht⟩ := isSingleOf_iff.mp hn
    rw [abs_of_nonneg hge] at ht
    obtain rfl : s' = s := Format.Magnitude.value_injective (hs'.trans hs.symm)
    rw [← ht] at hne htie
    exact Format.even_odd_of_tie (by decide) hx h hne htie

namespace IsNearestSingle

variable {x x' y y' : ℚ}

theorem neg (h : IsNearestSingle x y) : IsNearestSingle (-x) (-y) := by
  have hdistance : ∀ z : ℚ, |-x - z| = |x - -z| := fun z => by
    rw [← abs_neg]
    congr 1
    ring
  refine ⟨isSingleNumber_neg.mpr h.single, fun z hz => ?_, fun m n z hm hn hne htie => ?_⟩
  · rw [hdistance, hdistance, neg_neg]
    exact h.nearest _ (isSingleNumber_neg.mpr hz)
  · rw [hdistance, hdistance, neg_neg] at htie
    exact h.even_of_tie m n (-z) (isSingleOf_neg.mp hm) (isSingleOf_neg.mpr hn)
      (fun heq => hne (by rw [← heq, neg_neg])) htie

theorem unique (h : IsNearestSingle x y) (h' : IsNearestSingle x y') : y' = y := by
  by_contra hne
  have htie := le_antisymm (h'.nearest y h.single) (h.nearest y' h'.single)
  obtain ⟨m, hm⟩ := h.single
  obtain ⟨n, hn⟩ := h'.single
  obtain ⟨heven, -⟩ := h.even_of_tie m n y' hm hn hne htie
  obtain ⟨-, hodd⟩ := h'.even_of_tie n m y hn hm (Ne.symm hne) htie.symm
  exact Nat.not_even_iff_odd.mpr hodd heven

/-- Which of two numbers is nearer is decided by their middle. -/
theorem abs_sub_le_abs_sub_iff_middle :
    |x - y| ≤ |x - y'| ↔ 0 ≤ (y - y') * (2 * x - (y + y')) := by
  have hdifference : (x - y') ^ 2 - (x - y) ^ 2 = (y - y') * (2 * x - (y + y')) := by ring
  rw [← sq_le_sq, ← sub_nonneg, hdifference]

/-- Correct rounding is monotone: if it went down between two numbers, both would stand in the middle
between their roundings and be one number. -/
theorem mono (h : IsNearestSingle x y) (h' : IsNearestSingle x' y') (hle : x ≤ x') : y ≤ y' := by
  by_contra hlt
  have hgap : 0 < y - y' := sub_pos.mpr (not_le.mp hlt)
  have hfirst := abs_sub_le_abs_sub_iff_middle.mp (h.nearest y' h'.single)
  have hsecond := abs_sub_le_abs_sub_iff_middle.mp (h'.nearest y h.single)
  have hproduct : 0 ≤ (y - y') * (2 * (x - x')) := by
    calc 0 ≤ (y - y') * (2 * x - (y + y')) + (y' - y) * (2 * x' - (y' + y)) :=
          add_nonneg hfirst hsecond
      _ = (y - y') * (2 * (x - x')) := by ring
  have hge : 0 ≤ 2 * (x - x') := nonneg_of_mul_nonneg_right hproduct hgap
  obtain rfl : x = x' := le_antisymm hle (by linarith)
  exact hlt (h'.unique h).le

/-- The numbers of the format are those that are their own rounding. -/
theorem self_iff : IsNearestSingle x x ↔ IsSingleNumber x := by
  refine ⟨single, fun h => ⟨h, fun z _ => ?_, fun m n z _ _ hne htie => ?_⟩⟩
  · rw [sub_self, abs_zero]
    exact abs_nonneg _
  · rw [sub_self, abs_zero, abs_eq_zero, sub_eq_zero] at htie
    exact absurd htie.symm hne

end IsNearestSingle

/-- The numbers of the format stay clear of the end of its range. -/
theorem IsSingleNumber.abs_lt {y : ℚ} (h : IsSingleNumber y) : |y| < 2 ^ 128 - 2 ^ 103 := by
  obtain ⟨t, ht⟩ := isSingleNumber_iff.mp h
  rw [← ht, ← not_le, ← round?_single_eq_none_iff t.value_nonneg, Format.round?_value]
  exact Option.some_ne_none t

/-! ## Narrowing -/

namespace Double

/-- The sign of a double; both zeros have one, and only what is not a number has none. -/
def negative? : Double → Option Bool
  | nan => none
  | infinite negative => some negative
  | finite negative _ => some negative

/-- The size of a double. -/
def size? : Double → Option (WithTop ℚ)
  | nan => none
  | infinite _ => some ⊤
  | finite _ m => some (m.value : ℚ)

/-- The place of a double on the line of numbers, which has an infinity at both ends. -/
def place? : Double → Option (WithBot (WithTop ℚ))
  | nan => none
  | infinite true => some ⊥
  | infinite false => some ⊤
  | finite true m => some ((-m.value : ℚ) : WithTop ℚ)
  | finite false m => some ((m.value : ℚ) : WithTop ℚ)

/-- The order of doubles as numbers, in which the two zeros are equal and what is not a number has no
place. -/
def Le (v w : Double) : Prop :=
  ∃ a b, v.place? = some a ∧ w.place? = some b ∧ a ≤ b

/-- The double with the other sign. -/
def negated : Double → Double
  | nan => nan
  | infinite negative => infinite (!negative)
  | finite negative m => finite (!negative) m

/-- A double is another one rounded correctly to the 32-bit format: it has its sign, is infinite
exactly if the other one is at least half way from the greatest single to the next power of two, and
otherwise stands for the correct rounding. -/
structure IsNarrowed (v w : Double) : Prop where
  negative?_eq : w.negative? = v.negative?
  infinite_iff : (∃ negative, w = infinite negative) ↔
    ∃ size, v.size? = some size ∧ ((2 ^ 128 - 2 ^ 103 : ℚ) : WithTop ℚ) ≤ size
  nearest : ∀ x, v.value? = some x → |x| < 2 ^ 128 - 2 ^ 103 →
    ∃ y, w.value? = some y ∧ IsNearestSingle x y

/-- The two ways in which a number is narrowed, on which its sign has no influence. -/
theorem toSingle_finite_cases (m : Format.double.Magnitude) :
    (2 ^ 128 - 2 ^ 103 ≤ m.value ∧ ∀ negative, (finite negative m).toSingle = infinite negative) ∨
      (m.value < 2 ^ 128 - 2 ^ 103 ∧ ∃ m' : Format.double.Magnitude,
        IsNearestSingle m.value m'.value ∧
          ∀ negative, (finite negative m).toSingle = finite negative m') := by
  cases hround : Format.single.round? m.value with
  | none =>
    refine Or.inl ⟨(round?_single_eq_none_iff m.value_nonneg).mp hround, fun negative => ?_⟩
    simp only [toSingle, hround]
  | some s =>
    have hbelow : m.value < 2 ^ 128 - 2 ^ 103 := by
      rw [← not_le, ← round?_single_eq_none_iff m.value_nonneg, hround]
      exact Option.some_ne_none s
    obtain ⟨m', hm'⟩ := exists_double_value s
    refine Or.inr ⟨hbelow, m', hm' ▸ isNearestSingle_of_round? m.value_nonneg hround,
      fun negative => ?_⟩
    simp only [toSingle, hround]
    rw [← hm', ofRat_value]

theorem abs_of_value? {negative : Bool} {m : Format.double.Magnitude} {x : ℚ}
    (h : (finite negative m).value? = some x) : |x| = m.value := by
  cases negative <;> obtain rfl := Option.some.inj h
  · exact abs_of_nonneg m.value_nonneg
  · rw [abs_neg, abs_of_nonneg m.value_nonneg]

theorem exists_value?_of_nearest {m m' : Format.double.Magnitude}
    (h : IsNearestSingle m.value m'.value) {negative : Bool} {x : ℚ}
    (hx : (finite negative m).value? = some x) :
    ∃ y, (finite negative m').value? = some y ∧ IsNearestSingle x y := by
  cases negative <;> obtain rfl := Option.some.inj hx
  · exact ⟨_, rfl, h⟩
  · exact ⟨_, rfl, h.neg⟩

theorem isNarrowed_toSingle (v : Double) : v.IsNarrowed v.toSingle := by
  cases v with
  | nan => exact ⟨rfl, by simp [toSingle, size?], by simp [value?]⟩
  | infinite negative => exact ⟨rfl, by simp [toSingle, size?], by simp [value?]⟩
  | finite negative m =>
    rcases toSingle_finite_cases m with ⟨hlarge, hround⟩ | ⟨hbelow, m', hnearest, hround⟩
    · rw [hround]
      refine ⟨rfl, iff_of_true ⟨negative, rfl⟩ ⟨_, rfl, ?_⟩, fun x hx hlt => ?_⟩
      · exact_mod_cast hlarge
      · rw [abs_of_value? hx] at hlt
        exact absurd hlarge (not_le.mpr hlt)
    · rw [hround]
      refine ⟨rfl, iff_of_false ?_ ?_, fun x hx _ => exists_value?_of_nearest hnearest hx⟩
      · rintro ⟨_, h⟩
        cases h
      · rintro ⟨size, hsize, hle⟩
        obtain rfl := Option.some.inj hsize
        exact absurd hbelow (not_lt.mpr (by exact_mod_cast hle))

/-! ## What follows from correct rounding -/

/-- How the place of a double changes when it is narrowed. -/
inductive PlaceNarrowed : WithBot (WithTop ℚ) → WithBot (WithTop ℚ) → Prop
  | low {a : WithBot (WithTop ℚ)} (h : a ≤ ((-(2 ^ 128 - 2 ^ 103) : ℚ) : WithTop ℚ)) :
      PlaceNarrowed a ⊥
  | high {a : WithBot (WithTop ℚ)} (h : ((2 ^ 128 - 2 ^ 103 : ℚ) : WithTop ℚ) ≤ a) :
      PlaceNarrowed a ⊤
  | inside {x y : ℚ} (h : |x| < 2 ^ 128 - 2 ^ 103) (hnearest : IsNearestSingle x y) :
      PlaceNarrowed (x : WithTop ℚ) (y : WithTop ℚ)

theorem exists_placeNarrowed {v : Double} {a : WithBot (WithTop ℚ)} (h : v.place? = some a) :
    ∃ b, v.toSingle.place? = some b ∧ PlaceNarrowed a b := by
  cases v with
  | nan => cases h
  | infinite negative =>
    cases negative <;> obtain rfl := Option.some.inj h
    · exact ⟨_, rfl, .high le_top⟩
    · exact ⟨_, rfl, .low bot_le⟩
  | finite negative m =>
    rcases toSingle_finite_cases m with ⟨hlarge, hround⟩ | ⟨hbelow, m', hnearest, hround⟩
    · rw [hround]
      cases negative <;> obtain rfl := Option.some.inj h
      · exact ⟨_, rfl, .high (by exact_mod_cast hlarge)⟩
      · exact ⟨_, rfl, .low (by exact_mod_cast neg_le_neg hlarge)⟩
    · rw [hround]
      have hsize : |m.value| < 2 ^ 128 - 2 ^ 103 := by rwa [abs_of_nonneg m.value_nonneg]
      cases negative <;> obtain rfl := Option.some.inj h
      · exact ⟨_, rfl, .inside hsize hnearest⟩
      · exact ⟨_, rfl, .inside (by rwa [abs_neg]) hnearest.neg⟩

theorem PlaceNarrowed.mono {a a' b b' : WithBot (WithTop ℚ)} (h : PlaceNarrowed a b)
    (h' : PlaceNarrowed a' b') (hle : a ≤ a') : b ≤ b' := by
  cases h with
  | low _ => exact bot_le
  | high hhigh =>
    cases h' with
    | low hlow =>
      have hends : (2 ^ 128 - 2 ^ 103 : ℚ) ≤ -(2 ^ 128 - 2 ^ 103) := by
        exact_mod_cast (hhigh.trans hle).trans hlow
      norm_num at hends
    | high _ => exact le_top
    | @inside x' _ hinside _ =>
      have hbeyond : (2 ^ 128 - 2 ^ 103 : ℚ) ≤ x' := by exact_mod_cast hhigh.trans hle
      exact absurd ((le_abs_self x').trans_lt hinside) (not_lt.mpr hbeyond)
  | @inside x _ hinside hnearest =>
    cases h' with
    | low hlow =>
      have hbeyond : x ≤ -(2 ^ 128 - 2 ^ 103) := by exact_mod_cast hle.trans hlow
      exact absurd (neg_lt_of_abs_lt hinside) (not_lt.mpr hbeyond)
    | high _ => exact le_top
    | inside _ hnearest' => exact_mod_cast hnearest.mono hnearest' (by exact_mod_cast hle)

theorem toSingle_mono {v w : Double} (h : v.Le w) : v.toSingle.Le w.toSingle := by
  obtain ⟨a, b, ha, hb, hle⟩ := h
  obtain ⟨a', ha', hplace⟩ := exists_placeNarrowed ha
  obtain ⟨b', hb', hplace'⟩ := exists_placeNarrowed hb
  exact ⟨a', b', ha', hb', hplace.mono hplace' hle⟩

theorem toSingle_negated (v : Double) : v.negated.toSingle = v.toSingle.negated := by
  cases v with
  | nan => rfl
  | infinite negative => rfl
  | finite negative m =>
    rw [negated]
    rcases toSingle_finite_cases m with ⟨-, hround⟩ | ⟨-, m', -, hround⟩
    · rw [hround, hround, negated]
    · rw [hround, hround, negated]

theorem toSingle_eq_self_iff (v : Double) :
    v.toSingle = v ↔ ∀ x, v.value? = some x → IsSingleNumber x := by
  cases v with
  | nan => exact iff_of_true rfl fun x hx => by cases hx
  | infinite negative => exact iff_of_true rfl fun x hx => by cases hx
  | finite negative m =>
    have hvalue : (∀ x, (finite negative m).value? = some x → IsSingleNumber x) ↔
        IsSingleNumber m.value := by
      cases negative
      · simp [value?]
      · simp [value?]
    rw [hvalue]
    rcases toSingle_finite_cases m with ⟨hlarge, hround⟩ | ⟨hbelow, m', hnearest, hround⟩
    · rw [hround]
      refine iff_of_false (by simp) fun h => ?_
      have hlt := h.abs_lt
      rw [abs_of_nonneg m.value_nonneg] at hlt
      exact absurd hlarge (not_le.mpr hlt)
    · rw [hround, finite.injEq, and_iff_right rfl]
      constructor
      · rintro rfl
        exact hnearest.single
      · intro h
        exact Format.Magnitude.value_injective ((IsNearestSingle.self_iff.mpr h).unique hnearest)

/-- **Narrowing is correct rounding.**  What is not a number stays so.  Every other double keeps its
sign, becomes infinite exactly from `2^128 - 2^103` on, and otherwise goes to the nearest number of
the 32-bit format, of two that are equally near to the one with the even significand.  So narrowing
is monotone, changes nothing the second time, commutes with the change of sign, and leaves exactly
the doubles alone that the 32-bit format has. -/
theorem toSingle_rounds_correctly :
    Double.nan.toSingle = .nan ∧ (∀ v : Double, v.IsNarrowed v.toSingle) ∧
      (∀ v w : Double, v.Le w → v.toSingle.Le w.toSingle) ∧
        (∀ v : Double, v.toSingle.toSingle = v.toSingle) ∧
          (∀ v : Double, v.negated.toSingle = v.toSingle.negated) ∧
            ∀ v : Double, v.toSingle = v ↔ ∀ x, v.value? = some x → IsSingleNumber x :=
  ⟨rfl, isNarrowed_toSingle, fun _ _ => toSingle_mono, toSingle_toSingle, toSingle_negated,
    toSingle_eq_self_iff⟩

/-- In particular `2^24 + 1`, in the middle between two singles, goes to the even one, and the double
in the middle between the greatest single and the next power of two becomes infinite. -/
theorem toSingle_of_middles : (ofBits 0x4170000010000000).Le (ofBits 0x47effffff0000000) ∧
    (ofBits 0x4170000010000000).toSingle.Le (ofBits 0x47effffff0000000).toSingle ∧
      (ofBits 0x4170000010000000).toSingle = ofBits 0x4170000000000000 ∧
        (ofBits 0x47effffff0000000).toSingle = infinite false := by
  have hle : (ofBits 0x4170000010000000).Le (ofBits 0x47effffff0000000) :=
    ⟨((2 ^ 24 + 1 : ℚ) : WithTop ℚ), ((2 ^ 128 - 2 ^ 103 : ℚ) : WithTop ℚ), by decide +kernel,
      by decide +kernel, by norm_cast⟩
  exact ⟨hle, toSingle_rounds_correctly.2.2.1 _ _ hle, by decide +kernel, by decide +kernel⟩

end Double

end FieldCode
