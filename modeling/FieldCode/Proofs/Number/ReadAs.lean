import FieldCode.Proofs.Number.ReadOnce

/-!
# Which numbers are read as a single

A decimal is read as a single in two steps, to a double and from there to a single.  The numbers that
are read as one and the same single (`Double.IsReadAs`) are a stretch around it, and what shape this
stretch has decides whether a search may confine itself to the nearest candidate.

All numbers that are read as a single stand in a closed binade with it (`Double.IsReadAs.exists_binade`),
and there reading is to round to two fixed units one after the other (`Double.isReadAs_iff`).  Both
roundings are monotone, so that what lies between such a number and the single is read as the single
too (`Double.IsReadAs.of_between`).  Both are also symmetric about their multiples.  So a single that is
no power of two, with one binade on both of its sides, has its stretch evenly on both sides, and what
is as close to it as a number of the stretch belongs to the stretch (`Double.IsReadAs.of_abs_sub_le`).
A power of two has more room above than below.  For both sorts, half a unit is no less than a part in
thirty-four millions of the single, so that what is very close to it belongs to the stretch
(`Double.isReadAs_of_abs_sub_le`).
-/

namespace FieldCode

/-! ## The nearest integer -/

theorem nearestEven_mono {x y : ℚ} (h : x ≤ y) : nearestEven x ≤ nearestEven y := by
  by_contra hlt
  rw [not_le] at hlt
  have hx := abs_le.mp (abs_nearestEven_sub_le x)
  have hy := abs_le.mp (abs_nearestEven_sub_le y)
  have hstep : ((nearestEven y + 1 : ℤ) : ℚ) ≤ nearestEven x := by exact_mod_cast hlt
  push_cast at hstep
  have heq : x = y := le_antisymm h (by linarith)
  rw [heq] at hlt
  exact lt_irrefl _ hlt

/-- No integer is nearer. -/
theorem abs_nearestEven_sub_le_abs_sub (x : ℚ) (n : ℤ) : |(nearestEven x : ℚ) - x| ≤ |(n : ℚ) - x| := by
  rcases lt_or_ge |(n : ℚ) - x| (1 / 2) with hlt | hge
  · rw [nearestEven_eq_of_abs_sub_lt hlt]
  · exact (abs_nearestEven_sub_le x).trans hge

/-- The nearest integers of numbers opposite one another about an integer are opposite about it. -/
theorem nearestEven_two_mul_sub (n : ℤ) (x : ℚ) :
    nearestEven (2 * n - x) = 2 * n - nearestEven x := by
  obtain ⟨hlow, hhigh⟩ := floor_le_and_lt x
  by_cases hwhole : x = x.floor
  · have hcast : 2 * (n : ℚ) - x.floor = ((2 * n - x.floor : ℤ) : ℚ) := by push_cast; ring
    rw [hwhole, nearestEven_intCast, hcast, nearestEven_intCast]
  · have hlow' : (x.floor : ℚ) < x := lt_of_le_of_ne hlow (Ne.symm hwhole)
    have hfloor : (2 * n - x).floor = 2 * n - x.floor - 1 := by
      refine le_antisymm (Int.lt_add_one_iff.mp (Rat.floor_lt_iff.mpr ?_)) (Rat.le_floor_iff.mpr ?_)
      · push_cast
        linarith
      · push_cast
        linarith
    unfold nearestEven
    simp only [hfloor]
    push_cast
    split_ifs <;> first | omega | linarith

/-! ## Rounding within the range -/

/-- A number in a binade whose unit is not the last one of the format is rounded to a number. -/
theorem Format.exists_round? {f : Format} {x : ℚ} {k : Int} (hprecision : 0 < f.precision)
    (hlow : (2 : ℚ) ^ k ≤ x) (hhigh : x ≤ 2 ^ (k + 1)) (hunit : f.unitAt k < f.maxExponent) :
    ∃ s, f.round? x = some s := by
  obtain ⟨n, hn⟩ : ∃ n, n = (nearestEven (x / 2 ^ f.unitAt k)).toNat := ⟨_, rfl⟩
  obtain ⟨p, hp⟩ : ∃ p : Nat, f.precision = p + 1 := ⟨f.precision - 1, by omega⟩
  have hmin : f.minExponent ≤ f.unitAt k := le_max_left _ _
  have hbound : f.bound = 2 * 2 ^ p := by rw [bound_eq, hp, Nat.pow_succ, Nat.mul_comm]
  rw [round?_eq hprecision hlow hhigh, ← hn]
  unfold magnitude?
  by_cases hkeep : n < f.bound
  · have hcanonical : f.Canonical n (f.unitAt k) := by
      refine ⟨hkeep, hmin, hunit.le, ?_⟩
      by_cases hleast : f.unitAt k = f.minExponent
      · exact Or.inr hleast
      · -- above the least exponent the unit leaves room for a leading bit
        left
        have hunit' : f.unitAt k = k - (f.precision - 1 : Int) := by
          rw [unitAt] at hleast ⊢
          omega
        have hleading : ((2 ^ p : ℕ) : ℤ) ≤ nearestEven (x / 2 ^ f.unitAt k) := by
          refine le_nearestEven ?_
          rw [le_div_iff₀ (zpow_pos two_pos _)]
          push_cast
          rw [← zpow_natCast, ← zpow_add₀ two_ne_zero, hunit', hp]
          refine le_trans (zpow_le_zpow_right₀ one_le_two ?_) hlow
          push_cast
          omega
        rw [hbound]
        omega
    simp only [if_pos hkeep, hcanonical, dif_pos]
    exact ⟨_, rfl⟩
  · have hle : n ≤ f.bound := by
      have hnearest := nearestEven_le_bound (f := f) hhigh
      omega
    have hhalf : n / 2 = 2 ^ p := by omega
    have hcanonical : f.Canonical (n / 2) (f.unitAt k + 1) := by
      refine ⟨?_, by omega, by omega, Or.inl ?_⟩
      · rw [hhalf, hbound]
        have := Nat.two_pow_pos p
        omega
      · rw [hhalf, hbound]
    simp only [if_neg hkeep, hcanonical, dif_pos]
    exact ⟨_, rfl⟩

theorem Format.Magnitude.value_injective {f : Format} {m m' : f.Magnitude}
    (h : m.value = m'.value) : m = m' := by
  rw [← Option.some.injEq, ← Format.round?_value m, h, Format.round?_value]

/-! ## Reading in a closed binade -/

/-- The number is read, by way of a double, as the single of this size. -/
def Double.IsReadAs (x : ℚ) (m : Format.double.Magnitude) : Prop :=
  (Double.ofRat false x).toSingle = .finite false m

namespace Double

variable {x y : ℚ} {k : Int} {m : Format.double.Magnitude}

theorem IsReadAs.pos (h : IsReadAs x m) (hx : 0 ≤ x) (hm : m.significand ≠ 0) : 0 < x := by
  refine lt_of_le_of_ne hx fun hzero => hm ?_
  have hnarrow : (zero false).toSingle = zero false := by decide +kernel
  rw [← hzero, IsReadAs, ofRat_zero, hnarrow, zero, finite.injEq] at h
  rw [← h.2]
  rfl

/-- In the binades of singles the unit of the doubles is far from its least. -/
theorem unitAt_double_eq (hk : -150 ≤ k) : Format.double.unitAt k = k - 52 := by
  rw [Format.unitAt_double]
  omega

theorem IsReadAs.exists_binade (h : IsReadAs x m) (hx : 0 < x) (hm : m.significand ≠ 0) :
    ∃ k : Int, -150 ≤ k ∧ k ≤ 127 ∧ 2 ^ k ≤ x ∧ x < 2 ^ (k + 1) ∧
      2 ^ k ≤ m.value ∧ m.value ≤ 2 ^ (k + 1) := by
  obtain ⟨d, hd, hnarrow⟩ := exists_round?_of_ofRat h
  obtain ⟨t, ht, hvalue⟩ := exists_round?_of_toSingle hnarrow
  have hpos := Format.Magnitude.value_pos hm
  have htpos := Format.Magnitude.significand_ne_zero (hvalue ▸ hpos)
  obtain ⟨k, hk⟩ : ∃ k, k = Int.log 2 x := ⟨_, rfl⟩
  have hlow : (2 : ℚ) ^ k ≤ x := (two_zpow_le_iff hx k).mpr hk.le
  have hhigh : x < 2 ^ (k + 1) := (lt_two_zpow_iff hx (k + 1)).mpr (by omega)
  have hkmin := Double.le_of_narrowed hlow hhigh hd ht htpos
  have hunit : Format.double.unitAt k ≤ k := by
    rw [Format.unitAt_double]
    omega
  have hdlow := Format.two_zpow_le_value (by decide) hlow hhigh.le hd hunit hlow
  have hdhigh := Format.value_le_two_zpow (by decide) hlow hhigh.le hd (e := k + 1) (by omega)
    hhigh.le
  have htlt : t.value < 2 ^ (128 : Int) := t.value_lt
  rw [hvalue] at hpos ⊢
  by_cases hnormal : -149 ≤ k
  · have hunit' : Format.single.unitAt k ≤ k := by
      rw [Format.unitAt_single]
      omega
    have htlow := Format.two_zpow_le_value (by decide) hdlow hdhigh ht hunit' hdlow
    have hthigh := Format.value_le_two_zpow (by decide) hdlow hdhigh ht (e := k + 1) (by omega)
      hdhigh
    have hkmax := (zpow_lt_zpow_iff_right₀ (one_lt_two (α := ℚ))).mp (htlow.trans_lt htlt)
    exact ⟨k, by omega, by omega, hlow, hhigh, htlow, hthigh⟩
  · -- below the least single only what is past its half is not read as zero
    have hunit' : Format.single.unitAt k = -149 := by
      rw [Format.unitAt_single]
      omega
    have hround := Format.value_of_round? (by decide) hdlow hdhigh ht
    rw [hunit'] at hround
    have hone : 1 ≤ nearestEven (d.value / 2 ^ (-149 : Int)) := by
      rw [hround, mul_pos_iff_of_pos_right (zpow_pos two_pos _)] at hpos
      exact_mod_cast hpos
    have hpast : (2 : ℚ) ^ (-150 : Int) < d.value := by
      by_contra hle
      have hhalf : d.value / 2 ^ (-149 : Int) ≤ 1 / 2 := by
        rw [div_le_iff₀ (zpow_pos two_pos _)]
        exact (not_lt.mp hle).trans (by norm_num)
      have hzero : nearestEven (1 / 2) = 0 := by decide +kernel
      have hle' := nearestEven_mono hhalf
      omega
    have hkmin' := (zpow_lt_zpow_iff_right₀ (one_lt_two (α := ℚ))).mp (hpast.trans_le hdhigh)
    obtain rfl : k = -150 := by omega
    have hle : nearestEven (d.value / 2 ^ (-149 : Int)) ≤ 1 := by
      refine nearestEven_le ?_
      rw [div_le_iff₀ (zpow_pos two_pos _), Int.cast_one, one_mul]
      exact hdhigh
    have hleast : t.value = 2 ^ (-149 : Int) := by
      rw [hround, le_antisymm hle hone, Int.cast_one, one_mul]
    exact ⟨-150, le_rfl, by norm_num, hlow, hhigh,
      hleast ▸ zpow_le_zpow_right₀ one_le_two (by norm_num), hleast.le⟩

/-- Half the last bit of the doubles is a small part of the unit of the singles. -/
theorem half_last_bit_le (k : Int) : (2 : ℚ) ^ (k - 52 - 1) ≤ 2 ^ (Format.single.unitAt k - 30) :=
  zpow_le_zpow_right₀ one_le_two (by rw [Format.unitAt_single]; omega)

theorem half_unit_add_le (k : Int) :
    (2 : ℚ) ^ (Format.single.unitAt k - 1) + 2 ^ (Format.single.unitAt k - 30) ≤
      2 ^ Format.single.unitAt k := by
  have hunit : (0 : ℚ) < 2 ^ Format.single.unitAt k := zpow_pos two_pos _
  rw [zpow_sub₀ two_ne_zero, zpow_sub₀ two_ne_zero]
  norm_num
  linarith

/-- What is read as a single is hardly farther from it than half a unit. -/
theorem IsReadAs.near (h : IsReadAs x m) (hk : -150 ≤ k) (hlow : 2 ^ k ≤ x)
    (hhigh : x < 2 ^ (k + 1)) : |x - m.value| ≤
      2 ^ (Format.single.unitAt k - 1) + 2 ^ (Format.single.unitAt k - 30) := by
  obtain ⟨d, hd, hnarrow⟩ := exists_round?_of_ofRat h
  obtain ⟨t, ht, hvalue⟩ := exists_round?_of_toSingle hnarrow
  have hunit := unitAt_double_eq hk
  have hdlow := Format.two_zpow_le_value (by decide) hlow hhigh.le hd (e := k) (by omega) hlow
  have hdhigh := Format.value_le_two_zpow (by decide) hlow hhigh.le hd (e := k + 1) (by omega)
    hhigh.le
  have hfirst := Format.abs_sub_value_le (by decide) hlow hhigh.le hd
  have hsecond := Format.abs_sub_value_le (by decide) hdlow hdhigh ht
  rw [hunit] at hfirst
  rw [← hvalue] at hsecond
  calc |x - m.value| ≤ |x - d.value| + |d.value - m.value| := abs_sub_le _ _ _
    _ ≤ 2 ^ (Format.single.unitAt k - 30) + 2 ^ (Format.single.unitAt k - 1) :=
      add_le_add (hfirst.trans (half_last_bit_le k)) hsecond
    _ = _ := add_comm _ _

section Single

variable (hsingle : (finite false m).toSingle = .finite false m)

include hsingle

/-- A single is a multiple of its unit in every closed binade that holds it. -/
theorem value_eq_multiple (hlow : 2 ^ k ≤ m.value) (hhigh : m.value ≤ 2 ^ (k + 1)) :
    m.value = nearestEven (m.value / 2 ^ Format.single.unitAt k) * 2 ^ Format.single.unitAt k := by
  obtain ⟨t, ht, hvalue⟩ := exists_round?_of_toSingle hsingle
  rw [← Format.value_of_round? (by decide) hlow hhigh ht, hvalue]

/-- In a closed binade that holds the single, reading is to round to the two units one after the
other. -/
theorem isReadAs_iff (hk : -150 ≤ k) (hk' : k ≤ 127) (hlow : 2 ^ k ≤ m.value)
    (hhigh : m.value ≤ 2 ^ (k + 1)) (hxlow : 2 ^ k ≤ x) (hxhigh : x ≤ 2 ^ (k + 1)) :
    IsReadAs x m ↔
      nearestEven (nearestEven (x / 2 ^ (k - 52)) * 2 ^ (k - 52) / 2 ^ Format.single.unitAt k) =
        nearestEven (m.value / 2 ^ Format.single.unitAt k) := by
  have hunit := unitAt_double_eq hk
  obtain ⟨d, hd⟩ := Format.exists_round? (f := Format.double) (by decide) hxlow hxhigh (by
    rw [hunit]
    exact lt_of_le_of_lt (by omega : k - 52 ≤ 75) (by decide))
  have hvalue := Format.value_of_round? (by decide) hxlow hxhigh hd
  have hdlow := Format.two_zpow_le_value (by decide) hxlow hxhigh hd (e := k) (by omega) hxlow
  have hdhigh := Format.value_le_two_zpow (by decide) hxlow hxhigh hd (e := k + 1) (by omega) hxhigh
  have hread : IsReadAs x m ↔ (finite false d).toSingle = .finite false m := by
    rw [IsReadAs, ofRat, hd]
  rw [hunit] at hvalue
  rw [hread, ← hvalue]
  constructor
  · intro h
    obtain ⟨t, ht, hmt⟩ := exists_round?_of_toSingle h
    have hround := hmt.trans (Format.value_of_round? (by decide) hdlow hdhigh ht)
    have hmultiple := hround.symm.trans (value_eq_multiple hsingle hlow hhigh)
    exact_mod_cast mul_right_cancel₀ (zpow_pos two_pos _).ne' hmultiple
  · intro h
    have hround : Format.single.round? d.value = Format.single.round? m.value := by
      rw [Format.round?_eq (by decide) hdlow hdhigh, Format.round?_eq (by decide) hlow hhigh, h]
    rw [← hsingle, toSingle_finite, toSingle_finite, nearestSingle, nearestSingle, hround]

/-- What is clearly closer to a single than half a unit is read as it. -/
theorem isReadAs_of_near (hk : -150 ≤ k) (hk' : k ≤ 127) (hlow : 2 ^ k ≤ m.value)
    (hhigh : m.value ≤ 2 ^ (k + 1)) (hxlow : 2 ^ k ≤ x) (hxhigh : x ≤ 2 ^ (k + 1))
    (hnear : |x - m.value| <
      2 ^ (Format.single.unitAt k - 1) - 2 ^ (Format.single.unitAt k - 30)) : IsReadAs x m := by
  rw [isReadAs_iff hsingle hk hk' hlow hhigh hxlow hxhigh]
  have hunit : (0 : ℚ) < 2 ^ Format.single.unitAt k := zpow_pos two_pos _
  have hbit : (0 : ℚ) < 2 ^ (k - 52) := zpow_pos two_pos _
  obtain ⟨r, hr⟩ : ∃ r : ℤ, r = nearestEven (x / 2 ^ (k - 52)) := ⟨_, rfl⟩
  obtain ⟨n, hn⟩ : ∃ n, n = nearestEven (m.value / 2 ^ Format.single.unitAt k) := ⟨_, rfl⟩
  have hvalue := value_eq_multiple hsingle hlow hhigh
  have hrounded : |r * 2 ^ (k - 52) - x| ≤ 2 ^ (Format.single.unitAt k - 30) := by
    have hscaled : r * 2 ^ (k - 52) - x = (r - x / 2 ^ (k - 52)) * (2 : ℚ) ^ (k - 52) := by
      rw [sub_mul, div_mul_cancel₀ _ hbit.ne']
    refine le_trans ?_ (half_last_bit_le k)
    rw [hscaled, abs_mul, abs_of_pos hbit, zpow_sub_one₀ two_ne_zero, mul_comm, hr]
    exact mul_le_mul_of_nonneg_left ((abs_nearestEven_sub_le _).trans_eq (by norm_num)) hbit.le
  rw [← hn] at hvalue
  rw [← hr, ← hn]
  refine nearestEven_eq_of_abs_sub_lt ?_
  have hdistance : |m.value - r * 2 ^ (k - 52)| < 2 ^ (Format.single.unitAt k - 1) := by
    rw [abs_sub_comm]
    calc |r * 2 ^ (k - 52) - m.value| ≤ |r * 2 ^ (k - 52) - x| + |x - m.value| := abs_sub_le _ _ _
      _ < 2 ^ (Format.single.unitAt k - 1) := by linarith
  have hscaled : (n : ℚ) - r * 2 ^ (k - 52) / 2 ^ Format.single.unitAt k =
      (m.value - r * 2 ^ (k - 52)) / 2 ^ Format.single.unitAt k := by
    rw [sub_div]
    congr 1
    rw [hvalue, mul_div_cancel_right₀ _ hunit.ne']
  rw [hscaled, abs_div, abs_of_pos hunit, div_lt_iff₀ hunit]
  refine hdistance.trans_eq ?_
  rw [zpow_sub_one₀ two_ne_zero]
  ring

theorem isReadAs_self : IsReadAs m.value m := by
  rw [IsReadAs, ofRat_value, hsingle]

/-- What lies between a single and a number that is read as it is read as it too. -/
theorem IsReadAs.of_between (h : IsReadAs x m) (hx : 0 < x) (hm : m.significand ≠ 0)
    (hy : x ≤ y ∧ y ≤ m.value ∨ m.value ≤ y ∧ y ≤ x) : IsReadAs y m := by
  obtain ⟨k, hk, hk', hxlow, hxhigh, hlow, hhigh⟩ := h.exists_binade hx hm
  have hylow : 2 ^ k ≤ y := hy.elim (fun hy => hxlow.trans hy.1) fun hy => hlow.trans hy.1
  have hyhigh : y ≤ 2 ^ (k + 1) := hy.elim (fun hy => hy.2.trans hhigh) fun hy => hy.2.trans hxhigh.le
  have hreads : ∀ {z : ℚ}, 2 ^ k ≤ z → z ≤ 2 ^ (k + 1) → _ := fun hz hz' =>
    isReadAs_iff hsingle hk hk' hlow hhigh hz hz'
  have hmono : ∀ {z z' : ℚ}, z ≤ z' →
      nearestEven (nearestEven (z / 2 ^ (k - 52)) * 2 ^ (k - 52) / 2 ^ Format.single.unitAt k) ≤
        nearestEven (nearestEven (z' / 2 ^ (k - 52)) * 2 ^ (k - 52) / 2 ^ Format.single.unitAt k) := by
    intro z z' hz
    have hdouble := nearestEven_mono (div_le_div_of_nonneg_right hz
      (zpow_pos (two_pos (α := ℚ)) (k - 52)).le)
    exact nearestEven_mono (div_le_div_of_nonneg_right
      (mul_le_mul_of_nonneg_right (Int.cast_le.mpr hdouble) (zpow_pos two_pos _).le)
      (zpow_pos two_pos _).le)
  have hself := (hreads hlow hhigh).mp (isReadAs_self hsingle)
  have hx' := (hreads hxlow hxhigh.le).mp h
  refine (hreads hylow hyhigh).mpr ?_
  rcases hy with ⟨hxy, hym⟩ | ⟨hmy, hyx⟩
  · exact le_antisymm ((hmono hym).trans hself.le) (hx'.ge.trans (hmono hxy))
  · exact le_antisymm ((hmono hyx).trans hx'.le) (hself.ge.trans (hmono hmy))

/-- A single that is not zero stands inside a binade or is a power of two. -/
theorem inside_or_power (hm : m.significand ≠ 0) :
    (∃ k : Int, 2 ^ k < m.value ∧ m.value < 2 ^ (k + 1)) ∨
      ∃ e : Int, -149 ≤ e ∧ e ≤ 127 ∧ m.value = 2 ^ e := by
  have hpos := Format.Magnitude.value_pos hm
  obtain ⟨t, -, hvalue⟩ := exists_round?_of_toSingle hsingle
  obtain ⟨e, he⟩ : ∃ e, e = Int.log 2 m.value := ⟨_, rfl⟩
  have hlow : (2 : ℚ) ^ e ≤ m.value := (two_zpow_le_iff hpos e).mpr he.le
  have hhigh : m.value < 2 ^ (e + 1) := (lt_two_zpow_iff hpos (e + 1)).mpr (by omega)
  rcases lt_or_eq_of_le hlow with hlt | heq
  · exact Or.inl ⟨e, hlt, hhigh⟩
  have hlt : ∀ {i i' : Int}, (2 : ℚ) ^ i < 2 ^ i' → i < i' :=
    (zpow_lt_zpow_iff_right₀ one_lt_two).mp
  have hleast : (2 : ℚ) ^ (-149 : Int) ≤ m.value := by
    have hone : (1 : ℚ) ≤ t.significand := by
      exact_mod_cast Nat.one_le_iff_ne_zero.mpr
        (Format.Magnitude.significand_ne_zero (hvalue ▸ hpos))
    calc (2 : ℚ) ^ (-149 : Int) ≤ 2 ^ t.exponent :=
          zpow_le_zpow_right₀ one_le_two t.canonical.2.1
      _ ≤ t.significand * 2 ^ t.exponent := le_mul_of_one_le_left (zpow_pos two_pos _).le hone
      _ = m.value := hvalue.symm
  have hgreatest : m.value < 2 ^ (128 : Int) := by
    rw [hvalue]
    exact t.value_lt
  have hmin := hlt (hleast.trans_lt hhigh)
  have hmax := hlt (hlow.trans_lt hgreatest)
  exact Or.inr ⟨e, by omega, by omega, heq.symm⟩

/-! ## Singles inside a binade -/

section Inside

variable (hm : m.significand ≠ 0) (hlow : 2 ^ k < m.value) (hhigh : m.value < 2 ^ (k + 1))

include hm hlow hhigh

omit hsingle in
/-- What is read as such a single stands in the binade with it. -/
theorem IsReadAs.mem_binade (h : IsReadAs x m) (hx : 0 < x) :
    -150 ≤ k ∧ k ≤ 127 ∧ 2 ^ k ≤ x ∧ x < 2 ^ (k + 1) := by
  obtain ⟨j, hj, hj', hxlow, hxhigh, hjlow, hjhigh⟩ := h.exists_binade hx hm
  have hlt : ∀ {i i' : Int}, (2 : ℚ) ^ i < 2 ^ i' → i < i' :=
    (zpow_lt_zpow_iff_right₀ one_lt_two).mp
  have hjk := hlt (hjlow.trans_lt hhigh)
  have hkj := hlt (hlow.trans_le hjhigh)
  obtain rfl : j = k := by omega
  exact ⟨hj, hj', hxlow, hxhigh⟩

/-- A binade that holds a single strictly inside it has a unit on both sides of the single. -/
theorem unit_bounds : -150 ≤ k ∧ k ≤ 127 ∧
    2 ^ k ≤ m.value - 2 ^ Format.single.unitAt k ∧
      m.value + 2 ^ Format.single.unitAt k ≤ 2 ^ (k + 1) := by
  obtain ⟨hk, hk', -, -⟩ :=
    (isReadAs_self hsingle).mem_binade hm hlow hhigh (Format.Magnitude.value_pos hm)
  have hunit : (0 : ℚ) < 2 ^ Format.single.unitAt k := zpow_pos two_pos _
  have hcoarse : Format.single.unitAt k ≤ k + 1 := by
    rw [Format.unitAt_single]
    omega
  obtain ⟨n, hn⟩ : ∃ n, n = nearestEven (m.value / 2 ^ Format.single.unitAt k) := ⟨_, rfl⟩
  have hvalue := value_eq_multiple hsingle hlow.le hhigh.le
  rw [← hn] at hvalue
  -- powers of two that are multiples of the unit are whole units away
  have hupper : ∀ e : Int, Format.single.unitAt k ≤ e → m.value < 2 ^ e →
      m.value + 2 ^ Format.single.unitAt k ≤ 2 ^ e := by
    intro e he hlt
    obtain ⟨i, hi⟩ := exists_two_zpow_eq_mul he
    rw [hi, hvalue] at hlt ⊢
    have hn' : n + 1 ≤ 2 ^ i := by exact_mod_cast lt_of_mul_lt_mul_right hlt hunit.le
    calc (n : ℚ) * 2 ^ Format.single.unitAt k + 2 ^ Format.single.unitAt k =
          ((n + 1 : ℤ) : ℚ) * 2 ^ Format.single.unitAt k := by push_cast; ring
      _ ≤ _ := mul_le_mul_of_nonneg_right (Int.cast_le.mpr hn') hunit.le
  have hlower : ∀ e : Int, Format.single.unitAt k ≤ e → 2 ^ e < m.value →
      2 ^ e ≤ m.value - 2 ^ Format.single.unitAt k := by
    intro e he hlt
    obtain ⟨i, hi⟩ := exists_two_zpow_eq_mul he
    rw [hi, hvalue] at hlt ⊢
    have hn' : 2 ^ i + 1 ≤ n := by exact_mod_cast lt_of_mul_lt_mul_right hlt hunit.le
    calc ((2 ^ i : ℤ) : ℚ) * 2 ^ Format.single.unitAt k ≤
          ((n - 1 : ℤ) : ℚ) * 2 ^ Format.single.unitAt k :=
          mul_le_mul_of_nonneg_right (Int.cast_le.mpr (by omega)) hunit.le
      _ = _ := by push_cast; ring
  have hfits := hupper (k + 1) hcoarse hhigh
  refine ⟨hk, hk', hlower k ?_ hlow, hfits⟩
  -- in the binade below the least single there is no room for a multiple of the unit
  by_contra hnot
  obtain rfl : k = -150 := by
    rw [Format.unitAt_single] at hnot
    omega
  have hunit' : Format.single.unitAt (-150) = -149 := rfl
  rw [hunit'] at hfits
  have hpos := Format.Magnitude.value_pos hm
  norm_num at hfits hpos
  linarith

/-- What is clearly closer to such a single than half a unit is read as it. -/
theorem isReadAs_of_near_inside (hnear : |x - m.value| <
    2 ^ (Format.single.unitAt k - 1) - 2 ^ (Format.single.unitAt k - 30)) : IsReadAs x m := by
  obtain ⟨hk, hk', hbelow, habove⟩ := unit_bounds hsingle hm hlow hhigh
  have hwithin := abs_lt.mp hnear
  have hunit := half_unit_add_le k
  have hbit : (0 : ℚ) < 2 ^ (Format.single.unitAt k - 30) := zpow_pos two_pos _
  exact isReadAs_of_near hsingle hk hk' hlow.le hhigh.le (by linarith) (by linarith) hnear

/-- What is read as such a single is read as it from the other side too. -/
theorem IsReadAs.reflect (h : IsReadAs x m) (hx : 0 < x) : IsReadAs (2 * m.value - x) m := by
  obtain ⟨hk, hk', hbelow, habove⟩ := unit_bounds hsingle hm hlow hhigh
  obtain ⟨-, -, hxlow, hxhigh⟩ := h.mem_binade hm hlow hhigh hx
  have hnear' := abs_le.mp ((h.near hk hxlow hxhigh).trans (half_unit_add_le k))
  have hread := (isReadAs_iff hsingle hk hk' hlow.le hhigh.le hxlow hxhigh.le).mp h
  refine (isReadAs_iff hsingle hk hk' hlow.le hhigh.le (by linarith) (by linarith)).mpr ?_
  obtain ⟨n, hn⟩ : ∃ n, n = nearestEven (m.value / 2 ^ Format.single.unitAt k) := ⟨_, rfl⟩
  have hvalue := value_eq_multiple hsingle hlow.le hhigh.le
  obtain ⟨i, hi⟩ := exists_two_zpow_eq_mul
    (show k - 52 ≤ Format.single.unitAt k by rw [Format.unitAt_single]; omega)
  have hunit : (2 : ℚ) ^ Format.single.unitAt k ≠ 0 := (zpow_pos two_pos _).ne'
  have hunit' : (2 : ℚ) ^ (k - 52) ≠ 0 := (zpow_pos two_pos _).ne'
  rw [← hn] at hread hvalue ⊢
  -- the single is a whole number of both units
  have hfirst : (2 * m.value - x) / 2 ^ (k - 52) =
      2 * ((n * 2 ^ i : ℤ) : ℚ) - x / 2 ^ (k - 52) := by
    rw [sub_div, hvalue, hi]
    push_cast
    field_simp
  have hsecond : ∀ r : ℤ, ((2 * (n * 2 ^ i) - r : ℤ) : ℚ) * 2 ^ (k - 52) /
      2 ^ Format.single.unitAt k = 2 * (n : ℚ) - r * 2 ^ (k - 52) / 2 ^ Format.single.unitAt k := by
    intro r
    rw [hi] at hunit ⊢
    push_cast at hunit ⊢
    field_simp
  rw [hfirst, nearestEven_two_mul_sub, hsecond, nearestEven_two_mul_sub, hread]
  ring

/-- Whatever is as close to such a single as a number that is read as it is read as it too. -/
theorem IsReadAs.of_abs_sub_le (h : IsReadAs x m) (hx : 0 < x)
    (hy : |y - m.value| ≤ |x - m.value|) : IsReadAs y m := by
  have hreflect := h.reflect hsingle hm hlow hhigh hx
  obtain ⟨hk, -, hbelow, -⟩ := unit_bounds hsingle hm hlow hhigh
  obtain ⟨-, -, hxlow, hxhigh⟩ := h.mem_binade hm hlow hhigh hx
  have hnear := abs_le.mp ((h.near hk hxlow hxhigh).trans (half_unit_add_le k))
  have hx' : 0 < 2 * m.value - x := by
    have hpower : (0 : ℚ) < 2 ^ k := zpow_pos two_pos k
    linarith
  have hbounds := abs_le.mp hy
  rcases le_total m.value x with hxm | hxm
  · rw [abs_of_nonneg (by linarith : 0 ≤ x - m.value)] at hbounds
    rcases le_total m.value y with hym | hym
    · exact h.of_between hsingle hx hm (Or.inr ⟨hym, by linarith⟩)
    · exact hreflect.of_between hsingle hx' hm (Or.inl ⟨by linarith, hym⟩)
  · rw [abs_of_nonpos (by linarith : x - m.value ≤ 0)] at hbounds
    rcases le_total m.value y with hym | hym
    · exact hreflect.of_between hsingle hx' hm (Or.inr ⟨hym, by linarith⟩)
    · exact h.of_between hsingle hx hm (Or.inl ⟨by linarith, hym⟩)

end Inside

/-! ## Powers of two -/

section Power

variable {e : Int} (hvalue : m.value = 2 ^ e) (he : -149 ≤ e) (he' : e ≤ 127)

include hvalue he he'

/-- What is clearly closer than half the unit below a power of two, and below it, is read as it. -/
theorem isReadAs_below (hx : x ≤ 2 ^ e) (hnear : 2 ^ e - x <
    2 ^ (Format.single.unitAt (e - 1) - 1) - 2 ^ (Format.single.unitAt (e - 1) - 30)) :
    IsReadAs x m := by
  have hhalf : (2 : ℚ) ^ (Format.single.unitAt (e - 1) - 1) ≤ 2 ^ (e - 1) :=
    zpow_le_zpow_right₀ one_le_two (by rw [Format.unitAt_single]; omega)
  have hmargin : (0 : ℚ) < 2 ^ (Format.single.unitAt (e - 1) - 30) := zpow_pos two_pos _
  have hdouble : (2 : ℚ) ^ e = 2 * 2 ^ (e - 1) := by rw [mul_comm, ← zpow_add_one₀ two_ne_zero,
    sub_add_cancel]
  have hpower : (0 : ℚ) < 2 ^ (e - 1) := zpow_pos two_pos _
  refine isReadAs_of_near hsingle (k := e - 1) (by omega) (by omega) ?_ ?_ ?_ ?_ ?_
  · rw [hvalue]
    linarith
  · rw [hvalue, sub_add_cancel]
  · linarith
  · rwa [sub_add_cancel]
  · rwa [hvalue, abs_sub_comm, abs_of_nonneg (by linarith)]

/-- What is clearly closer than half the unit above a power of two, and above it, is read as it. -/
theorem isReadAs_above (hx : 2 ^ e ≤ x) (hnear : x - 2 ^ e <
    2 ^ (Format.single.unitAt e - 1) - 2 ^ (Format.single.unitAt e - 30)) : IsReadAs x m := by
  have hhalf : (2 : ℚ) ^ (Format.single.unitAt e - 1) ≤ 2 ^ e :=
    zpow_le_zpow_right₀ one_le_two (by rw [Format.unitAt_single]; omega)
  have hmargin : (0 : ℚ) < 2 ^ (Format.single.unitAt e - 30) := zpow_pos two_pos _
  have hdouble : (2 : ℚ) ^ (e + 1) = 2 * 2 ^ e := by rw [zpow_add_one₀ two_ne_zero, mul_comm]
  have hpower : (0 : ℚ) < 2 ^ e := zpow_pos two_pos e
  refine isReadAs_of_near hsingle (k := e) (by omega) he' hvalue.ge ?_ hx ?_ ?_
  · rw [hvalue]
    linarith
  · linarith
  · rwa [hvalue, abs_of_nonneg (by linarith)]

omit hsingle he he' in
/-- What is read as a power of two and stands below it is hardly farther than half the unit there. -/
theorem IsReadAs.le_below (h : IsReadAs x m) (hm : m.significand ≠ 0) (hpos : 0 < x)
    (hx : x < 2 ^ e) : 2 ^ e - x ≤
      2 ^ (Format.single.unitAt (e - 1) - 1) + 2 ^ (Format.single.unitAt (e - 1) - 30) := by
  obtain ⟨j, hj, -, hxlow, hxhigh, hjlow, hjhigh⟩ := h.exists_binade hpos hm
  have hlt := (zpow_lt_zpow_iff_right₀ (one_lt_two (α := ℚ))).mp (hxlow.trans_lt hx)
  have hle := (zpow_le_zpow_iff_right₀ (one_lt_two (α := ℚ))).mp (hvalue ▸ hjhigh)
  obtain rfl : j = e - 1 := by omega
  have hnear := h.near hj hxlow hxhigh
  rwa [hvalue, abs_sub_comm, abs_of_pos (by linarith)] at hnear

omit hsingle he he' in
/-- What is read as a power of two and stands above it is hardly farther than half the unit there. -/
theorem IsReadAs.le_above (h : IsReadAs x m) (hm : m.significand ≠ 0) (hx : 2 ^ e < x) :
    x - 2 ^ e ≤ 2 ^ (Format.single.unitAt e - 1) + 2 ^ (Format.single.unitAt e - 30) := by
  obtain ⟨j, hj, -, hxlow, hxhigh, hjlow, hjhigh⟩ :=
    h.exists_binade ((zpow_pos two_pos e).trans hx) hm
  have hle := (zpow_le_zpow_iff_right₀ (one_lt_two (α := ℚ))).mp (hvalue ▸ hjlow)
  have hlt := (zpow_lt_zpow_iff_right₀ (one_lt_two (α := ℚ))).mp (hx.trans hxhigh)
  obtain rfl : j = e := by omega
  have hnear := h.near hj hxlow hxhigh
  rwa [hvalue, abs_of_pos (by linarith)] at hnear

end Power

/-! ## A part of the single -/

omit hsingle in
/-- A part in a hundred millions of a power of two is clearly less than half the unit on either side
of it. -/
theorem div_lt_half_unit {u : Int} (hu : k - 24 ≤ u) :
    (2 : ℚ) ^ k / 10 ^ 8 < 2 ^ (u - 1) - 2 ^ (u - 30) := by
  have hunit : (2 : ℚ) ^ k / 2 ^ 24 ≤ 2 ^ u := by
    rw [← zpow_natCast, ← zpow_sub₀ two_ne_zero]
    exact zpow_le_zpow_right₀ one_le_two hu
  have hpow : (0 : ℚ) < 2 ^ k := zpow_pos two_pos k
  rw [zpow_sub₀ two_ne_zero, zpow_sub₀ two_ne_zero]
  norm_num at hunit ⊢
  linarith

/-- What is within a part in two hundred millions of a single is read as it. -/
theorem isReadAs_of_abs_sub_le (hm : m.significand ≠ 0)
    (hnear : |x - m.value| ≤ m.value / (2 * 10 ^ 8)) : IsReadAs x m := by
  rcases inside_or_power hsingle hm with ⟨k, hlow, hhigh⟩ | ⟨e, he, he', hvalue⟩
  · refine isReadAs_of_near_inside hsingle hm hlow hhigh (lt_of_le_of_lt (hnear.trans ?_)
      (div_lt_half_unit (k := k) (by rw [Format.unitAt_single]; omega)))
    rw [zpow_add_one₀ two_ne_zero] at hhigh
    linarith
  · -- the unit below a power of two is half the one above
    have hpow : (0 : ℚ) < 2 ^ e := zpow_pos two_pos e
    rw [hvalue] at hnear
    have hwithin := abs_le.mp (hnear.trans (by linarith : (2 : ℚ) ^ e / (2 * 10 ^ 8) ≤ 2 ^ e / 10 ^ 8))
    rcases le_total x (2 ^ e) with hle | hge
    · refine isReadAs_below hsingle hvalue he he' hle (lt_of_le_of_lt ?_
        (div_lt_half_unit (k := e) (by rw [Format.unitAt_single]; omega)))
      linarith
    · refine isReadAs_above hsingle hvalue he he' hge (lt_of_le_of_lt ?_
        (div_lt_half_unit (k := e) (by rw [Format.unitAt_single]; omega)))
      linarith

end Single

end Double

end FieldCode
