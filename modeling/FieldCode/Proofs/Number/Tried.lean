import FieldCode.Proofs.Number.Nearest
import FieldCode.Proofs.Number.Shortest

/-!
# The decimals that are tried for a single

The search for the digits of a single tries, for each digit count, the decimal nearest to it.
`decade_bounds` places the point, so such a decimal has at most that many digits
(`Decimal.significand_nearest_le`) and is within half a unit of its last place of the number
(`Decimal.abs_value_nearest_sub_le`).
-/

namespace FieldCode

/-- The decade of a number lies between two powers of ten. -/
theorem decade_bounds {x : ℚ} (hx : 0 < x) :
    (10 : ℚ) ^ (decade x - 1) ≤ x ∧ x < 10 ^ decade x := by
  obtain ⟨shift, hshift⟩ : ∃ n, n = decimalLength x.den := ⟨_, rfl⟩
  obtain ⟨y, hy⟩ : ∃ y, y = x * (10 : ℚ) ^ (shift : Int) := ⟨_, rfl⟩
  have hpow : (0 : ℚ) < 10 ^ (shift : Int) := zpow_pos (by norm_num) _
  -- scaled by the length of its denominator the number is past one
  have hone : 1 ≤ y := by
    have hden : (x.den : ℚ) ≤ 10 ^ (shift : Int) := by
      rw [zpow_natCast, hshift]
      exact_mod_cast (lt_pow_length_toDigits x.den).le
    have hnum : (1 : ℚ) ≤ x * x.den := by
      rw [Rat.mul_den_eq_num]
      exact_mod_cast Rat.num_pos.mpr hx
    rw [hy]
    exact hnum.trans (mul_le_mul_of_nonneg_left hden hx.le)
  obtain ⟨hlow, hhigh⟩ := floor_le_and_lt y
  have hfloor : 1 ≤ y.floor := Rat.le_floor_iff.mpr (by exact_mod_cast hone)
  obtain ⟨n, hn⟩ : ∃ n : Nat, y.floor = n := ⟨y.floor.toNat, by omega⟩
  have hdecade : decade x = decimalLength n - shift := by
    unfold decade
    dsimp only
    rw [← hshift, ← hy, hn, Int.toNat_natCast]
  rw [hn, Int.cast_natCast] at hlow hhigh
  have hpos : 0 < decimalLength n := Nat.length_toDigits_pos
  have hx' : x = y / 10 ^ (shift : Int) := by rw [hy, mul_div_cancel_right₀ _ hpow.ne']
  rw [hdecade, hx']
  constructor
  · rw [sub_right_comm, zpow_sub₀ (by norm_num)]
    refine div_le_div_of_nonneg_right (le_trans ?_ hlow) hpow.le
    obtain ⟨i, hi⟩ : ∃ i, decimalLength n = i + 1 := ⟨decimalLength n - 1, by omega⟩
    have hle := pow_length_toDigits_le (n := n) (by omega)
    rw [← decimalLength, hi, Nat.add_sub_cancel] at hle
    rw [hi, Nat.cast_add, Nat.cast_one, add_sub_cancel_right, zpow_natCast]
    exact_mod_cast hle
  · rw [zpow_sub₀ (by norm_num)]
    refine div_lt_div_of_pos_right (lt_of_lt_of_le hhigh ?_) hpow
    rw [zpow_natCast]
    exact_mod_cast lt_pow_length_toDigits n

namespace Decimal

variable {x : ℚ} (hx : 0 < x) (n : Nat)

include hx

/-- A number in the unit of its decimal with `n` digits lies between two powers of ten. -/
theorem div_nearest_bounds : (10 : ℚ) ^ ((n : Int) - 1) ≤ x / 10 ^ (decade x - (n : Int)) ∧
    x / 10 ^ (decade x - (n : Int)) < 10 ^ (n : Int) := by
  obtain ⟨hlow, hhigh⟩ := decade_bounds hx
  have hpow : (0 : ℚ) < 10 ^ (decade x - (n : Int)) := zpow_pos (by norm_num) _
  rw [le_div_iff₀ hpow, div_lt_iff₀ hpow, ← zpow_add₀ (by norm_num), ← zpow_add₀ (by norm_num)]
  constructor
  · rwa [show (n : Int) - 1 + (decade x - n) = decade x - 1 by ring]
  · rwa [show (n : Int) + (decade x - n) = decade x by ring]

theorem significand_nearest :
    ((nearest x n).significand : ℤ) = nearestEven (x / 10 ^ (decade x - (n : Int))) := by
  refine Int.toNat_of_nonneg (le_nearestEven ?_)
  rw [Int.cast_zero]
  exact div_nonneg hx.le (zpow_pos (by norm_num) _).le

/-- The nearest decimal has at most `n` digits, or is the power of ten behind them. -/
theorem significand_nearest_le : (nearest x n).significand ≤ 10 ^ n := by
  have hle : nearestEven (x / 10 ^ (decade x - (n : Int))) ≤ ((10 ^ n : Nat) : ℤ) := by
    refine nearestEven_le ?_
    push_cast
    rw [← zpow_natCast]
    exact (div_nearest_bounds hx n).2.le
  rw [← significand_nearest hx] at hle
  exact_mod_cast hle

/-- The nearest decimal has at least `n` digits. -/
theorem pow_le_significand_nearest : 10 ^ n ≤ (nearest x (n + 1)).significand := by
  have hle : ((10 ^ n : Nat) : ℤ) ≤ nearestEven (x / 10 ^ (decade x - ((n + 1 : Nat) : Int))) := by
    refine le_nearestEven ?_
    have hlow := (div_nearest_bounds hx (n + 1)).1
    rw [Nat.cast_add, Nat.cast_one, add_sub_cancel_right, zpow_natCast] at hlow
    exact_mod_cast hlow
  rw [← significand_nearest hx] at hle
  exact_mod_cast hle

theorem abs_value_nearest_sub_le :
    |(nearest x n).value - x| ≤ 10 ^ (decade x - (n : Int)) / 2 := by
  have hpow : (0 : ℚ) < 10 ^ (decade x - (n : Int)) := zpow_pos (by norm_num) _
  have hnear := abs_nearestEven_sub_le (x / 10 ^ (decade x - (n : Int)))
  have hvalue : (nearest x n).value =
      nearestEven (x / 10 ^ (decade x - (n : Int))) * 10 ^ (decade x - (n : Int)) := by
    rw [← significand_nearest hx, Int.cast_natCast]
    rfl
  have hscaled : (nearest x n).value - x =
      (nearestEven (x / 10 ^ (decade x - (n : Int))) - x / 10 ^ (decade x - (n : Int))) *
        10 ^ (decade x - (n : Int)) := by
    rw [hvalue, sub_mul, div_mul_cancel₀ _ hpow.ne']
  rw [hscaled, abs_mul, abs_of_pos hpow]
  calc _ ≤ 1 / 2 * (10 : ℚ) ^ (decade x - (n : Int)) := mul_le_mul_of_nonneg_right hnear hpow.le
    _ = 10 ^ (decade x - (n : Int)) / 2 := by ring

omit n in
/-- With nine digits the nearest decimal is closer than a part in two hundred millions. -/
theorem abs_value_nearest_nine_sub_le : |(nearest x 9).value - x| ≤ x / (2 * 10 ^ 8) := by
  calc |(nearest x 9).value - x| ≤ 10 ^ (decade x - ((8 + 1 : Nat) : Int)) / 2 :=
        abs_value_nearest_sub_le hx (8 + 1)
    _ = 10 ^ (decade x - 1) / (2 * 10 ^ 8) := by
        rw [show decade x - ((8 + 1 : Nat) : Int) = decade x - 1 - 8 by push_cast; ring,
          zpow_sub₀ (by norm_num)]
        norm_num
        ring
    _ ≤ x / (2 * 10 ^ 8) := div_le_div_of_nonneg_right (decade_bounds hx).1 (by norm_num)

/-- The nearest decimal is in the decade of the number, both ends included. -/
theorem value_nearest_bounds : (10 : ℚ) ^ (decade x - 1) ≤ (nearest x (n + 1)).value ∧
    (nearest x (n + 1)).value ≤ 10 ^ decade x := by
  have hpow : (0 : ℚ) < 10 ^ (decade x - ((n + 1 : Nat) : Int)) := zpow_pos (by norm_num) _
  have hlow : (10 : ℚ) ^ n ≤ (nearest x (n + 1)).significand := by
    exact_mod_cast pow_le_significand_nearest hx n
  have hhigh : ((nearest x (n + 1)).significand : ℚ) ≤ 10 ^ (n + 1) := by
    exact_mod_cast significand_nearest_le hx (n + 1)
  have hvalue : (nearest x (n + 1)).value =
      (nearest x (n + 1)).significand * 10 ^ (decade x - ((n + 1 : Nat) : Int)) := rfl
  rw [hvalue]
  constructor
  · calc (10 : ℚ) ^ (decade x - 1) = 10 ^ n * 10 ^ (decade x - ((n + 1 : Nat) : Int)) := by
          rw [← zpow_natCast, ← zpow_add₀ (by norm_num)]
          congr 1
          push_cast
          ring
      _ ≤ _ := mul_le_mul_of_nonneg_right hlow hpow.le
  · calc _ ≤ (10 : ℚ) ^ (n + 1) * 10 ^ (decade x - ((n + 1 : Nat) : Int)) :=
          mul_le_mul_of_nonneg_right hhigh hpow.le
      _ = 10 ^ decade x := by
          rw [← zpow_natCast, ← zpow_add₀ (by norm_num)]
          congr 1
          ring

/-- With fewer digits than eight, the nearest decimal can be written with eight. -/
theorem exists_eight_digits {n : Nat} (hn : n ≤ 8) :
    ∃ c : Nat, c ≤ 10 ^ 8 ∧ (nearest x n).value = c * 10 ^ (decade x - 8) := by
  refine ⟨(nearest x n).significand * 10 ^ (8 - n), ?_, ?_⟩
  · calc _ ≤ 10 ^ n * 10 ^ (8 - n) := Nat.mul_le_mul_right _ (significand_nearest_le hx n)
      _ = 10 ^ 8 := by rw [← pow_add]; congr 1; omega
  · have hvalue : (nearest x n).value =
        (nearest x n).significand * 10 ^ (decade x - (n : Int)) := rfl
    rw [hvalue]
    push_cast
    rw [mul_assoc, ← zpow_natCast, ← zpow_add₀ (by norm_num)]
    congr 2
    omega

end Decimal

/-! ## What the search returns -/

/-- A search through the first numbers ends at the least one at which there is something to find. -/
theorem exists_findSome?_range_eq {α : Type} {f : Nat → Option α} {n i : Nat} (hi : i < n) {a : α}
    (h : f i = some a) : ∃ j ≤ i, ∃ b, f j = some b ∧ (∀ k < j, f k = none) ∧
      (List.range n).findSome? f = some b := by
  have hexists : ∃ j, (f j).isSome := ⟨i, Option.isSome_of_eq_some h⟩
  obtain ⟨j, hj⟩ : ∃ j, j = Nat.find hexists := ⟨_, rfl⟩
  have hle : j ≤ i := hj ▸ Nat.find_min' hexists (Option.isSome_of_eq_some h)
  obtain ⟨b, hb⟩ := Option.isSome_iff_exists.mp (hj ▸ Nat.find_spec hexists)
  have hfirst : ∀ k < j, f k = none := fun k hk =>
    Option.not_isSome_iff_eq_none.mp (Nat.find_min hexists (hj ▸ hk))
  obtain ⟨r, rfl⟩ : ∃ r, n = j + (r + 1) := ⟨n - j - 1, by omega⟩
  refine ⟨j, hle, b, hb, hfirst, ?_⟩
  rw [List.range_add, List.range_succ_eq_map, List.findSome?_append,
    List.findSome?_eq_none_iff.mpr fun k hk => hfirst k (List.mem_range.mp hk), Option.none_or,
    List.map_cons, Nat.add_zero, List.findSome?_cons, hb]

variable {m : Format.double.Magnitude} {d : Decimal}

/-- The decimal that the search for a single finds, before its trailing zeros are dropped. -/
def triedDecimal? (m : Format.double.Magnitude) : Option Decimal :=
  (List.range 9).findSome? fun i => singleDigits? m (i + 1)

theorem shortestSingle_of_tried (h : triedDecimal? m = some d) : shortestSingle m = d.trimmed := by
  rw [shortestSingle, ← triedDecimal?, h]

theorem shortestSingle_of_not_tried (h : triedDecimal? m = none) :
    shortestSingle m = shortestDouble m := by
  rw [shortestSingle, ← triedDecimal?, h]

/-- What is found is one of the nearest decimals, and narrows to the single. -/
theorem exists_nearest_of_tried (h : triedDecimal? m = some d) :
    ∃ i < 9, d = Decimal.nearest m.value (i + 1) ∧ d.narrowsTo m = true := by
  obtain ⟨i, hi, hfound⟩ := List.exists_of_findSome?_eq_some h
  unfold singleDigits? at hfound
  dsimp only at hfound
  split at hfound
  · rename_i hnarrow
    obtain rfl := Option.some.inj hfound
    exact ⟨i, List.mem_range.mp hi, rfl, hnarrow⟩
  · cases hfound

/-- The one single whose digits are found although they lie next to the middle between it and its
neighbour. -/
def misreadSingle : Format.double.Magnitude :=
  ⟨6131425518551040, -136, by decide⟩

end FieldCode
