import FieldCode.Proofs.Number.Notation
import FieldCode.Proofs.Number.ReadAs

/-!
# The fewest digits that are read as a single

The search for the digits of a single tries one decimal for each digit count, the one nearest to the
single.  That would be enough if some decimal with so many digits were read as the single only if the
nearest one were.  The nearest decimal is as close as any other with as few digits
(`Decimal.abs_value_nearest_sub_le_of_hasDigits`), so it is enough for a single inside a binade, whose
stretch of numbers is the same on both sides.  A power of two has more room above than below, and
there the nearest decimal may fall out of the stretch below while the next one above is in it.

The powers of two are few enough to be settled one by one.  For each of them and each digit count the
two decimals around it are compared with half the units of the singles below and above
(`PowerOfTwo.Settles`), with a margin for the last bit of a double, and for three of them they stand
as badly as they can: `longSingles`.  These are written with nine digits although eight would do, and
they are the only ones (`float_literal_fewest_iff`).
-/

namespace FieldCode

/-! ## How many digits a number needs -/

/-- The number can be written with `n` significant digits. -/
def HasDigits (n : Nat) (x : ℚ) : Prop :=
  ∃ (c : Nat) (e : Int), c < 10 ^ n ∧ x = c * 10 ^ e

namespace Decimal

theorem hasDigits_iff {d : Decimal} (h : d.significand ≠ 0) {n : Nat} :
    HasDigits n d.value ↔ d.trimmed.digits.length ≤ n := by
  have hlast := trimmed_mod_ten_ne_zero h
  obtain ⟨t, f, htrimmed⟩ : ∃ t f, d.trimmed = ⟨t, f⟩ := ⟨_, _, rfl⟩
  rw [← value_trimmed, digits, htrimmed]
  rw [htrimmed] at hlast
  dsimp only at hlast ⊢
  constructor
  · rintro ⟨c, e, hc, hvalue⟩
    have hvalue' : (t : ℚ) * 10 ^ f = c * 10 ^ e := hvalue
    -- the other decimal has at least as many zeros at the end
    have hle : t ≤ c := by
      rcases lt_or_ge f e with hlt | hge
      · exfalso
        obtain ⟨i, rfl⟩ : ∃ i : Nat, e = f + (i + 1 : Nat) := ⟨(e - f - 1).toNat, by omega⟩
        rw [zpow_add₀ (by norm_num), zpow_natCast, mul_left_comm, mul_comm (t : ℚ)] at hvalue'
        have hmultiple : t = c * 10 ^ (i + 1) := by
          exact_mod_cast mul_left_cancel₀ (zpow_pos (by norm_num) f).ne' hvalue'
        rw [hmultiple, Nat.pow_succ, ← Nat.mul_assoc, Nat.mul_mod_left] at hlast
        exact hlast rfl
      · obtain ⟨i, rfl⟩ : ∃ i : Nat, f = e + i := ⟨(f - e).toNat, by omega⟩
        rw [zpow_add₀ (by norm_num), zpow_natCast, mul_left_comm, mul_comm (c : ℚ)] at hvalue'
        have hmultiple : t * 10 ^ i = c := by
          exact_mod_cast mul_left_cancel₀ (zpow_pos (by norm_num) e).ne' hvalue'
        rw [← hmultiple]
        exact Nat.le_mul_of_pos_right t (Nat.pow_pos (by decide))
    have hn : 0 < n := by
      by_contra hzero
      obtain rfl : n = 0 := by omega
      omega
    exact (Nat.length_toDigits_le_iff (by decide) hn).mpr (by omega)
  · intro hlength
    exact ⟨t, f, (lt_pow_length_toDigits t).trans_le (Nat.pow_le_pow_right (by decide) hlength), rfl⟩

section Nearest

variable {x y : ℚ} (hx : 0 < x) {n : Nat}

include hx

theorem hasDigits_nearest : HasDigits (n + 1) (nearest x (n + 1)).value := by
  rcases lt_or_eq_of_le (significand_nearest_le hx (n + 1)) with hlt | heq
  · exact ⟨_, _, hlt, rfl⟩
  · -- the power of ten behind the digits has a single one
    refine ⟨1, (nearest x (n + 1)).exponent + (n + 1 : Nat), Nat.one_lt_pow (by omega) (by decide), ?_⟩
    rw [value, heq, zpow_add₀ (by norm_num), zpow_natCast]
    push_cast
    ring

omit hx in
/-- A number with `n` digits stands on the grid of the nearest one, or below the decade. -/
theorem grid_or_lt (hy : HasDigits n y) :
    (∃ z : ℤ, y = z * 10 ^ (decade x - (n : Int))) ∨ y < 10 ^ (decade x - 1) := by
  obtain ⟨c, e, hc, rfl⟩ := hy
  rcases le_or_gt (decade x - (n : Int)) e with hle | hgt
  · left
    obtain ⟨i, rfl⟩ : ∃ i : Nat, e = decade x - (n : Int) + i :=
      ⟨(e - (decade x - n)).toNat, by omega⟩
    refine ⟨c * 10 ^ i, ?_⟩
    rw [zpow_add₀ (by norm_num), zpow_natCast]
    push_cast
    ring
  · right
    calc (c : ℚ) * 10 ^ e < 10 ^ n * 10 ^ e :=
          mul_lt_mul_of_pos_right (by exact_mod_cast hc) (zpow_pos (by norm_num) e)
      _ = 10 ^ ((n : Int) + e) := by rw [← zpow_natCast, ← zpow_add₀ (by norm_num)]
      _ ≤ 10 ^ (decade x - 1) := zpow_le_zpow_right₀ (by norm_num) (by omega)

theorem abs_value_nearest_sub_le_grid (z : ℤ) :
    |(nearest x n).value - x| ≤ |z * 10 ^ (decade x - (n : Int)) - x| := by
  have hpow : (0 : ℚ) < 10 ^ (decade x - (n : Int)) := zpow_pos (by norm_num) _
  have hscaled : ∀ z : ℤ, z * 10 ^ (decade x - (n : Int)) - x =
      (z - x / 10 ^ (decade x - (n : Int))) * (10 : ℚ) ^ (decade x - (n : Int)) := by
    intro z
    rw [sub_mul, div_mul_cancel₀ _ hpow.ne']
  have hvalue : (nearest x n).value =
      nearestEven (x / 10 ^ (decade x - (n : Int))) * 10 ^ (decade x - (n : Int)) := by
    rw [← significand_nearest hx, Int.cast_natCast]
    rfl
  rw [hvalue, hscaled, hscaled, abs_mul, abs_mul]
  exact mul_le_mul_of_nonneg_right (abs_nearestEven_sub_le_abs_sub _ z) (abs_nonneg _)

omit hx in
/-- The lower end of the decade is on the grid. -/
theorem lower_end_eq (x : ℚ) (n : Nat) :
    ((10 ^ n : ℕ) : ℚ) * 10 ^ (decade x - ((n + 1 : Nat) : Int)) = 10 ^ (decade x - 1) := by
  push_cast
  rw [← zpow_natCast, ← zpow_add₀ (by norm_num)]
  congr 1
  ring

/-- No number with as few digits is nearer than the nearest decimal. -/
theorem abs_value_nearest_sub_le_of_hasDigits (hy : HasDigits (n + 1) y) :
    |(nearest x (n + 1)).value - x| ≤ |y - x| := by
  rcases grid_or_lt (x := x) hy with ⟨z, rfl⟩ | hlt
  · exact abs_value_nearest_sub_le_grid hx z
  · have hlow := (decade_bounds hx).1
    have hend := abs_value_nearest_sub_le_grid hx ((10 ^ n : ℕ) : ℤ) (n := n + 1)
    rw [Int.cast_natCast, lower_end_eq] at hend
    calc |(nearest x (n + 1)).value - x| ≤ |10 ^ (decade x - 1) - x| := hend
      _ = x - 10 ^ (decade x - 1) := by rw [abs_sub_comm, abs_of_nonneg (by linarith)]
      _ ≤ x - y := by linarith
      _ ≤ |y - x| := by rw [abs_sub_comm]; exact le_abs_self _

/-- The two neighbours of a number on the grid of decimals with `n` digits. -/
structure Neighbours (x : ℚ) (n : Nat) (low high : ℚ) : Prop where
  low_le : low ≤ x
  lt_high : x < high
  /-- No number with as few digits is between them. -/
  apart : ∀ y, HasDigits n y → y ≤ low ∨ high ≤ y
  /-- The nearest decimal is the nearer of the two. -/
  nearest : (nearest x n).value = low ∧ x - low ≤ high - x ∨
    (nearest x n).value = high ∧ high - x ≤ x - low

theorem neighbours {a : Nat} (hlow : a * 10 ^ (decade x - ((n + 1 : Nat) : Int)) ≤ x)
    (hhigh : x < (a + 1) * 10 ^ (decade x - ((n + 1 : Nat) : Int))) :
    Neighbours x (n + 1) (a * 10 ^ (decade x - ((n + 1 : Nat) : Int)))
      ((a + 1) * 10 ^ (decade x - ((n + 1 : Nat) : Int))) := by
  obtain ⟨g, hg⟩ : ∃ g : ℚ, g = 10 ^ (decade x - ((n + 1 : Nat) : Int)) := ⟨_, rfl⟩
  have hpos : 0 < g := hg ▸ zpow_pos (by norm_num) _
  have hnearest := abs_value_nearest_sub_le_grid hx (n := n + 1)
  rw [← hg] at hlow hhigh hnearest ⊢
  have hgrid : ∀ z : ℤ, (z : ℚ) * g ≤ a * g ∨ (a + 1) * g ≤ z * g := by
    intro z
    rcases le_or_gt z a with hle | hgt
    · left
      exact mul_le_mul_of_nonneg_right (by exact_mod_cast hle) hpos.le
    · right
      exact mul_le_mul_of_nonneg_right (by exact_mod_cast hgt) hpos.le
  refine ⟨hlow, hhigh, fun y hy => ?_, ?_⟩
  · rcases grid_or_lt (x := x) hy with ⟨z, rfl⟩ | hlt
    · rw [← hg]
      exact hgrid z
    · -- the lower end of the decade is on the grid and not above the number
      left
      have hend : ((10 ^ n : ℕ) : ℚ) * g = 10 ^ (decade x - 1) := hg ▸ lower_end_eq x n
      have hbelow : 10 ^ n < a + 1 := by
        have hreach := (hend.trans_le (decade_bounds hx).1).trans_lt hhigh
        exact_mod_cast lt_of_mul_lt_mul_right hreach hpos.le
      refine hlt.le.trans (hend ▸ mul_le_mul_of_nonneg_right ?_ hpos.le)
      exact_mod_cast Nat.lt_succ_iff.mp hbelow
  · obtain ⟨z, hz⟩ : ∃ z : ℤ, (nearest x (n + 1)).value = z * g := ⟨_, by rw [hg]; rfl⟩
    have hnear := hnearest a
    have hnear' := hnearest (a + 1)
    push_cast at hnear hnear'
    rw [abs_of_nonpos (by linarith : (a : ℚ) * g - x ≤ 0), abs_le] at hnear
    rw [abs_of_nonneg (by linarith : 0 ≤ ((a : ℚ) + 1) * g - x), abs_le] at hnear'
    rcases hgrid z with hle | hge
    · rw [← hz] at hle
      exact Or.inl ⟨by linarith, by linarith⟩
    · rw [← hz] at hge
      exact Or.inr ⟨by linarith, by linarith⟩

end Nearest

end Decimal

/-! ## Powers of two -/

namespace PowerOfTwo

open Middle

/-- The decade of `2^e`, by way of the logarithm of two. -/
def tenth (e : Int) : Int :=
  e * 30103 / 100000 + 1

/-- The decade is right. -/
def HasDecade (e : Int) : Prop :=
  scaledTen (tenth e - 1) e ≤ scaledTwo (tenth e - 1) e ∧
    scaledTwo (tenth e) e < scaledTen (tenth e) e

instance (e : Int) : Decidable (HasDecade e) :=
  inferInstanceAs (Decidable (_ ∧ _))

/-- The exponent of the margin that the last bit of a double takes from half a unit of the singles
below `2^e`. -/
def margin (e : Int) : Int :=
  Format.single.unitAt (e - 1) - 30

/-- How many times larger the unit above `2^e` is than the one below. -/
def ratio (e : Int) : Nat :=
  2 ^ (Format.single.unitAt e - Format.single.unitAt (e - 1)).toNat

/-- The step of the grid of decimals with `n` digits around `2^e`, on a scale on which this and the
margin are natural numbers. -/
def step (e : Int) (n : Nat) : Nat :=
  scaledTen (tenth e - n) (margin e)

/-- The margin on that scale. -/
def bit (e : Int) (n : Nat) : Nat :=
  scaledTwo (tenth e - n) (margin e)

/-- How far `2^e` is above the grid, on that scale. -/
def rest (e : Int) (n : Nat) : Nat :=
  2 ^ (e - margin e).toNat * bit e n % step e n

/-- If the decimal above `2^e` may be read as it and the one below is nearer, that one is read as it
too; and the other way round. -/
def Settles (e : Int) (n : Nat) : Prop :=
  (step e n - rest e n ≤ ratio e * (2 ^ 29 + 1) * bit e n → rest e n ≤ step e n - rest e n →
    rest e n < (2 ^ 29 - 1) * bit e n) ∧
  (rest e n ≤ (2 ^ 29 + 1) * bit e n → step e n - rest e n ≤ rest e n →
    step e n - rest e n < ratio e * (2 ^ 29 - 1) * bit e n)

instance (e : Int) (n : Nat) : Decidable (Settles e n) :=
  inferInstanceAs (Decidable ((_ → _ → _) ∧ (_ → _ → _)))

/-- The exponents of the powers of two that are singles. -/
def exponents : List Int :=
  (List.range 277).map fun i : Nat => (i : Int) - 149

/-- The three that are not settled. -/
def unsettled : List Int :=
  [-96, 87, 90]

theorem all_hasDecade : ∀ e ∈ exponents, HasDecade e := by
  decide +kernel

/-- All other powers of two are settled, for each digit count. -/
theorem all_settle : ∀ e ∈ exponents, e ∉ unsettled → ∀ n ∈ List.range 9, Settles e (n + 1) := by
  decide +kernel

variable {e : Int} {n : Nat}

theorem mem_exponents (he : -149 ≤ e) (he' : e ≤ 127) : e ∈ exponents :=
  List.mem_map.mpr ⟨(e + 149).toNat, List.mem_range.mpr (by omega), by omega⟩

theorem decade_eq (h : HasDecade e) : decade ((2 : ℚ) ^ e) = tenth e := by
  have hpow : (0 : ℚ) < 2 ^ e := zpow_pos two_pos e
  obtain ⟨hlow, hhigh⟩ := decade_bounds hpow
  obtain ⟨scale, hscale, hten, htwo⟩ := exists_scale (tenth e - 1) e
  obtain ⟨scale', hscale', hten', htwo'⟩ := exists_scale (tenth e) e
  have hbelow : (10 : ℚ) ^ (tenth e - 1) ≤ 2 ^ e := by
    refine le_of_mul_le_mul_right ?_ hscale
    rw [← hten, ← htwo]
    exact_mod_cast h.1
  have habove : (2 : ℚ) ^ e < 10 ^ tenth e := by
    refine lt_of_mul_lt_mul_right ?_ hscale'.le
    rw [← hten', ← htwo']
    exact_mod_cast h.2
  have hlt : ∀ {i i' : Int}, (10 : ℚ) ^ i < 10 ^ i' → i < i' :=
    (zpow_lt_zpow_iff_right₀ (by norm_num)).mp
  have hle := hlt (hbelow.trans_lt hhigh)
  have hge := hlt (hlow.trans_lt habove)
  omega

/-- The distances of a power of two from its neighbours on the grid are those that were tested. -/
theorem exists_neighbours (he : -149 ≤ e) (hdecade : decade ((2 : ℚ) ^ e) = tenth e) (n : Nat) :
    ∃ scale low high : ℚ, 0 < scale ∧ Decimal.Neighbours (2 ^ e) (n + 1) low high ∧
      (2 : ℚ) ^ margin e * scale = bit e (n + 1) ∧ (2 ^ e - low) * scale = rest e (n + 1) ∧
      (high - 2 ^ e) * scale = ((step e (n + 1) - rest e (n + 1) : Nat) : ℚ) := by
  obtain ⟨scale, hscale, hten, htwo⟩ := exists_scale (tenth e - (n + 1 : Nat)) (margin e)
  have hmargin : margin e ≤ e := by
    rw [margin, Format.unitAt_single]
    omega
  have hstep : 0 < step e (n + 1) :=
    Nat.mul_pos (Nat.pow_pos (by decide)) (Nat.pow_pos (by decide))
  have hrest : rest e (n + 1) < step e (n + 1) := Nat.mod_lt _ hstep
  obtain ⟨a, ha⟩ : ∃ a, a = 2 ^ (e - margin e).toNat * bit e (n + 1) / step e (n + 1) := ⟨_, rfl⟩
  have hdivision :
      step e (n + 1) * a + rest e (n + 1) = 2 ^ (e - margin e).toNat * bit e (n + 1) := by
    rw [ha]
    exact Nat.div_add_mod _ _
  have hpower : (2 : ℚ) ^ e * scale = step e (n + 1) * a + rest e (n + 1) := by
    have hsplit : (2 : ℚ) ^ e = 2 ^ (e - margin e).toNat * 2 ^ margin e := by
      rw [← zpow_natCast, ← zpow_add₀ two_ne_zero]
      congr 1
      omega
    rw [hsplit, mul_assoc, ← htwo]
    exact_mod_cast hdivision.symm
  obtain ⟨g, hg⟩ : ∃ g : ℚ, g = 10 ^ (decade ((2 : ℚ) ^ e) - ((n + 1 : Nat) : Int)) := ⟨_, rfl⟩
  have hgrid : g * scale = step e (n + 1) := by
    rw [hg, hdecade, ← hten]
    rfl
  have hbelow : (2 ^ e - a * g) * scale = rest e (n + 1) := by
    rw [sub_mul, mul_assoc, hgrid, hpower]
    ring
  have habove :
      ((a + 1) * g - 2 ^ e) * scale = ((step e (n + 1) - rest e (n + 1) : Nat) : ℚ) := by
    rw [sub_mul, mul_assoc, hgrid, hpower, Nat.cast_sub hrest.le]
    ring
  refine ⟨scale, a * g, (a + 1) * g, hscale, ?_, htwo.symm, hbelow, habove⟩
  rw [hg] at hbelow habove ⊢
  refine Decimal.neighbours (zpow_pos two_pos e) (sub_nonneg.mp ?_) (sub_pos.mp ?_)
  · refine nonneg_of_mul_nonneg_left ?_ hscale
    rw [hbelow]
    exact Nat.cast_nonneg _
  · refine (mul_pos_iff_of_pos_right hscale).mp ?_
    rw [habove]
    exact Nat.cast_pos.mpr (by omega)

/-- Half the unit below a power of two and half the unit above it, in margins. -/
theorem half_units (e : Int) :
    (2 : ℚ) ^ (Format.single.unitAt (e - 1) - 1) = 2 ^ 29 * 2 ^ margin e ∧
      (2 : ℚ) ^ (Format.single.unitAt (e - 1) - 30) = 2 ^ margin e ∧
      (2 : ℚ) ^ (Format.single.unitAt e - 1) = ratio e * (2 ^ 29 * 2 ^ margin e) ∧
      (2 : ℚ) ^ (Format.single.unitAt e - 30) = ratio e * 2 ^ margin e := by
  have hunits : Format.single.unitAt (e - 1) ≤ Format.single.unitAt e := by
    rw [Format.unitAt_single, Format.unitAt_single]
    omega
  have hratio : (ratio e : ℚ) = 2 ^ (Format.single.unitAt e - Format.single.unitAt (e - 1)) := by
    rw [ratio]
    push_cast
    rw [← zpow_natCast]
    congr 1
    omega
  rw [hratio, margin]
  refine ⟨?_, rfl, ?_, ?_⟩
  all_goals
    simp only [← zpow_natCast, ← zpow_add₀ (two_ne_zero (α := ℚ))]
    congr 1
    push_cast
    ring

end PowerOfTwo

variable {m : Format.double.Magnitude} {x y : ℚ} {e : Int}

open PowerOfTwo in
/-- If a power of two is settled for a digit count and some number with so many digits is read as it,
the nearest decimal is. -/
theorem isReadAs_nearest_of_settles (hsingle : (Double.finite false m).toSingle = .finite false m)
    (hm : m.significand ≠ 0) (hvalue : m.value = 2 ^ e) (he : -149 ≤ e) (he' : e ≤ 127)
    (hdecade : decade ((2 : ℚ) ^ e) = tenth e) {n : Nat} (hsettles : Settles e (n + 1))
    (hy : Double.IsReadAs y m) (hpos : 0 < y) (hdigits : HasDigits (n + 1) y) :
    Double.IsReadAs (Decimal.nearest m.value (n + 1)).value m := by
  obtain ⟨scale, low, high, hscale, hneighbours, hbit, hbelow, habove⟩ :=
    exists_neighbours he hdecade n
  obtain ⟨hlower, hlower', hupper, hupper'⟩ := half_units e
  have hpower : (0 : ℚ) < 2 ^ e := zpow_pos two_pos e
  -- what is said of distances in margins is said of the natural numbers that were tested
  have hle : ∀ {d : ℚ} {i c : Nat}, d * scale = i → d ≤ c * 2 ^ margin e →
      i ≤ c * bit e (n + 1) := by
    intro d i c hd hdc
    have hscaled := mul_le_mul_of_nonneg_right hdc hscale.le
    rw [hd, mul_assoc, hbit] at hscaled
    exact_mod_cast hscaled
  have hlt : ∀ {d : ℚ} {i c : Nat}, d * scale = i → i < c * bit e (n + 1) →
      d < c * 2 ^ margin e := by
    intro d i c hd hic
    refine lt_of_mul_lt_mul_right ?_ hscale.le
    rw [hd, mul_assoc, hbit]
    exact_mod_cast hic
  have hnearer : ∀ {d d' : ℚ} {i i' : Nat}, d * scale = i → d' * scale = i' → d ≤ d' → i ≤ i' := by
    intro d d' i i' hd hd' hdd
    have hscaled := mul_le_mul_of_nonneg_right hdd hscale.le
    rw [hd, hd'] at hscaled
    exact_mod_cast hscaled
  obtain ⟨hsettlesbelow, hsettlesabove⟩ := hsettles
  have hlow := hneighbours.low_le
  have hhigh := hneighbours.lt_high
  rw [hvalue]
  rcases hneighbours.nearest with ⟨hN, hnear⟩ | ⟨hN, hnear⟩ <;> rw [hN] <;>
    rcases hneighbours.apart y hdigits with hylow | hyhigh
  · exact hy.of_between hsingle hpos hm (Or.inl ⟨hylow, hvalue ▸ hlow⟩)
  · have hread : Double.IsReadAs high m :=
      hy.of_between hsingle hpos hm (Or.inr ⟨hvalue ▸ hhigh.le, hyhigh⟩)
    have hfar := hread.le_above hvalue hm hhigh
    have htested := hsettlesbelow (hle habove (hfar.trans_eq (by
      rw [hupper, hupper']
      push_cast
      ring))) (hnearer hbelow habove hnear)
    refine Double.isReadAs_below hsingle hvalue he he' hlow ((hlt hbelow htested).trans_eq ?_)
    rw [hlower, hlower']
    norm_num
    ring
  · have hread : Double.IsReadAs low m :=
      hy.of_between hsingle hpos hm (Or.inl ⟨hylow, hvalue ▸ hlow⟩)
    have hfar := hread.le_below hvalue hm (hpos.trans_le hylow) (by linarith)
    have htested := hsettlesabove (hle hbelow (hfar.trans_eq (by
      rw [hlower, hlower']
      push_cast
      ring))) (hnearer habove hbelow hnear)
    refine Double.isReadAs_above hsingle hvalue he he' hhigh.le ((hlt habove htested).trans_eq ?_)
    rw [hupper, hupper']
    push_cast
    norm_num
    ring
  · exact hy.of_between hsingle hpos hm (Or.inr ⟨hvalue ▸ hhigh.le, hyhigh⟩)

/-! ## The digits that are found -/

/-- The nearest decimal with nine digits is always read as the single. -/
theorem isReadAs_nearest_nine (hsingle : (Double.finite false m).toSingle = .finite false m)
    (hm : m.significand ≠ 0) : Double.IsReadAs (Decimal.nearest m.value 9).value m :=
  Double.isReadAs_of_abs_sub_le hsingle hm
    (Decimal.abs_value_nearest_nine_sub_le (Format.Magnitude.value_pos hm))

/-- The singles that are written with more digits than they need, each with the digits that it is
written with and fewer that are read as it. -/
def longDecimals : List (Format.double.Magnitude × Decimal × Decimal) :=
  [(⟨4503599627370496, -148, by decide⟩, ⟨126217745, -37⟩, ⟨12621775, -36⟩),
    (⟨4503599627370496, 35, by decide⟩, ⟨154742505, 18⟩, ⟨15474251, 19⟩),
    (⟨4503599627370496, 38, by decide⟩, ⟨123794004, 19⟩, ⟨12379401, 20⟩)]

/-- The singles that are written with more digits than they need: `2^-96`, `2^87` and `2^90`. -/
def longSingles : List Format.double.Magnitude :=
  longDecimals.map (·.1)

theorem mem_longSingles (hvalue : m.value = 2 ^ e) (he : e ∈ PowerOfTwo.unsettled) :
    m ∈ longSingles := by
  have hpower : ∀ e ∈ PowerOfTwo.unsettled, ∃ m' ∈ longSingles, m'.significand = 2 ^ 52 ∧
      m'.exponent = e - 52 := by decide
  obtain ⟨m', hm', hsignificand, hexponent⟩ := hpower e he
  have hsame : m = m' := by
    refine Format.Magnitude.value_injective ?_
    have hbound : ((2 ^ 52 : Nat) : ℚ) = 2 ^ (52 : Int) := by norm_num
    rw [hvalue, Format.Magnitude.value, hsignificand, hexponent, hbound, ← zpow_add₀ two_ne_zero]
    congr 1
    ring
  exact hsame ▸ hm'

/-- For all other singles the nearest decimal is read as the single if any decimal with as few digits
is. -/
theorem isReadAs_nearest (hsingle : (Double.finite false m).toSingle = .finite false m)
    (hm : m.significand ≠ 0) (hshort : m ∉ longSingles) {n : Nat} (hn : n < 9)
    (hy : Double.IsReadAs y m) (hpos : 0 < y) (hdigits : HasDigits (n + 1) y) :
    Double.IsReadAs (Decimal.nearest m.value (n + 1)).value m := by
  rcases Double.inside_or_power hsingle hm with ⟨k, hlow, hhigh⟩ | ⟨e, he, he', hvalue⟩
  · exact hy.of_abs_sub_le hsingle hm hlow hhigh hpos
      (Decimal.abs_value_nearest_sub_le_of_hasDigits (Format.Magnitude.value_pos hm) hdigits)
  · have hmem := PowerOfTwo.mem_exponents he he'
    have hsettles := PowerOfTwo.all_settle e hmem (fun h => hshort (mem_longSingles hvalue h)) n
      (List.mem_range.mpr hn)
    exact isReadAs_nearest_of_settles hsingle hm hvalue he he'
      (PowerOfTwo.decade_eq (PowerOfTwo.all_hasDecade e hmem)) hsettles hy hpos hdigits

theorem Decimal.narrowsTo_iff {d : Decimal} : d.narrowsTo m = true ↔ Double.IsReadAs d.value m := by
  rw [Decimal.narrowsTo, beq_iff_eq, Decimal.toDouble_eq, Double.IsReadAs]

/-- What is tried for a digit count is the nearest decimal, if it is read as the single. -/
theorem singleDigits?_eq_some_iff {n : Nat} {d : Decimal} : singleDigits? m n = some d ↔
    d = Decimal.nearest m.value n ∧ Double.IsReadAs d.value m := by
  rw [singleDigits?, ← Decimal.narrowsTo_iff]
  split
  · rename_i hnarrow
    exact ⟨fun h => Option.some.inj h ▸ ⟨rfl, hnarrow⟩, fun h => congrArg some h.1.symm⟩
  · rename_i hnot
    exact ⟨(nomatch ·), fun h => absurd (h.1 ▸ h.2) hnot⟩

/-- The search ends at the first nearest decimal that is read as the single. -/
theorem exists_tried_le {i : Nat} (hi : i < 9)
    (h : Double.IsReadAs (Decimal.nearest m.value (i + 1)).value m) :
    ∃ j ≤ i, triedDecimal? m = some (Decimal.nearest m.value (j + 1)) ∧
      Double.IsReadAs (Decimal.nearest m.value (j + 1)).value m ∧
        ∀ k < j, ¬ Double.IsReadAs (Decimal.nearest m.value (k + 1)).value m := by
  have hhere := singleDigits?_eq_some_iff.mpr ⟨rfl, h⟩
  obtain ⟨j, hj, d, hd, hfirst, hsearch⟩ :=
    exists_findSome?_range_eq (f := fun k => singleDigits? m (k + 1)) hi hhere
  obtain ⟨rfl, hread⟩ := singleDigits?_eq_some_iff.mp hd
  refine ⟨j, hj, hsearch, hread, fun k hk hreadk => ?_⟩
  have hnone := hfirst k hk
  rw [singleDigits?_eq_some_iff.mpr ⟨rfl, hreadk⟩] at hnone
  cases hnone

theorem length_shortestSingle_le (hm : m.significand ≠ 0) {i : Nat} (hi : i < 9)
    (h : Double.IsReadAs (Decimal.nearest m.value (i + 1)).value m) :
    (shortestSingle m).digits.length ≤ i + 1 := by
  have hpos := Format.Magnitude.value_pos hm
  obtain ⟨j, hj, htried, -, -⟩ := exists_tried_le hi h
  have hne : (Decimal.nearest m.value (j + 1)).significand ≠ 0 := by
    have hleading := Decimal.pow_le_significand_nearest hpos j
    have hpow := Nat.pow_pos (a := 10) (n := j) (by decide)
    omega
  rw [shortestSingle_of_tried htried]
  exact ((Decimal.hasDigits_iff hne).mp (Decimal.hasDigits_nearest hpos)).trans (by omega)

/-! ## The digits of literals -/

/-- The significant digits of the literal of a single are the shortest that were found. -/
theorem significantDigits_finiteLiteral (negative : Bool) (hm : m.significand ≠ 0) :
    significantDigits (finiteLiteral true negative m) = (shortestSingle m).digits := by
  obtain ⟨-, p, -, hchars, hwrites, -⟩ := exists_finiteLiteral_eq true negative hm
  rw [hchars, hwrites.significantDigits_chars]
  rfl

/-- A single other than those that are too long is written with no more digits than any decimal that
is read as it. -/
theorem length_shortestSingle_le_of_isReadAs
    (hsingle : (Double.finite false m).toSingle = .finite false m) (hm : m.significand ≠ 0)
    (hshort : m ∉ longSingles) {d : Decimal} (hd : Double.IsReadAs d.value m) :
    (shortestSingle m).digits.length ≤ d.trimmed.digits.length := by
  have hpos : 0 < d.value := hd.pos (mul_nonneg (Nat.cast_nonneg _) (zpow_pos (by norm_num) _).le) hm
  have hne : d.significand ≠ 0 := by
    intro hzero
    rw [Decimal.value, hzero, Nat.cast_zero, zero_mul] at hpos
    exact lt_irrefl _ hpos
  have hdigits := (Decimal.hasDigits_iff hne).mpr le_rfl
  obtain ⟨n, hn⟩ : ∃ n, d.trimmed.digits.length = n + 1 :=
    ⟨d.trimmed.digits.length - 1, (Nat.sub_add_cancel Nat.length_toDigits_pos).symm⟩
  rw [hn] at hdigits ⊢
  rcases Nat.lt_or_ge n 9 with hlt | hge
  · exact length_shortestSingle_le hm hlt
      (isReadAs_nearest hsingle hm hshort hlt hd hpos hdigits)
  · have hnine := length_shortestSingle_le hm (i := 8) (by decide)
      (isReadAs_nearest_nine hsingle hm)
    omega

/-- The powers of two that are not settled are written with nine digits, and eight are enough. -/
theorem exists_shorter (h : m ∈ longSingles) : m.significand ≠ 0 ∧
    (shortestSingle m).digits.length = 9 ∧
      ∃ d : Decimal, Double.IsReadAs d.value m ∧ d.trimmed.digits.length ≤ 8 := by
  have hall : ∀ p ∈ longDecimals, p.1.significand ≠ 0 ∧ triedDecimal? p.1 = some p.2.1 ∧
      p.2.1.digits.length = 9 ∧ p.2.1.significand % 10 ≠ 0 ∧
        p.2.2.narrowsTo p.1 = true ∧ p.2.2.significand ≠ 0 ∧ p.2.2.significand < 10 ^ 8 := by
    decide +kernel
  obtain ⟨⟨m', found, shorter⟩, hp, rfl⟩ := List.mem_map.mp h
  obtain ⟨hm, htried, hlength, hlast, hread, hne, hfew⟩ := hall _ hp
  refine ⟨hm, ?_, shorter, Decimal.narrowsTo_iff.mp hread, ?_⟩
  · rw [shortestSingle_of_tried htried, Decimal.trimmed, Decimal.trim,
      if_neg fun hzero => hlast hzero.2]
    exact hlength
  · exact (Decimal.hasDigits_iff hne).mp ⟨_, _, hfew, rfl⟩

theorem Double.negative_eq_of_toSingle {x : ℚ} {n n' : Bool}
    (h : (Double.ofRat n x).toSingle = .finite n' m) : n = n' := by
  have hround : ∀ {y : ℚ} {i i' : Bool} {s : Format.double.Magnitude},
      Double.ofRat i y = .finite i' s → i = i' := by
    intro y i i' s hy
    unfold Double.ofRat at hy
    split at hy
    · exact (Double.finite.inj hy).1
    · cases hy
  unfold Double.ofRat at h
  split at h
  · unfold Double.toSingle at h
    dsimp only at h
    split at h
    · exact hround h
    · cases h
  · cases h

/-- **The literal of a single has the fewest digits**, with three exceptions: no decimal that is read
as the single, by way of a double, has fewer significant digits than its literal, exactly if the
single is not `2^-96`, `2^87` or `2^90`, up to its sign. -/
theorem float_literal_fewest_iff {negative : Bool} (hm : m.significand ≠ 0)
    (hsingle : (Double.finite negative m).toSingle = .finite negative m) :
    (∀ (n : Bool) (d : Decimal), (d.toDouble n).toSingle = .finite negative m →
      (significantDigits (finiteLiteral true negative m)).length ≤ d.trimmed.digits.length) ↔
        m ∉ longSingles := by
  rw [significantDigits_finiteLiteral negative hm]
  constructor
  · intro h hlong
    obtain ⟨-, hlength, d, hd, hfew⟩ := exists_shorter hlong
    have hread : (d.toDouble negative).toSingle = .finite negative m := by
      rw [Decimal.toDouble_eq]
      exact Double.toSingle_ofRat_eq_finite hd negative
    have hle := h negative d hread
    omega
  · intro hshort n d hread
    rw [Decimal.toDouble_eq] at hread
    obtain rfl := Double.negative_eq_of_toSingle hread
    exact length_shortestSingle_le_of_isReadAs (Double.toSingle_eq_finite hsingle false) hm hshort
      (Double.toSingle_ofRat_eq_finite hread false)

/-- In particular no decimal that is read as the single next to one tenth below zero has fewer digits
than its literal. -/
theorem tenth_has_fewest_digits : ∃ m : Format.double.Magnitude, m.significand ≠ 0 ∧
    (Double.finite true m).toSingle = .finite true m ∧ m ∉ longSingles ∧
      ∀ (n : Bool) (d : Decimal), (d.toDouble n).toSingle = .finite true m →
        (significantDigits (finiteLiteral true true m)).length ≤ d.trimmed.digits.length := by
  have hsingle : (Double.finite true ⟨7205759511166976, -56, by decide⟩).toSingle =
      .finite true ⟨7205759511166976, -56, by decide⟩ := by decide +kernel
  have hshort : ⟨7205759511166976, -56, by decide⟩ ∉ longSingles := by decide
  exact ⟨⟨7205759511166976, -56, by decide⟩, by decide, hsingle, hshort,
    (float_literal_fewest_iff (by decide) hsingle).mpr hshort⟩

/-- The literal of `2^-96` has nine digits, and a decimal with eight is read as it. -/
theorem long_literal : ∃ (m : Format.double.Magnitude) (d : Decimal),
    m.value = 2 ^ (-96 : Int) ∧ (Double.finite false m).toSingle = .finite false m ∧
      finiteLiteral true false m = "1.26217745E-29".toList ∧
        (significantDigits (finiteLiteral true false m)).length = 9 ∧
          d = ⟨12621775, -36⟩ ∧ (d.toDouble false).toSingle = .finite false m ∧
            d.digits.length = 8 := by
  refine ⟨⟨4503599627370496, -148, by decide⟩, _, ?_, ?_, ?_, ?_, rfl, ?_⟩ <;> decide +kernel

end FieldCode
