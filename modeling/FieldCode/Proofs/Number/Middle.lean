import FieldCode.Proofs.Number.Tried

/-!
# Decimals next to the middle between two singles

How close can a decimal `c · 10^κ` of at most eight digits come to an odd multiple `m · 2^e` of half
the unit of the singles, without being it?  Closer than the last bit of a double would be too close:
the decimal is then read as the middle, and it is lost on which side it stood.

The question is about the fraction `10^κ / 2^e` alone.  A fraction `m / c` close to it pins all
solutions: they are its multiples (`exists_eq_mul_of_pins`).  Such a fraction is found by Euclid's
algorithm.  The algorithm is not trusted; what it finds is tested, for each power of ten and each unit
that occur together, and the few solutions that are left are tried one by one (`all_settled`).

One of them is a decimal that the search for a single returns: `7.038531e-26` for the single that is
called `misreadSingle` here.
-/

namespace FieldCode

namespace Middle

/-! ## The distance as a natural number -/

/-- The power of ten, scaled so that it and the power of two are natural numbers. -/
def scaledTen (κ e : Int) : Nat :=
  10 ^ κ.toNat * 2 ^ (-e).toNat

/-- The power of two on the same scale. -/
def scaledTwo (κ e : Int) : Nat :=
  10 ^ (-κ).toNat * 2 ^ e.toNat

/-- The distance between `c · 10^κ` and `m · 2^e` on that scale.  One of the two differences is
zero. -/
def gap (κ e : Int) (m c : Nat) : Nat :=
  (c * scaledTen κ e - m * scaledTwo κ e) + (m * scaledTwo κ e - c * scaledTen κ e)

variable {κ e : Int} {m c : Nat}

theorem zpow_mul_pow_toNat {a : ℚ} (ha : a ≠ 0) (k : Int) :
    a ^ k * a ^ (-k).toNat = a ^ k.toNat := by
  rw [← zpow_natCast, ← zpow_natCast, ← zpow_add₀ ha]
  congr 1
  omega

/-- Both powers are multiplied by one number. -/
theorem exists_scale (κ e : Int) : ∃ scale : ℚ, 0 < scale ∧
    (scaledTen κ e : ℚ) = 10 ^ κ * scale ∧ (scaledTwo κ e : ℚ) = 2 ^ e * scale := by
  refine ⟨10 ^ (-κ).toNat * 2 ^ (-e).toNat, by positivity, ?_, ?_⟩
  · rw [scaledTen, ← mul_assoc, zpow_mul_pow_toNat (by norm_num)]
    push_cast
    rfl
  · rw [scaledTwo, mul_left_comm, zpow_mul_pow_toNat (by norm_num)]
    push_cast
    rfl

theorem scaledTwo_pos (κ e : Int) : 0 < scaledTwo κ e :=
  Nat.mul_pos (Nat.pow_pos (by decide)) (Nat.pow_pos (by decide))

theorem gap_eq_natAbs (κ e : Int) (m c : Nat) :
    gap κ e m c = ((c : ℤ) * scaledTen κ e - m * scaledTwo κ e).natAbs := by
  have hten : ((c * scaledTen κ e : Nat) : ℤ) = c * scaledTen κ e := Nat.cast_mul ..
  have htwo : ((m * scaledTwo κ e : Nat) : ℤ) = m * scaledTwo κ e := Nat.cast_mul ..
  rw [gap, ← hten, ← htwo]
  omega

/-- The gap is a distance between numbers. -/
theorem exists_gap_eq (κ e : Int) (m c : Nat) : ∃ scale : ℚ, 0 < scale ∧
    (scaledTwo κ e : ℚ) = 2 ^ e * scale ∧
      (gap κ e m c : ℚ) = |(c : ℚ) * 10 ^ κ - m * 2 ^ e| * scale := by
  obtain ⟨scale, hpos, hten, htwo⟩ := exists_scale κ e
  refine ⟨scale, hpos, htwo, ?_⟩
  rw [gap_eq_natAbs, Nat.cast_natAbs]
  push_cast
  rw [hten, htwo, ← abs_of_pos hpos, ← abs_mul, abs_of_pos hpos]
  congr 1
  ring

/-- There is a gap between different numbers. -/
theorem gap_pos (h : (c : ℚ) * 10 ^ κ ≠ m * 2 ^ e) : 0 < gap κ e m c := by
  obtain ⟨scale, hpos, -, hgap⟩ := exists_gap_eq κ e m c
  have hne : (0 : ℚ) < gap κ e m c := by
    rw [hgap]
    exact mul_pos (abs_pos.mpr (sub_ne_zero.mpr h)) hpos
  exact_mod_cast hne

/-- The gap is within the last bit of a double, if the numbers are. -/
theorem gap_mul_le (h : |(c : ℚ) * 10 ^ κ - m * 2 ^ e| ≤ 2 ^ (e - 29)) :
    gap κ e m c * 2 ^ 29 ≤ scaledTwo κ e := by
  obtain ⟨scale, hpos, htwo, hgap⟩ := exists_gap_eq κ e m c
  have hle : (gap κ e m c : ℚ) * 2 ^ 29 ≤ scaledTwo κ e := by
    calc (gap κ e m c : ℚ) * 2 ^ 29
        ≤ 2 ^ (e - 29) * scale * 2 ^ 29 := by
          rw [hgap]
          exact mul_le_mul_of_nonneg_right (mul_le_mul_of_nonneg_right h hpos.le) (by positivity)
      _ = 2 ^ e * scale := by
          rw [zpow_sub₀ two_ne_zero]
          norm_num
          field_simp
      _ = scaledTwo κ e := htwo.symm
  exact_mod_cast hle

/-! ## Fractions that pin all solutions -/

/-- The fraction `m / c` in lowest terms is so close to `10^κ / 2^e` that no other fraction whose
denominator has at most eight digits is within the last bit of a double. -/
def Pins (κ e : Int) (m c : Nat) : Prop :=
  Nat.Coprime m c ∧
    c * scaledTwo κ e + 2 ^ 29 * 10 ^ 8 * gap κ e m c < 2 ^ 29 * scaledTwo κ e

instance (κ e : Int) (m c : Nat) : Decidable (Pins κ e m c) :=
  inferInstanceAs (Decidable (_ ∧ _))

/-- All solutions are multiples of a fraction that pins them. -/
theorem exists_eq_mul_of_pins {p q : Nat} (hpins : Pins κ e p q) (hc : c ≤ 10 ^ 8)
    (hgap : gap κ e m c * 2 ^ 29 ≤ scaledTwo κ e) : ∃ w, m = w * p ∧ c = w * q := by
  obtain ⟨hcoprime, hclose⟩ := hpins
  have htwo := scaledTwo_pos κ e
  have hqpos : 0 < q := by
    rcases Nat.eq_zero_or_pos q with rfl | hq
    · rw [Nat.coprime_zero_right] at hcoprime
      subst hcoprime
      have hself : gap κ e 1 0 = scaledTwo κ e := by simp [gap]
      rw [hself] at hclose
      omega
    · exact hq
  -- the two fractions differ by less than one over the product of their denominators
  have hcross : ((c : ℤ) * p - m * q) * scaledTwo κ e =
      q * ((c : ℤ) * scaledTen κ e - m * scaledTwo κ e) -
        c * ((q : ℤ) * scaledTen κ e - p * scaledTwo κ e) := by
    ring
  have hle : ((c : ℤ) * p - m * q).natAbs * scaledTwo κ e ≤ q * gap κ e m c + c * gap κ e p q := by
    have habs := congrArg Int.natAbs hcross
    rw [Int.natAbs_mul, Int.natAbs_natCast] at habs
    rw [habs]
    refine (Int.natAbs_sub_le _ _).trans ?_
    rw [Int.natAbs_mul, Int.natAbs_mul, Int.natAbs_natCast, Int.natAbs_natCast, gap_eq_natAbs,
      gap_eq_natAbs]
  have hlt : ((c : ℤ) * p - m * q).natAbs * (2 ^ 29 * scaledTwo κ e) <
      1 * (2 ^ 29 * scaledTwo κ e) :=
    calc ((c : ℤ) * p - m * q).natAbs * (2 ^ 29 * scaledTwo κ e)
        = ((c : ℤ) * p - m * q).natAbs * scaledTwo κ e * 2 ^ 29 := by ring
      _ ≤ (q * gap κ e m c + c * gap κ e p q) * 2 ^ 29 := Nat.mul_le_mul_right _ hle
      _ = q * (gap κ e m c * 2 ^ 29) + 2 ^ 29 * c * gap κ e p q := by ring
      _ ≤ q * scaledTwo κ e + 2 ^ 29 * 10 ^ 8 * gap κ e p q :=
        Nat.add_le_add (Nat.mul_le_mul_left q hgap)
          (Nat.mul_le_mul_right _ (Nat.mul_le_mul_left _ hc))
      _ < 1 * (2 ^ 29 * scaledTwo κ e) := by rwa [one_mul]
  have hequal : c * p = m * q := by
    have hzero := Int.natAbs_eq_zero.mp (Nat.lt_one_iff.mp (Nat.lt_of_mul_lt_mul_right hlt))
    exact_mod_cast sub_eq_zero.mp hzero
  obtain ⟨w, rfl⟩ : q ∣ c :=
    hcoprime.symm.dvd_of_dvd_mul_right (Dvd.intro_left m hequal.symm)
  refine ⟨w, ?_, mul_comm q w⟩
  refine Nat.eq_of_mul_eq_mul_right hqpos ?_
  rw [← hequal]
  ring

/-- The fractions of Euclid's algorithm, up to the first one that pins all solutions; `a` and `b` are
the two numbers that it divides, and `before` and `last` the two fractions found last. -/
def convergent (κ e : Int) : Nat → Nat → Nat → Nat × Nat → Nat × Nat → Nat × Nat
  | 0, _, _, _, last => last
  | fuel + 1, a, b, before, last =>
    if b = 0 ∨ Pins κ e last.1 last.2 then last
    else
      convergent κ e fuel b (a % b) last
        (a / b * last.1 + before.1, a / b * last.2 + before.2)

/-- A fraction close to `10^κ / 2^e`. -/
def closeFraction (κ e : Int) : Nat × Nat :=
  convergent κ e 100 (scaledTen κ e) (scaledTwo κ e) (0, 1) (1, 0)

/-! ## Trying the solutions -/

/-- The decimal `c · 10^κ` is tried for the single that `m · 2^e` is narrowed to, and that is not the
one single that is misread. -/
def isTried (κ e : Int) (m c : Nat) : Bool :=
  match (Double.ofRat false ((m : Rat) * 2 ^ e)).toSingle with
  | .finite _ s => s ≠ misreadSingle && (triedDecimal? s).any fun d => d.value = (c : Rat) * 10 ^ κ
  | _ => false

/-- The pair would be a decimal that is found for a single and lies next to the middle between it
and its neighbour. -/
structure IsMisread (κ e : Int) (m c : Nat) : Prop where
  odd : m % 2 = 1
  small : m ≤ 2 ^ 25
  large : e = -150 ∨ 2 ^ 24 ≤ m
  digits : c ≤ 10 ^ 8
  gap_pos : 0 < gap κ e m c
  gap_le : gap κ e m c * 2 ^ 29 ≤ scaledTwo κ e
  tried : isTried κ e m c = true

instance (κ e : Int) (m c : Nat) : Decidable (IsMisread κ e m c) :=
  decidable_of_iff (m % 2 = 1 ∧ m ≤ 2 ^ 25 ∧ (e = -150 ∨ 2 ^ 24 ≤ m) ∧ c ≤ 10 ^ 8 ∧
      0 < gap κ e m c ∧ gap κ e m c * 2 ^ 29 ≤ scaledTwo κ e ∧ isTried κ e m c = true)
    ⟨fun ⟨h₁, h₂, h₃, h₄, h₅, h₆, h₇⟩ => ⟨h₁, h₂, h₃, h₄, h₅, h₆, h₇⟩,
      fun ⟨h₁, h₂, h₃, h₄, h₅, h₆, h₇⟩ => ⟨h₁, h₂, h₃, h₄, h₅, h₆, h₇⟩⟩

/-- The fraction shows that there is no such pair: it pins all solutions, less than three of its
multiples are close enough, and it is no such pair itself. -/
def Settles (κ e : Int) (p : Nat × Nat) : Prop :=
  Pins κ e p.1 p.2 ∧
    (scaledTwo κ e < 3 * gap κ e p.1 p.2 * 2 ^ 29 ∨ 10 ^ 8 < 3 * p.2 ∨ gap κ e p.1 p.2 = 0) ∧
      ¬ IsMisread κ e p.1 p.2

instance (κ e : Int) (p : Nat × Nat) : Decidable (Settles κ e p) :=
  inferInstanceAs (Decidable (_ ∧ _))

theorem gap_mul (κ e : Int) (w m c : Nat) : gap κ e (w * m) (w * c) = w * gap κ e m c := by
  rw [gap, gap, Nat.mul_assoc, Nat.mul_assoc, ← Nat.mul_sub, ← Nat.mul_sub, ← Nat.mul_add]

/-- Where a fraction settles the matter there is no such pair. -/
theorem not_isMisread_of_settles {p : Nat × Nat} (h : Settles κ e p) : ¬ IsMisread κ e m c := by
  intro hpair
  obtain ⟨hpins, hfew, hnot⟩ := h
  obtain ⟨w, rfl, rfl⟩ := exists_eq_mul_of_pins hpins hpair.digits hpair.gap_le
  -- the multiple is odd, and three times the fraction is too much
  have hodd : w % 2 = 1 := (Nat.odd_mul.mp (Nat.odd_iff.mpr hpair.odd)).1 |> Nat.odd_iff.mp
  have hpos := hpair.gap_pos
  have hle := hpair.gap_le
  have hdigits := hpair.digits
  rw [gap_mul] at hpos hle
  have hw : w < 3 := by
    by_contra hmany
    rw [not_lt] at hmany
    have hgap := Nat.mul_le_mul_right (2 ^ 29) (Nat.mul_le_mul_right (gap κ e p.1 p.2) hmany)
    have hcount := Nat.mul_le_mul_right p.2 hmany
    rcases hfew with hfar | hlong | hzero
    · omega
    · omega
    · rw [hzero, Nat.mul_zero] at hpos
      exact lt_irrefl 0 hpos
  obtain rfl : w = 1 := by omega
  rw [Nat.one_mul, Nat.one_mul] at hpair
  exact hnot hpair

/-- The exponents of half the unit of singles for numbers with eight places before the point, in
units of `10^κ`. -/
def halfUnits (κ : Int) : List Int :=
  (List.range 5).map fun i : Nat =>
    Format.single.unitAt (binade ((10 : Rat) ^ (κ + 7)) + (i : Int)) - 1

/-- Every case is settled: the exponents of singles with eight digits, and the units for each. -/
theorem all_settled : ∀ i ∈ List.range 84, ∀ e ∈ halfUnits ((i : Nat) - 52 : Int),
    Settles ((i : Nat) - 52 : Int) e (closeFraction ((i : Nat) - 52 : Int) e) := by
  decide +kernel

end Middle

end FieldCode
