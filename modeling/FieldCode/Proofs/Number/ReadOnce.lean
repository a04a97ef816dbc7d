import FieldCode.Proofs.Number.Middle
import FieldCode.Proofs.Number.RoundTrip

/-!
# Literals of singles, rounded once

The digits of a single are found by rounding twice, to a double and then to a single.  A compiler
that reads the literal rounds its exact value once.  For all singles but one, and its negative, that
makes no difference (`float_literal_denotes_iff`).

Rounding twice goes wrong next to the middle between two singles only
(`Double.round?_eq_or_isMiddleFor`).  A decimal of nine digits is too close to its single to be there,
and those of at most eight digits are few enough to be settled one power of ten after the other
(`Middle.all_settled`).  What is left is `7.038531E-26`, which is written for `7.0385313e-26` and
denotes the single before it.
-/

namespace FieldCode

/-! ## Rounding once -/

/-- The single nearest to a rational, given by its sign and its nonnegative size. -/
def Double.nearestSingle (negative : Bool) (size : ℚ) : Double :=
  match Format.single.round? size with
  | some s => ofRat negative s.value
  | none => infinite negative

theorem Double.toSingle_finite (negative : Bool) (m : Format.double.Magnitude) :
    (finite negative m).toSingle = nearestSingle negative m.value :=
  rfl

/-- The single that a decimal literal denotes: its exact value, rounded once. -/
def readSingle? (literal : List Char) : Option Double :=
  let signRest := Numeral.sign literal
  (Numeral.readDecimal? (signRest.2.map Char.toLower)).map fun d =>
    Double.nearestSingle signRest.1 d.value

variable {m d : Format.double.Magnitude} {t : Format.single.Magnitude} {x : ℚ} {k : Int}

/-- A double that is narrowed to a number has the value of a single. -/
theorem Double.exists_round?_of_toSingle (h : (finite false d).toSingle = finite false m) :
    ∃ t, Format.single.round? d.value = some t ∧ m.value = t.value := by
  rw [toSingle_finite, nearestSingle] at h
  cases ht : Format.single.round? d.value with
  | none => simp [ht] at h
  | some t =>
    obtain ⟨m', hm'⟩ := exists_double_value t
    simp only [ht] at h
    rw [← hm', ofRat_value, finite.injEq] at h
    exact ⟨t, rfl, by rw [← h.2, hm']⟩

/-- A rational that is rounded to a number is rounded to the double with that size. -/
theorem Double.exists_round?_of_ofRat (h : (ofRat false x).toSingle = finite false m) :
    ∃ d, Format.double.round? x = some d ∧ (finite false d).toSingle = finite false m := by
  unfold ofRat at h
  cases hd : Format.double.round? x with
  | none => simp [hd, toSingle] at h
  | some d => exact ⟨d, rfl, by simpa [hd] using h⟩

theorem decade_single_bounds (h : t.significand ≠ 0) :
    -44 ≤ decade t.value ∧ decade t.value ≤ 39 := by
  obtain ⟨hlow, hhigh⟩ := decade_bounds (Format.Magnitude.value_pos h)
  obtain ⟨hbound, hmin, hmax, -⟩ := t.canonical
  have hone : (1 : ℚ) ≤ t.significand := by exact_mod_cast Nat.one_le_iff_ne_zero.mpr h
  have hsmall : (10 : ℚ) ^ (-45 : Int) < t.value := by
    calc (10 : ℚ) ^ (-45 : Int) < 1 * 2 ^ (-149 : Int) := by norm_num
      _ ≤ t.significand * 2 ^ t.exponent :=
        mul_le_mul hone (zpow_le_zpow_right₀ one_le_two hmin) (zpow_pos two_pos _).le
          (Nat.cast_nonneg _)
  have hlarge : t.value < 10 ^ (39 : Int) := by
    have hsig : (t.significand : ℚ) ≤ 2 ^ 24 := by exact_mod_cast hbound.le
    calc t.value ≤ 2 ^ 24 * 2 ^ (104 : Int) :=
          mul_le_mul hsig (zpow_le_zpow_right₀ one_le_two hmax) (zpow_pos two_pos _).le
            (by norm_num)
      _ < 10 ^ (39 : Int) := by norm_num
  have hmin' := (zpow_lt_zpow_iff_right₀ (by norm_num : (1 : ℚ) < 10)).mp (hsmall.trans hhigh)
  have hmax' := (zpow_lt_zpow_iff_right₀ (by norm_num : (1 : ℚ) < 10)).mp
    (lt_of_le_of_lt hlow hlarge)
  omega

/-! ## Reading in two steps -/

/-- The number `x` is read in two steps as the single `m`, by way of the middle `d` between two
neighbouring singles. -/
structure Double.IsReadByMiddle (x : ℚ) (m d : Format.double.Magnitude) (k : Int) : Prop where
  low : 2 ^ k ≤ x
  high : x < 2 ^ (k + 1)
  rounded : Format.double.round? x = some d
  narrowed : (Double.finite false d).toSingle = .finite false m
  middle : d.IsMiddleFor x k

/-- A number that is read in two steps as a single is read in one as that single, unless it is read
by way of the middle between two. -/
theorem Double.nearestSingle_or_isReadByMiddle (hx : 0 < x) (hm : m.significand ≠ 0)
    (h : (Double.ofRat false x).toSingle = .finite false m) :
    Double.nearestSingle false x = .finite false m ∨ ∃ d k, Double.IsReadByMiddle x m d k := by
  obtain ⟨d, hround, hd⟩ := Double.exists_round?_of_ofRat h
  obtain ⟨t, ht, hvalue⟩ := Double.exists_round?_of_toSingle hd
  have hpos := Format.Magnitude.value_pos hm
  have htpos := Format.Magnitude.significand_ne_zero (hvalue ▸ hpos)
  obtain ⟨k, hk⟩ : ∃ k, k = Int.log 2 x := ⟨_, rfl⟩
  have hlow : (2 : ℚ) ^ k ≤ x := (two_zpow_le_iff hx k).mpr hk.le
  have hhigh : x < 2 ^ (k + 1) := (lt_two_zpow_iff hx (k + 1)).mpr (by omega)
  have hkmin := Double.le_of_narrowed hlow hhigh hround ht htpos
  rcases Double.round?_eq_or_isMiddleFor (by omega) hlow hhigh hround with hsame | hmiddle
  · left
    rw [← hd, Double.toSingle_finite, Double.nearestSingle, Double.nearestSingle, hsame]
  · exact Or.inr ⟨d, k, hlow, hhigh, hround, hd, hmiddle⟩

theorem Double.IsReadByMiddle.half_unit_le (h : Double.IsReadByMiddle x m d k) :
    2 ^ (Format.single.unitAt k - 1) ≤ |m.value - d.value| := by
  obtain ⟨t, ht, hvalue⟩ := Double.exists_round?_of_toSingle h.narrowed
  rw [hvalue]
  exact h.middle.half_unit_le ht

theorem Double.not_isReadByMiddle_self : ¬ Double.IsReadByMiddle x m m k := by
  intro h
  have hfar := h.half_unit_le
  rw [sub_self, abs_zero] at hfar
  exact absurd hfar (not_le.mpr (zpow_pos two_pos _))

/-! ## Nothing is found next to the middle -/

/-- A decimal of nine digits is too close to its single to stand next to the middle. -/
theorem digits_le_of_isReadByMiddle {i : Nat} (hi : i < 9) (hm : 0 < m.value)
    (hx : x = (Decimal.nearest m.value (i + 1)).value) (h : Double.IsReadByMiddle x m d k) :
    i + 1 ≤ 8 := by
  by_contra hdigits
  obtain rfl : i = 8 := by omega
  -- the decimal is closer than a part in two hundred millions
  have hclose : |x - m.value| ≤ m.value / (2 * 10 ^ 8) := by
    rw [hx]
    exact Decimal.abs_value_nearest_nine_sub_le hm
  -- and the middle is farther than a part in one hundred millions
  have hfar := h.half_unit_le
  have hnear := h.middle.near
  have hhigh := h.high
  have hunit : (2 : ℚ) ^ (k - 24) ≤ 2 ^ (Format.single.unitAt k - 1) :=
    zpow_le_zpow_right₀ one_le_two (by rw [Format.unitAt_single]; omega)
  have htriangle := abs_sub_le m.value x d.value
  rw [abs_sub_comm m.value x] at htriangle
  have hlast : (2 : ℚ) ^ (k - 24) = 2 ^ 29 * 2 ^ (k - 53) := by
    rw [← zpow_natCast, ← zpow_add₀ two_ne_zero]
    congr 1
    push_cast
    ring
  have hupper : (2 : ℚ) ^ (k + 1) = 2 ^ 54 * 2 ^ (k - 53) := by
    rw [← zpow_natCast, ← zpow_add₀ two_ne_zero]
    congr 1
    push_cast
    ring
  have hbit : (0 : ℚ) < 2 ^ (k - 53) := zpow_pos two_pos _
  have hbelow := (abs_le.mp hclose).1
  rw [hupper] at hhigh
  rw [hlast] at hunit
  linarith

/-- Half the unit of the singles next to a number is among those that occur in its decade. -/
theorem halfUnit_mem {κ : Int} (hten : (10 : ℚ) ^ (κ + 7) ≤ x) (hten' : x ≤ 10 ^ (κ + 8))
    (hlow : (2 : ℚ) ^ k ≤ x) (hhigh : x < 2 ^ (k + 1)) :
    Format.single.unitAt k - 1 ∈ Middle.halfUnits κ := by
  have hpos : (0 : ℚ) < 10 ^ (κ + 7) := zpow_pos (by norm_num) _
  obtain ⟨l, hl⟩ : ∃ l, l = binade ((10 : ℚ) ^ (κ + 7)) := ⟨_, rfl⟩
  have hlog : l = Int.log 2 ((10 : ℚ) ^ (κ + 7)) := by rw [hl, binade_eq_log hpos]
  have hlle : (2 : ℚ) ^ l ≤ 10 ^ (κ + 7) := (two_zpow_le_iff hpos l).mpr hlog.le
  have hlt : (10 : ℚ) ^ (κ + 7) < 2 ^ (l + 1) := (lt_two_zpow_iff hpos (l + 1)).mpr (by omega)
  have hfirst : l < k + 1 :=
    (zpow_lt_zpow_iff_right₀ (one_lt_two (α := ℚ))).mp ((hlle.trans hten).trans_lt hhigh)
  have hlast : k < l + 5 := by
    refine (zpow_lt_zpow_iff_right₀ (one_lt_two (α := ℚ))).mp ?_
    calc (2 : ℚ) ^ k ≤ 10 ^ (κ + 8) := hlow.trans hten'
      _ = 10 * 10 ^ (κ + 7) := by
        rw [show κ + 8 = κ + 7 + 1 by ring, zpow_add_one₀ (by norm_num), mul_comm]
      _ < 16 * 2 ^ (l + 1) := mul_lt_mul'' (by norm_num) hlt (by norm_num) hpos.le
      _ = 2 ^ (4 : Int) * 2 ^ (l + 1) := by norm_num
      _ = 2 ^ (l + 5) := by
        rw [← zpow_add₀ two_ne_zero]
        congr 1
        ring
  refine List.mem_map.mpr ⟨(k - l).toNat, ?_, ?_⟩
  · rw [List.mem_range]
    omega
  · rw [← hl]
    congr 2
    omega

/-- Digits that are found for a single and read by way of the middle are misread. -/
theorem exists_isMisread {found : Decimal} (hfound : triedDecimal? m = some found)
    (hne : m ≠ misreadSingle) (h : Double.IsReadByMiddle found.value m d k) {κ : Int} {c : Nat}
    (hc : c ≤ 10 ^ 8) (hvalue : found.value = c * 10 ^ κ) :
    ∃ n, Middle.IsMisread κ (Format.single.unitAt k - 1) n c := by
  have hmiddle := h.middle
  obtain ⟨j, hj⟩ := hmiddle.middle
  obtain ⟨e, he⟩ : ∃ e, e = Format.single.unitAt k - 1 := ⟨_, rfl⟩
  have hunit : e = max (-149) (k - 23) - 1 := by rw [he, Format.unitAt_single]
  have hpow : (0 : ℚ) < 2 ^ e := zpow_pos two_pos e
  rw [← he] at hj ⊢
  have hjpos : 0 ≤ j := by
    have hdpos : (0 : ℚ) < (2 * j + 1) * 2 ^ e := by
      rw [← hj]
      exact (zpow_pos two_pos k).trans_le hmiddle.low
    have hodd : (0 : ℚ) < ((2 * j + 1 : ℤ) : ℚ) := by
      push_cast
      exact (mul_pos_iff_of_pos_right hpow).mp hdpos
    have hodd' : 0 < 2 * j + 1 := by exact_mod_cast hodd
    omega
  obtain ⟨n, rfl⟩ := Int.eq_ofNat_of_zero_le hjpos
  have hn : d.value = ((2 * n + 1 : Nat) : ℚ) * 2 ^ e := by
    rw [hj]
    push_cast
    rfl
  refine ⟨2 * n + 1, by omega, ?_, ?_, hc, Middle.gap_pos ?_, Middle.gap_mul_le ?_, ?_⟩
  · have hhigh : ((2 * n + 1 : Nat) : ℚ) * 2 ^ e ≤ 2 ^ 25 * 2 ^ e := by
      rw [← hn, ← zpow_natCast, ← zpow_add₀ two_ne_zero]
      exact hmiddle.high.trans (zpow_le_zpow_right₀ one_le_two (by push_cast; omega))
    exact_mod_cast le_of_mul_le_mul_right hhigh hpow
  · by_cases hleast : e = -150
    · exact Or.inl hleast
    · right
      have hlow : (2 : ℚ) ^ 24 * 2 ^ e ≤ ((2 * n + 1 : Nat) : ℚ) * 2 ^ e := by
        rw [← hn, ← zpow_natCast, ← zpow_add₀ two_ne_zero]
        refine le_trans (zpow_le_zpow_right₀ one_le_two ?_) hmiddle.low
        push_cast
        omega
      exact_mod_cast le_of_mul_le_mul_right hlow hpow
  · rw [← hvalue, ← hn]
    exact hmiddle.ne
  · rw [← hvalue, ← hn]
    exact hmiddle.near.trans (zpow_le_zpow_right₀ one_le_two (by omega))
  · unfold Middle.isTried
    rw [← hn, Double.ofRat_value, h.narrowed]
    simp [hne, hfound, hvalue]

/-- The digits that are found for a single round to it at once, unless it is the one that is
misread. -/
theorem nearestSingle_of_tried {found : Decimal} (hfound : triedDecimal? m = some found)
    (hm : m.significand ≠ 0) (hne : m ≠ misreadSingle) :
    Double.nearestSingle false found.value = .finite false m := by
  obtain ⟨i, hi, hnearest, hnarrow⟩ := exists_nearest_of_tried hfound
  have hpos := Format.Magnitude.value_pos hm
  obtain ⟨hten, hten'⟩ := Decimal.value_nearest_bounds hpos i
  rw [← hnearest] at hten hten'
  have htwice : (Double.ofRat false found.value).toSingle = .finite false m := by
    rw [← Decimal.toDouble_eq]
    exact eq_of_beq hnarrow
  rcases Double.nearestSingle_or_isReadByMiddle ((zpow_pos (by norm_num) _).trans_le hten) hm htwice
    with hsame | ⟨d, k, h⟩
  · exact hsame
  · exfalso
    have hdigits := digits_le_of_isReadByMiddle hi hpos (congrArg _ hnearest) h
    obtain ⟨c, hc, hceq⟩ := Decimal.exists_eight_digits hpos hdigits
    rw [← hnearest] at hceq
    obtain ⟨n, hmisread⟩ := exists_isMisread hfound hne h hc hceq
    -- the exponent and the unit are among those that were settled
    obtain ⟨t, -, hvalue⟩ := Double.exists_round?_of_toSingle h.narrowed
    obtain ⟨hdecade, hdecade'⟩ :=
      decade_single_bounds (Format.Magnitude.significand_ne_zero (hvalue ▸ hpos))
    rw [← hvalue] at hdecade hdecade'
    obtain ⟨a, ha⟩ : ∃ a : Nat, decade m.value - 8 = a - 52 :=
      ⟨(decade m.value + 44).toNat, by omega⟩
    have hunit := halfUnit_mem (κ := decade m.value - 8)
      (by rwa [show decade m.value - 8 + 7 = decade m.value - 1 by ring])
      (by rwa [show decade m.value - 8 + 8 = decade m.value by ring]) h.low h.high
    rw [ha] at hmisread hunit
    exact Middle.not_isMisread_of_settles
      (Middle.all_settled a (List.mem_range.mpr (by omega)) _ hunit) hmisread

/-- The digits of the double round to it at once, if it is a single: they are read as a single, not
as the middle between two. -/
theorem nearestSingle_shortestDouble (hm : m.significand ≠ 0)
    (hsingle : (Double.finite false m).toSingle = .finite false m) :
    Double.nearestSingle false (shortestDouble m).value = .finite false m := by
  have hread := ofRat_shortestDouble m
  have hnonneg : 0 ≤ (shortestDouble m).value :=
    mul_nonneg (Nat.cast_nonneg _) (zpow_pos (by norm_num) _).le
  have hpos : 0 < (shortestDouble m).value := by
    refine lt_of_le_of_ne hnonneg fun hzero => hm ?_
    rw [← hzero, Double.ofRat_zero, Double.zero, Double.finite.injEq] at hread
    rw [← hread.2]
    rfl
  rcases Double.nearestSingle_or_isReadByMiddle hpos hm (by rw [hread, hsingle])
    with hsame | ⟨d, k, h⟩
  · exact hsame
  · exfalso
    rw [Double.ofRat, h.rounded, Double.finite.injEq] at hread
    exact Double.not_isReadByMiddle_self (hread.2 ▸ h)

/-! ## The single that is misread -/

theorem triedDecimal?_misreadSingle : triedDecimal? misreadSingle = some ⟨7038531, -32⟩ := by
  decide +kernel

/-- What is found for it denotes the single before it. -/
theorem nearestSingle_misread : Double.nearestSingle false (Decimal.value ⟨7038531, -32⟩) =
    .finite false ⟨6131424981680128, -136, by decide⟩ := by
  decide +kernel

/-- The digits of a single denote it exactly if it is not the one that is misread. -/
theorem nearestSingle_shortestSingle_iff (hm : m.significand ≠ 0)
    (hsingle : (Double.finite false m).toSingle = .finite false m) :
    Double.nearestSingle false (shortestSingle m).value = .finite false m ↔ m ≠ misreadSingle := by
  constructor
  · rintro h rfl
    rw [shortestSingle_of_tried triedDecimal?_misreadSingle, Decimal.value_trimmed,
      nearestSingle_misread] at h
    revert h
    decide
  · intro hne
    cases hfound : triedDecimal? m with
    | none =>
      rw [shortestSingle_of_not_tried hfound]
      exact nearestSingle_shortestDouble hm hsingle
    | some found =>
      rw [shortestSingle_of_tried hfound, Decimal.value_trimmed]
      exact nearestSingle_of_tried hfound hm hne

/-! ## Literals -/

theorem Double.nearestSingle_eq_finite {n : Bool} (h : nearestSingle n x = finite n m)
    (negative : Bool) : nearestSingle negative x = finite negative m := by
  unfold nearestSingle at h ⊢
  cases ht : Format.single.round? x with
  | none => simp [ht] at h
  | some t =>
    rw [ht] at h
    exact ofRat_eq_finite h negative

theorem Double.nearestSingle_zero (negative : Bool) : nearestSingle negative 0 = zero negative := by
  have hzero : Format.Magnitude.value (Format.single.zero (by decide)) = 0 := by
    rw [Format.Magnitude.value]
    exact mul_eq_zero_of_left Nat.cast_zero _
  rw [nearestSingle, Format.round?_eq_zero (by decide) le_rfl (zpow_pos two_pos _)]
  show ofRat negative (Format.Magnitude.value _) = _
  rw [hzero, ofRat_zero]

theorem readSingle?_finiteLiteral (negative : Bool) (m : Format.double.Magnitude) :
    readSingle? (finiteLiteral true negative m) = some (Double.nearestSingle negative
      (if m.significand = 0 then 0 else (shortestSingle m).value)) := by
  obtain ⟨c, cs, d, htext, hc, hread, hvalue⟩ :=
    (Layout.literal (literalPrecision true)).exists_finiteText_eq shortestSingle negative m rfl
  rw [finiteLiteral]
  simp only [if_true]
  rw [htext, readSingle?, Numeral.sign_signed hc]
  dsimp only
  rw [hread, Option.map_some, hvalue]

/-- The literal of a single denotes it exactly if it is not the one that is misread. -/
theorem readSingle?_finiteLiteral_iff {negative : Bool}
    (h : (Double.finite negative m).toSingle = .finite negative m) :
    readSingle? (finiteLiteral true negative m) = some (.finite negative m) ↔
      m ≠ misreadSingle := by
  rw [readSingle?_finiteLiteral, Option.some.injEq]
  by_cases hzero : m.significand = 0
  · rw [if_pos hzero, Double.nearestSingle_zero, ← Double.finite_eq_zero hzero]
    refine ⟨fun _ => ?_, fun _ => rfl⟩
    rintro rfl
    exact absurd hzero (by decide)
  · rw [if_neg hzero,
      ← nearestSingle_shortestSingle_iff hzero (Double.toSingle_eq_finite h false)]
    exact ⟨fun h => Double.nearestSingle_eq_finite h false,
      fun h => Double.nearestSingle_eq_finite h negative⟩

/-- **The literal of a single denotes it, with one exception.**  A default text of the 32-bit kind is
read as a double.  If that is narrowed to a number, its literal without the suffix is a decimal
numeral, and the exact value of the numeral, rounded once, is that number, unless it is the one that
is misread, or its negative. -/
theorem float_literal_denotes_iff (s : Suffixes) {text : Text} {e : Option EnumType} {v : Value}
    (hread : Kind.float.readDefault text e = .ok v) :
    ∃ x, v = .double x ∧ ∀ negative m, x.toSingle = .finite negative m →
      ∃ literal suffix, s.suffix? (.known .float) = some suffix ∧
        s.literal (.known .float) (.double x) = .ok (Text.ofChars literal ++ suffix) ∧
          (readSingle? literal = some (.finite negative m) ↔ m ≠ misreadSingle) := by
  rw [Kind.readDefault_numeric rfl] at hread
  obtain ⟨x, -, rfl⟩ := Kind.readNumber_floating rfl hread
  refine ⟨x, rfl, fun negative m hm => ?_⟩
  obtain ⟨suffix, hs⟩ := s.exists_suffix? (k := .float) rfl
  have hnarrow : (Double.finite negative m).toSingle = .finite negative m := by
    rw [← hm, Double.toSingle_toSingle]
  refine ⟨finiteLiteral true negative m, suffix, hs, ?_, readSingle?_finiteLiteral_iff hnarrow⟩
  rw [Suffixes.literal_double_of_kept (k := .float) rfl (congrArg Number.double hm)]
  exact Suffixes.append_eq_ok hs _

/-- One tenth below zero has a literal that denotes the single nearest to it. -/
theorem tenth_denotes : ∃ x literal, Kind.float.readDefault "-0.1" none = .ok (.double x) ∧
    Suffixes.standard.literal (.known .float) (.double x) = .ok (Text.ofChars literal ++ "F") ∧
      readSingle? literal = some x.toSingle := by
  have hread : Kind.float.readDefault "-0.1" none =
      .ok (.double (.finite true ⟨7205759403792794, -56, by decide⟩)) := by decide +kernel
  have hsingle : (Double.finite true ⟨7205759403792794, -56, by decide⟩).toSingle =
      .finite true ⟨7205759511166976, -56, by decide⟩ := by decide +kernel
  obtain ⟨x, hx, hall⟩ := float_literal_denotes_iff .standard hread
  obtain rfl := Value.double.inj hx
  obtain ⟨literal, suffix, hs, hliteral, hdenotes⟩ := hall _ _ hsingle
  have hsuffix : Suffixes.standard.suffix? (.known .float) = some "F" := rfl
  obtain rfl : suffix = "F" := Option.some.inj (hs.symm.trans hsuffix)
  exact ⟨_, literal, hread, hliteral, by rw [hsingle]; exact hdenotes.mpr (by decide)⟩

/-- The literal that is written for the exception denotes the single before it. -/
theorem misread_literal : ∃ x, Kind.float.readDefault "7.0385313e-26" none = .ok (.double x) ∧
    x.toSingle = .finite false misreadSingle ∧
      Suffixes.standard.literal (.known .float) (.double x) = .ok "7.038531E-26F" ∧
        readSingle? "7.038531E-26".toList =
          some (.finite false ⟨6131424981680128, -136, by decide⟩) ∧
          readSingle? "7.038531E-26".toList ≠ some x.toSingle := by
  refine ⟨.finite false ⟨6131425511452442, -136, by decide⟩, ?_⟩
  decide +kernel

end FieldCode
