import FieldCode.Proofs.Number.Digits
import Mathlib.Algebra.Order.Field.Rat
import Mathlib.Data.Rat.Cast.CharZero
import Mathlib.Tactic.FieldSimp
import Mathlib.Tactic.NormNum
import Mathlib.Tactic.Positivity
import Mathlib.Tactic.Ring

/-!
# What is laid out can be read

A layout puts a point, zeros and an exponent around the digits of a number, in one of four ways.
Each way is read back as a decimal of the same value, though not always as the same decimal: the
zeros that fill up a whole number come back as digits.  `readDecimal?_place` says this for every
layout whose exponents are opened by a small letter, and `Layout.map_toLower_place` makes that of
any layout.
-/

namespace FieldCode

/-! ## Reading in parts -/

namespace Numeral

theorem splitDigits_run {ds rest : List Char} (hds : ∀ d ∈ ds, d.isDigit = true)
    (hrest : ∀ c ∈ rest.head?, c.isDigit = false) : splitDigits (ds ++ rest) = (ds, rest) := by
  have hstop : rest.takeWhile Char.isDigit = [] ∧ rest.dropWhile Char.isDigit = rest := by
    cases rest with
    | nil => exact ⟨rfl, rfl⟩
    | cons c cs =>
      have hc := hrest c rfl
      exact ⟨List.takeWhile_cons_of_neg (by simp [hc]), List.dropWhile_cons_of_neg (by simp [hc])⟩
  rw [splitDigits, List.takeWhile_append_of_pos hds, List.dropWhile_append_of_pos hds, hstop.1,
    hstop.2, List.append_nil]

theorem readDecimal?_whole {ds rest : List Char} (hds : ∀ d ∈ ds, d.isDigit = true) (hne : ds ≠ [])
    (hrest : ∀ c ∈ rest.head?, c.isDigit = false ∧ c ≠ '.') :
    readDecimal? (ds ++ rest) = (readExponent? rest).map fun e => ⟨ofAscii ds, e⟩ := by
  have hsplit := splitDigits_run hds fun c hc => (hrest c hc).1
  simp only [readDecimal?, hsplit]
  split
  · exact absurd rfl (hrest '.' rfl).2
  · simp [hne]

/-- Digits around a point count those behind it against the exponent. -/
theorem readDecimal?_point {ds es rest : List Char} (hds : ∀ d ∈ ds, d.isDigit = true)
    (hes : ∀ d ∈ es, d.isDigit = true) (hne : ds ≠ [])
    (hrest : ∀ c ∈ rest.head?, c.isDigit = false) :
    readDecimal? (ds ++ '.' :: (es ++ rest)) =
      (readExponent? rest).map fun e => ⟨ofAscii (ds ++ es), e - es.length⟩ := by
  have hsplit : splitDigits (ds ++ '.' :: (es ++ rest)) = (ds, '.' :: (es ++ rest)) :=
    splitDigits_run hds fun c hc => by rw [← Option.some.inj hc]; rfl
  simp only [readDecimal?, hsplit, splitDigits_run hes hrest]
  exact if_neg fun h => hne (List.append_eq_nil_iff.mp h).1

end Numeral

namespace Layout

variable {l : Layout}

/-! ## Layouts -/

theorem readExponent?_exponentText (hmark : l.mark = 'e') (power : Int) :
    Numeral.readExponent? (l.exponentText power) = some power := by
  let ds :=
    List.replicate (2 - (Nat.toDigits 10 power.natAbs).length) '0' ++ Nat.toDigits 10 power.natAbs
  have hne : ds ≠ [] := fun h => Nat.toDigits_ne_nil (List.append_eq_nil_iff.mp h).2
  have hdigits : ds.all Char.isDigit = true := by
    rw [List.all_append, List.all_replicate, Bool.and_eq_true]
    exact ⟨by split <;> rfl, List.all_eq_true.mpr (isDigit_toDigits _)⟩
  have hvalue : Numeral.ofAscii ds = power.natAbs := by
    rw [Numeral.ofAscii_append, Numeral.ofAscii_zeros, Numeral.ofAscii_toDigits, Nat.zero_mul,
      Nat.zero_add]
  have hread : ∀ negative, Numeral.readExponent? ('e' :: (if negative then '-' else '+') :: ds) =
      some (Numeral.signed negative power.natAbs) := by
    intro negative
    cases negative <;> simp [Numeral.readExponent?, Numeral.sign, hne, hdigits, hvalue]
  have htext : l.exponentText power = 'e' :: (if decide (power < 0) then '-' else '+') :: ds := by
    rw [exponentText, hmark]
    by_cases hneg : power < 0
    · simp [hneg, Int.not_le.mpr hneg, ds]
    · simp [hneg, Int.not_lt.mp hneg, ds]
  rw [htext, hread, Numeral.signed]
  by_cases hneg : power < 0
  · rw [if_pos (decide_eq_true hneg), Option.some.injEq]
    omega
  · rw [if_neg (by simpa using hneg), Option.some.injEq]
    omega

section Ways

variable {ds : List Char}

theorem isDigit_zeros (k : Nat) : ∀ d ∈ List.replicate k '0', d.isDigit = true := fun d hd => by
  rw [(List.mem_replicate.mp hd).2]
  rfl

theorem notMem_head?_nil {p : Char → Prop} : ∀ c ∈ ([] : List Char).head?, p c :=
  fun _ h => nomatch h

theorem readDecimal?_exponent (hmark : l.mark = 'e') (hds : ∀ d ∈ ds, d.isDigit = true)
    (hne : ds ≠ [])
    (scale : Int) :
    Numeral.readDecimal? (ds.take 1 ++ (if ds.drop 1 = [] then [] else '.' :: ds.drop 1) ++
      l.exponentText (scale - 1)) = some ⟨Numeral.ofAscii ds, scale - ds.length⟩ := by
  have hexponent : ∀ c ∈ (l.exponentText (scale - 1)).head?, c.isDigit = false ∧ c ≠ '.' := by
    intro c hc
    have hhead : (l.exponentText (scale - 1)).head? = some l.mark := rfl
    rw [hhead, hmark, Option.mem_def, Option.some.injEq] at hc
    rw [← hc]
    decide
  have hpower := readExponent?_exponentText hmark (scale - 1)
  obtain ⟨d, rest, rfl⟩ := List.exists_cons_of_ne_nil hne
  have hd : ∀ d' ∈ [d], d'.isDigit = true := fun d' hd' => by
    rw [List.mem_singleton.mp hd']
    exact hds d (List.mem_cons_self ..)
  have hrest : ∀ d' ∈ rest, d'.isDigit = true := fun d' hd' => hds d' (List.mem_cons_of_mem d hd')
  have htail : (d :: rest).drop 1 = rest := rfl
  rw [htail]
  by_cases hone : rest = []
  · subst hone
    have hread := Numeral.readDecimal?_whole hd (by simp) hexponent
    rw [hpower] at hread
    exact hread
  · have hread := Numeral.readDecimal?_point hd hrest (by simp) fun c hc => (hexponent c hc).1
    rw [hpower, Option.map_some] at hread
    rw [if_neg hone, List.append_assoc]
    refine hread.trans ?_
    rw [List.length_cons, List.singleton_append, Option.some.injEq, Decimal.mk.injEq]
    exact ⟨rfl, by omega⟩

theorem readDecimal?_belowOne (hds : ∀ d ∈ ds, d.isDigit = true) (k : Nat) :
    Numeral.readDecimal? ('0' :: '.' :: List.replicate k '0' ++ ds) =
      some ⟨Numeral.ofAscii ds, -(k : Int) - ds.length⟩ := by
  have hfraction : ∀ d ∈ List.replicate k '0' ++ ds, d.isDigit = true := fun d hd =>
    (List.mem_append.mp hd).elim (isDigit_zeros k d) (hds d)
  have hvalue : Numeral.ofAscii (['0'] ++ (List.replicate k '0' ++ ds)) = Numeral.ofAscii ds := by
    rw [Numeral.ofAscii_append, Numeral.ofAscii_append, Numeral.ofAscii_zeros]
    show 0 * _ + (0 * _ + _) = _
    omega
  have hread := Numeral.readDecimal?_point (isDigit_zeros 1) hfraction (by simp) notMem_head?_nil
  rw [List.append_nil] at hread
  refine hread.trans ?_
  rw [Numeral.readExponent?, Option.map_some, List.replicate_one, hvalue, List.length_append,
    List.length_replicate, Option.some.injEq, Decimal.mk.injEq]
  exact ⟨rfl, by omega⟩

theorem readDecimal?_filled (hds : ∀ d ∈ ds, d.isDigit = true) (hne : ds ≠ []) (k : Nat)
    (marked : Bool) :
    ∃ d, Numeral.readDecimal? (ds ++ List.replicate k '0' ++ (if marked then ['.', '0'] else [])) =
      some d ∧ d.value = (Numeral.ofAscii ds : ℚ) * 10 ^ k := by
  have hfilled : ∀ d ∈ ds ++ List.replicate k '0', d.isDigit = true :=
    fun d hd => (List.mem_append.mp hd).elim (hds d) (isDigit_zeros k d)
  have hfilledne : ds ++ List.replicate k '0' ≠ [] := fun h => hne (List.append_eq_nil_iff.mp h).1
  have hvalue :
      (Numeral.ofAscii (ds ++ List.replicate k '0') : ℚ) = Numeral.ofAscii ds * 10 ^ k := by
    rw [Numeral.ofAscii_append, Numeral.ofAscii_zeros, List.length_replicate]
    push_cast
    ring
  cases marked with
  | true =>
    have hread := Numeral.readDecimal?_point hfilled (isDigit_zeros 1) hfilledne notMem_head?_nil
    rw [Numeral.readExponent?, Option.map_some] at hread
    refine ⟨_, hread, ?_⟩
    rw [Decimal.value, List.replicate_one, Numeral.ofAscii_append, ← hvalue,
      show Numeral.ofAscii ['0'] = 0 from rfl]
    push_cast
    rw [List.length_singleton, Nat.cast_one, zero_sub, zpow_neg_one]
    ring
  | false =>
    refine ⟨⟨Numeral.ofAscii (ds ++ List.replicate k '0'), 0⟩,
      Numeral.readDecimal?_whole hfilled hfilledne notMem_head?_nil, ?_⟩
    rw [Decimal.value, zpow_zero, mul_one, hvalue]

theorem readDecimal?_split (hds : ∀ d ∈ ds, d.isDigit = true) (hne : ds ≠ []) {n : Nat} (hn : 0 < n)
    (hle : n ≤ ds.length) : Numeral.readDecimal? (ds.take n ++ '.' :: ds.drop n) =
      some ⟨Numeral.ofAscii ds, (n : Int) - ds.length⟩ := by
  have htake : ∀ d ∈ ds.take n, d.isDigit = true := fun d hd => hds d (List.mem_of_mem_take hd)
  have hdrop : ∀ d ∈ ds.drop n, d.isDigit = true := fun d hd => hds d (List.mem_of_mem_drop hd)
  have htakene : ds.take n ≠ [] := by
    rw [Ne, List.take_eq_nil_iff]
    rintro (h | h)
    · omega
    · exact hne h
  have hread := Numeral.readDecimal?_point htake hdrop htakene notMem_head?_nil
  rw [List.append_nil, List.take_append_drop] at hread
  refine hread.trans ?_
  rw [Numeral.readExponent?, Option.map_some, List.length_drop, Option.some.injEq, Decimal.mk.injEq]
  exact ⟨rfl, by omega⟩

/-- Digits with the point `scale` places after the first are read as the number that they write
there. -/
theorem readDecimal?_place (hmark : l.mark = 'e') (hds : ∀ d ∈ ds, d.isDigit = true) (hne : ds ≠ [])
    (scale : Int) : ∃ d, Numeral.readDecimal? (l.place ds scale) = some d ∧
      d.value = (Numeral.ofAscii ds : ℚ) * 10 ^ (scale - ds.length) := by
  unfold place
  by_cases hwide : (l.widest ds.length : Int) < scale ∨ scale < -3
  · rw [if_pos hwide]
    exact ⟨_, readDecimal?_exponent hmark hds hne scale, rfl⟩
  rw [if_neg hwide]
  by_cases hsmall : scale ≤ 0
  · rw [if_pos hsmall]
    refine ⟨_, readDecimal?_belowOne hds _, ?_⟩
    rw [Decimal.value]
    congr 2
    dsimp only
    omega
  rw [if_neg hsmall]
  by_cases hwhole : (ds.length : Int) ≤ scale
  · rw [if_pos hwhole]
    obtain ⟨d, hread, hvalue⟩ := readDecimal?_filled hds hne (scale.toNat - ds.length) l.marksWhole
    have hpower : scale - ds.length = ((scale.toNat - ds.length : Nat) : Int) := by omega
    exact ⟨d, hread, by rw [hvalue, hpower, zpow_natCast]⟩
  · rw [if_neg hwhole]
    refine ⟨_, readDecimal?_split hds hne (n := scale.toNat) (by omega) (by omega), ?_⟩
    rw [Decimal.value]
    congr 2
    dsimp only
    omega

end Ways

/-! ## Lower-casing -/

theorem toLower_of_isDigit {c : Char} (h : c.isDigit = true) : c.toLower = c := by
  have hchar : ∀ c ∈ numberChars, c.isDigit = true → c.toLower = c :=
    forall_mem_numberChars (by decide)
  exact hchar c (mem_numberChars_of_isDigit h) h

theorem map_toLower_of_isDigit {ds : List Char} (h : ∀ d ∈ ds, d.isDigit = true) :
    ds.map Char.toLower = ds :=
  (List.map_congr_left fun d hd => toLower_of_isDigit (h d hd)).trans (List.map_id ds)

theorem map_toLower_place {ds : List Char} (hds : ∀ d ∈ ds, d.isDigit = true) (scale : Int) :
    (l.place ds scale).map Char.toLower =
      ({ l with mark := l.mark.toLower } : Layout).place ds scale := by
  have htake : ∀ n, (ds.take n).map Char.toLower = ds.take n := fun n =>
    map_toLower_of_isDigit fun d hd => hds d (List.mem_of_mem_take hd)
  have hdrop : ∀ n, (ds.drop n).map Char.toLower = ds.drop n := fun n =>
    map_toLower_of_isDigit fun d hd => hds d (List.mem_of_mem_drop hd)
  have hzeros : ∀ k, (List.replicate k '0').map Char.toLower = List.replicate k '0' := fun k =>
    map_toLower_of_isDigit (isDigit_zeros k)
  have hexponent : ∀ power, (l.exponentText power).map Char.toLower =
      ({ l with mark := l.mark.toLower } : Layout).exponentText power := by
    intro power
    have hpower := map_toLower_of_isDigit (isDigit_toDigits power.natAbs)
    have hsign : (if 0 ≤ power then '+' else '-').toLower = if 0 ≤ power then '+' else '-' := by
      split <;> rfl
    simp only [exponentText, List.map_append, List.map_cons, hzeros, hpower, hsign]
  unfold place
  simp only [widest]
  split_ifs <;> simp only [List.map_append, List.map_cons, List.map_nil, htake, hdrop, hzeros,
    hexponent, map_toLower_of_isDigit hds] <;> rfl

/-! ## The characters -/

theorem exists_place_eq_cons {ds : List Char} (hds : ∀ d ∈ ds, d.isDigit = true) (hne : ds ≠ [])
    (scale : Int) : ∃ d rest, d.isDigit = true ∧ l.place ds scale = d :: rest := by
  obtain ⟨d, ds, rfl⟩ := List.exists_cons_of_ne_nil hne
  have hd := hds d (List.mem_cons_self ..)
  unfold place
  by_cases hwide : (l.widest (d :: ds).length : Int) < scale ∨ scale < -3
  · rw [if_pos hwide]
    exact ⟨d, _, hd, rfl⟩
  rw [if_neg hwide]
  by_cases hsmall : scale ≤ 0
  · rw [if_pos hsmall]
    exact ⟨'0', _, rfl, rfl⟩
  rw [if_neg hsmall]
  by_cases hwhole : ((d :: ds).length : Int) ≤ scale
  · rw [if_pos hwhole]
    exact ⟨d, _, hd, rfl⟩
  · obtain ⟨n, hn⟩ : ∃ n, scale.toNat = n + 1 := ⟨scale.toNat - 1, by omega⟩
    rw [if_neg hwhole, hn, List.take_succ_cons]
    exact ⟨d, _, hd, rfl⟩

theorem place_subset (hmark : l.mark ∈ numberChars) {ds : List Char} (hds : ds ⊆ numberChars)
    (scale : Int) : l.place ds scale ⊆ numberChars := by
  have htake : ∀ n, ds.take n ⊆ numberChars :=
    fun n => List.Subset.trans (List.take_subset n ds) hds
  have hdrop : ∀ n, ds.drop n ⊆ numberChars :=
    fun n => List.Subset.trans (List.drop_subset n ds) hds
  have hzeros : ∀ k, List.replicate k '0' ⊆ numberChars := fun k =>
    subset_numberChars_of_isDigit (isDigit_zeros k)
  have hexponent : ∀ power, l.exponentText power ⊆ numberChars := by
    intro power
    have hsign : (if 0 ≤ power then '+' else '-') ∈ numberChars := by split <;> decide
    rw [exponentText, List.append_subset, List.cons_subset, List.cons_subset]
    exact ⟨⟨hmark, hsign, hzeros _⟩, toDigits_subset _⟩
  have hpoint : '.' ∈ numberChars := by decide
  have hzero : '0' ∈ numberChars := by decide
  unfold place
  dsimp only
  split_ifs <;> simp only [List.append_subset, List.cons_subset, List.nil_subset, htake, hdrop,
    hzeros, hexponent, hpoint, hzero, hds, and_self]

/-- The text of a finite number consists of characters of numbers. -/
theorem finiteText_subset (hmark : l.mark ∈ numberChars)
    (shortest : Format.double.Magnitude → Decimal) (negative : Bool) (m : Format.double.Magnitude) :
    l.finiteText shortest negative m ⊆ numberChars := by
  have hsign : (if negative then ['-'] else []) ⊆ numberChars := by cases negative <;> decide
  have hzero : l.zeroText ⊆ numberChars := by rw [zeroText]; split <;> decide
  unfold finiteText
  dsimp only
  split
  · exact List.append_subset.mpr ⟨hsign, hzero⟩
  · exact List.append_subset.mpr ⟨hsign, place_subset hmark (toDigits_subset _) _⟩

theorem readDecimal?_zeroText (l : Layout) :
    ∃ rest d, l.zeroText = '0' :: rest ∧
      Numeral.readDecimal? l.zeroText = some d ∧ d.value = 0 := by
  have hvalue : ∀ e, Decimal.value ⟨0, e⟩ = 0 := fun e => by
    rw [Decimal.value, Nat.cast_zero, zero_mul]
  unfold zeroText
  split
  · exact ⟨['.', '0'], ⟨0, -1⟩, rfl, rfl, hvalue (-1)⟩
  · exact ⟨[], ⟨0, 0⟩, rfl, rfl, hvalue 0⟩

/-- The text of a finite number is its sign and what is read as its size, a digit first. -/
theorem exists_finiteText_eq (l : Layout) (shortest : Format.double.Magnitude → Decimal)
    (negative : Bool) (m : Format.double.Magnitude) (hmark : l.mark.toLower = 'e') : ∃ c cs d,
    l.finiteText shortest negative m = (if negative then ['-'] else []) ++ c :: cs ∧
      c.isDigit = true ∧ Numeral.readDecimal? ((c :: cs).map Char.toLower) = some d ∧
        d.value = if m.significand = 0 then 0 else (shortest m).value := by
  unfold finiteText
  dsimp only
  by_cases hm : m.significand = 0
  · obtain ⟨rest, d, hzero, hread, hvalue⟩ := l.readDecimal?_zeroText
    have hlower : ('0' :: rest).map Char.toLower = '0' :: rest := by
      rw [← hzero, zeroText]
      split <;> rfl
    rw [if_pos hm, if_pos hm, hzero]
    exact ⟨'0', rest, d, rfl, rfl, by rw [hlower, ← hzero, hread], hvalue⟩
  · have hdigits := isDigit_toDigits (shortest m).significand
    obtain ⟨c, cs, hc, hplace⟩ :=
      l.exists_place_eq_cons hdigits Nat.toDigits_ne_nil (shortest m).scale
    obtain ⟨d, hread, hvalue⟩ := readDecimal?_place (l := { l with mark := l.mark.toLower }) hmark
      hdigits Nat.toDigits_ne_nil (shortest m).scale
    rw [if_neg hm, if_neg hm]
    refine ⟨c, cs, d, congrArg _ hplace, hc, ?_, ?_⟩
    · rw [← hplace, map_toLower_place hdigits, hread]
    · rw [hvalue, Numeral.ofAscii_toDigits, Decimal.value, Decimal.scale, Decimal.digits,
        add_sub_cancel_left]

end Layout

end FieldCode
