import FieldCode.Number.Numeral
import Mathlib.Algebra.Group.Nat.Defs

/-!
# Digits of a base

The digits of a base are figures, and beyond nine letters in either case; a character stands for its
place among them (`Base.digit?`).  Characters that are all digits write a number in positional
notation (`Base.number?`).  Neither knows how numerals are read.

* `Base.digit?_eq`: a reader of numerals takes the same characters for the same digits.
* `Base.number?_eq`: characters write a number exactly if such a reader finds digits up to their
  end, and the number is the one that it makes of them.
-/

namespace FieldCode

namespace Base

/-- The digits of all bases, with small letters. -/
def smallDigits : List Char :=
  ['0', '1', '2', '3', '4', '5', '6', '7', '8', '9', 'a', 'b', 'c', 'd', 'e', 'f']

/-- The digits of all bases, with capital letters. -/
def capitalDigits : List Char :=
  ['0', '1', '2', '3', '4', '5', '6', '7', '8', '9', 'A', 'B', 'C', 'D', 'E', 'F']

/-- What a character stands for as a digit of the base: its place among the digits. -/
def digit? (b : Base) (c : Char) : Option Nat :=
  ((smallDigits.take b.size).idxOf? c).or ((capitalDigits.take b.size).idxOf? c)

/-- The character is a digit of the base. -/
def isDigit (b : Base) (c : Char) : Bool :=
  (b.digit? c).isSome

/-- The number that digits of the base write, the most significant one first; none if a character is
no digit. -/
def number? (b : Base) : List Char → Option Nat
  | [] => some 0
  | c :: cs => (b.digit? c).bind fun d => (b.number? cs).map (d * b.size ^ cs.length + ·)

variable {b : Base} {c : Char} {cs : List Char} {d n : Nat}

/-! ## Single digits -/

theorem mem_of_digit?_eq_some (h : b.digit? c = some d) : c ∈ smallDigits ++ capitalDigits := by
  have hmem : ∀ {digits : List Char}, (digits.take b.size).idxOf? c = some d → c ∈ digits := by
    intro digits hd
    refine List.mem_of_mem_take (i := b.size) (List.isSome_idxOf?.mp ?_)
    rw [hd]
    rfl
  rw [List.mem_append]
  exact (Option.or_eq_some_iff.mp h).imp hmem fun h => hmem h.2

/-- What holds of the digits of all bases is found by trying them. -/
theorem forall_of_digit? {P : Char → Prop} [DecidablePred P]
    (h : (smallDigits ++ capitalDigits).all (fun c => decide (P c)) = true)
    (hc : b.digit? c = some d) : P c :=
  of_decide_eq_true (List.all_eq_true.mp h c (mem_of_digit?_eq_some hc))

theorem digit?_eq_none (h : 128 ≤ c.toNat) : b.digit? c = none := by
  rw [Option.eq_none_iff_forall_ne_some]
  intro d hd
  have hascii : c.toNat < 128 := forall_of_digit? (P := fun c => c.toNat < 128) (by decide) hd
  omega

/-- A reader of numerals takes the same characters for the same digits. -/
theorem digit?_eq (b : Base) (c : Char) : b.digit? c = Text.digitIn? b.size c := by
  by_cases hascii : c.toNat < 128
  · have htable : ∀ n < 128, b.digit? (Char.ofNat n) = Text.digitIn? b.size (Char.ofNat n) := by
      cases b <;> decide +kernel
    rw [← Char.ofNat_toNat c]
    exact htable _ hascii
  · have hclass : ∀ low high : UInt32, high.toNat < 128 →
        decide (low ≤ c.val ∧ c.val ≤ high) = false := by
      intro low high hhigh
      have hcode : c.toNat = c.val.toNat := rfl
      rw [decide_eq_false_iff_not, UInt32.le_iff_toNat_le, UInt32.le_iff_toNat_le]
      omega
    have hdigit : c.isDigit = false :=
      (Bool.decide_and ..).symm.trans (hclass '0'.val '9'.val (by decide))
    have hlower : c.isLower = false :=
      (Bool.decide_and ..).symm.trans (hclass 'a'.val 'z'.val (by decide))
    have hupper : c.isUpper = false := hclass 'A'.val 'Z'.val (by decide)
    rw [digit?_eq_none (by omega), Text.digitIn?, Text.asciiDigit?, hdigit, hlower, hupper]
    rfl

/-! ## Numbers -/

/-- The first digit counts as often as the power of the base that stands at its place. -/
theorem number?_cons_eq_some_iff : b.number? (c :: cs) = some n ↔
    ∃ d m, b.digit? c = some d ∧ b.number? cs = some m ∧ d * b.size ^ cs.length + m = n := by
  simp only [number?, Option.bind_eq_some_iff, Option.map_eq_some_iff]
  exact ⟨fun ⟨d, hd, m, hm, hn⟩ => ⟨d, m, hd, hm, hn⟩, fun ⟨d, m, hd, hm, hn⟩ => ⟨d, hd, m, hm, hn⟩⟩

theorem number?_zero_cons (b : Base) (cs : List Char) : b.number? ('0' :: cs) = b.number? cs := by
  have hzero : b.digit? '0' = some 0 := by cases b <;> rfl
  rw [number?, hzero, Option.bind_some]
  simp only [Nat.zero_mul, Nat.zero_add, Option.map_id']

theorem isDigit_of_number? (h : b.number? cs = some n) : ∀ c ∈ cs, b.isDigit c = true := by
  induction cs generalizing n with
  | nil => exact fun c hc => nomatch hc
  | cons c cs ih =>
    obtain ⟨d, m, hd, hm, -⟩ := number?_cons_eq_some_iff.mp h
    rw [List.forall_mem_cons, isDigit, hd]
    exact ⟨rfl, ih hm⟩

theorem eq_of_digit?_eq_zero (h : b.digit? c = some 0) : c = '0' := by
  have hzero : ∀ b : Base, (smallDigits ++ capitalDigits).all
      (fun c => decide (b.digit? c = some 0 → c = '0')) = true := by
    intro b
    cases b <;> decide
  exact forall_of_digit? (hzero b) h h

/-- A number whose first digit is not zero reaches the power of the base at the place of that digit.
-/
theorem pow_le_of_number? (h : b.number? (c :: cs) = some n) (hc : c ≠ '0') :
    b.size ^ cs.length ≤ n := by
  obtain ⟨d, m, hd, -, rfl⟩ := number?_cons_eq_some_iff.mp h
  have hpos : 1 ≤ d :=
    Nat.one_le_iff_ne_zero.mpr fun hzero => hc (eq_of_digit?_eq_zero (hzero ▸ hd))
  calc b.size ^ cs.length = 1 * b.size ^ cs.length := (Nat.one_mul _).symm
    _ ≤ d * b.size ^ cs.length := Nat.mul_le_mul_right _ hpos
    _ ≤ d * b.size ^ cs.length + m := Nat.le_add_right _ _

/-! ## Octal digits among the decimal ones -/

theorem digit?_octal_iff : octal.digit? c = some d ↔ decimal.digit? c = some d ∧ d < 8 := by
  constructor
  · intro h
    exact forall_of_digit? (P := fun c => ∀ d ∈ octal.digit? c, decimal.digit? c = some d ∧ d < 8)
      (by decide) h d h
  · rintro ⟨h, hlt⟩
    exact forall_of_digit? (P := fun c => ∀ d ∈ decimal.digit? c, d < 8 → octal.digit? c = some d)
      (by decide) h d h hlt

/-- In base eight digits write less than in base ten, unless at most the last of them counts. -/
theorem number?_octal_le {m : Nat} (hoctal : octal.number? cs = some m)
    (hdecimal : decimal.number? cs = some n) : m ≤ n ∧ (m = n → n < 8) := by
  induction cs generalizing m n with
  | nil =>
    obtain rfl := Option.some.inj hoctal
    obtain rfl := Option.some.inj hdecimal
    exact ⟨Nat.le_refl 0, fun _ => by decide⟩
  | cons c cs ih =>
    obtain ⟨d, m', hd, hm', rfl⟩ := number?_cons_eq_some_iff.mp hoctal
    obtain ⟨d', n', hd', hn', rfl⟩ := number?_cons_eq_some_iff.mp hdecimal
    obtain ⟨hsame, hlt⟩ := digit?_octal_iff.mp hd
    obtain rfl : d = d' := Option.some.inj (hsame.symm.trans hd')
    obtain ⟨hle, hlast⟩ := ih hm' hn'
    have hmul : d * 8 ^ cs.length ≤ d * 10 ^ cs.length :=
      Nat.mul_le_mul_left d (Nat.pow_le_pow_left (by decide) _)
    refine ⟨Nat.add_le_add hmul hle, fun heq => ?_⟩
    change d * 8 ^ cs.length + m' = d * 10 ^ cs.length + n' at heq
    have hrest := hlast (by omega)
    change d * 10 ^ cs.length + n' < 8
    cases cs with
    | nil =>
      obtain rfl := Option.some.inj hn'
      rwa [List.length_nil, Nat.pow_zero, Nat.mul_one]
    | cons c' cs =>
      have hpow : 8 ^ (c' :: cs).length < 10 ^ (c' :: cs).length :=
        Nat.pow_lt_pow_left (by decide) (by simp)
      have hzero : d = 0 := Nat.eq_zero_of_not_pos fun hpos =>
        Nat.ne_of_lt hpow (Nat.eq_of_mul_eq_mul_left hpos (by omega))
      rwa [hzero, Nat.zero_mul, Nat.zero_add]

/-- Digits that write a number below eight in base ten write the same in base eight. -/
theorem number?_octal_of_lt (h : decimal.number? cs = some n) (hn : n < 8) :
    octal.number? cs = some n := by
  induction cs generalizing n with
  | nil => exact h
  | cons c cs ih =>
    obtain ⟨d, m, hd, hm, rfl⟩ := number?_cons_eq_some_iff.mp h
    change d * 10 ^ cs.length + m < 8 at hn
    have hsame : d * 8 ^ cs.length + m = d * 10 ^ cs.length + m ∧ d < 8 := by
      cases cs with
      | nil => exact ⟨rfl, by rw [List.length_nil] at hn; omega⟩
      | cons c' cs =>
        have hten : 10 ≤ 10 ^ (c' :: cs).length := Nat.le_self_pow (by simp) 10
        have hzero : d = 0 := Nat.eq_zero_of_not_pos fun hpos => by
          have := Nat.mul_le_mul hpos hten
          omega
        rw [hzero]
        exact ⟨by rw [Nat.zero_mul, Nat.zero_mul], by decide⟩
    exact number?_cons_eq_some_iff.mpr
      ⟨d, m, digit?_octal_iff.mpr ⟨hd, hsame.2⟩, ih hm (by omega), hsame.1⟩

end Base

namespace Text

/-- The first digit counts as often as the power of the base that stands at its place. -/
theorem ofDigits_cons (base d : Nat) (ds : List Nat) :
    ofDigits base (d :: ds) = d * base ^ ds.length + ofDigits base ds := by
  have hfrom : ∀ start, ds.foldl (fun n d => n * base + d) start =
      start * base ^ ds.length + ofDigits base ds := by
    induction ds with
    | nil => exact fun start => (Nat.mul_one start).symm
    | cons d' ds ih =>
      intro start
      have hstart : ofDigits base (d' :: ds) =
          ds.foldl (fun n d => n * base + d) (0 * base + d') := rfl
      rw [List.foldl_cons, ih, hstart, ih, List.length_cons, Nat.pow_succ']
      simp only [Nat.add_mul, Nat.mul_assoc, Nat.zero_mul, Nat.zero_add, Nat.add_assoc]
  have hstart : ofDigits base (d :: ds) =
      ds.foldl (fun n d => n * base + d) (0 * base + d) := rfl
  rw [hstart, hfrom, Nat.zero_mul, Nat.zero_add]

end Text

theorem Numeral.length_digitRun_le (base : Nat) (cs : List Char) :
    (Numeral.digitRun base cs).length ≤ cs.length := by
  induction cs with
  | nil => exact Nat.le_refl 0
  | cons c cs ih =>
    rw [Numeral.digitRun]
    cases Text.digitIn? base c with
    | none => exact Nat.zero_le _
    | some d => exact Nat.succ_le_succ ih

/-- Characters write a number exactly if the run of digits at the front does not end before them,
and then it is the number of that run. -/
theorem Base.number?_eq (b : Base) (cs : List Char) : b.number? cs =
    if (Numeral.digitRun b.size cs).length = cs.length then
      some (Text.ofDigits b.size (Numeral.digitRun b.size cs))
    else none := by
  induction cs with
  | nil => rfl
  | cons c cs ih =>
    rw [number?, digit?_eq, ih, Numeral.digitRun]
    cases Text.digitIn? b.size c with
    | none => rfl
    | some d =>
      dsimp only
      rw [List.length_cons, List.length_cons, Text.ofDigits_cons, Option.bind_some]
      by_cases hlength : (Numeral.digitRun b.size cs).length = cs.length
      · rw [if_pos hlength, if_pos (congrArg Nat.succ hlength), Option.map_some, hlength]
      · rw [if_neg hlength, if_neg (fun h => hlength (Nat.succ.inj h)), Option.map_none]

/-- Digits write a number, and it is that of what they stand for one by one. -/
theorem Base.number?_of_isDigit {b : Base} {cs : List Char} (h : ∀ c ∈ cs, b.isDigit c = true) :
    b.number? cs = some (Text.ofDigits b.size (cs.filterMap b.digit?)) ∧
      (cs.filterMap b.digit?).length = cs.length := by
  induction cs with
  | nil => exact ⟨rfl, rfl⟩
  | cons c cs ih =>
    obtain ⟨hc, hcs⟩ := List.forall_mem_cons.mp h
    obtain ⟨d, hd⟩ := Option.isSome_iff_exists.mp hc
    obtain ⟨hnumber, hlength⟩ := ih hcs
    rw [List.filterMap_cons_some hd, number?, hd, hnumber, Text.ofDigits_cons, hlength]
    exact ⟨rfl, congrArg Nat.succ hlength⟩

end FieldCode
