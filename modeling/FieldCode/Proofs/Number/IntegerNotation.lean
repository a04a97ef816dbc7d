import FieldCode.Proofs.Number.Base
import FieldCode.Proofs.Number.Digits

/-!
# Integers in three notations

An integer is written in decimal digits, behind a zero in octal digits, or behind `0x` in
hexadecimal digits, with a minus sign in front if it is negative (`WritesInteger`).  Every such
text, with blanks around it, is read as the integer.

A reader takes it apart in the order in which it was put together: the blanks, the sign, the
announcement of the base, the digits.  Nothing is left for the numeral reader to take off, so what
it makes of the digits is the number that they write (`Numeral.readInteger_of_number?`), unless
there are more than it reads.  That many decimal digits write a number beyond every range, so the
limit never refuses an integer that the range would have admitted (`Base.pow_le_of_number?`).

* `writesInteger_integerText`: the text that is made of an integer is in decimal notation.
* `readInteger_of_writes`: what is read of a text in one of the notations.
-/

namespace FieldCode

/-! ## The notations -/

/-- No zero stands in front of another digit. -/
def HasNoSpareZero (cs : List Char) : Prop :=
  cs.head? = some '0' → cs = ['0']

/-- A natural number in one of the three notations. -/
inductive WritesNatural : List Char → Nat → Prop where
  /-- Decimal digits without a spare zero in front. -/
  | decimal {cs : List Char} {n : Nat} (hne : cs ≠ []) (hzero : HasNoSpareZero cs)
      (h : Base.decimal.number? cs = some n) : WritesNatural cs n
  /-- Octal digits behind a zero. -/
  | octal {cs : List Char} {n : Nat} (hne : cs ≠ []) (h : Base.octal.number? cs = some n) :
      WritesNatural ('0' :: cs) n
  /-- Hexadecimal digits behind a zero and the letter. -/
  | hexadecimal {x : Char} {cs : List Char} {n : Nat} (hx : x = 'x' ∨ x = 'X') (hne : cs ≠ [])
      (h : Base.hexadecimal.number? cs = some n) : WritesNatural ('0' :: x :: cs) n

theorem exists_of_not_hasNoSpareZero {cs : List Char} (h : ¬ HasNoSpareZero cs) :
    ∃ c ds, cs = '0' :: c :: ds := by
  rw [HasNoSpareZero, Classical.not_imp] at h
  obtain ⟨hhead, hmore⟩ := h
  obtain ⟨ds, rfl⟩ := List.head?_eq_some_iff.mp hhead
  obtain ⟨c, ds, rfl⟩ := List.exists_cons_of_ne_nil fun hnil => hmore (hnil ▸ rfl)
  exact ⟨c, ds, rfl⟩

/-- An integer in one of the three notations, behind a minus sign if it is negative. -/
inductive WritesInteger : List Char → Int → Prop where
  | unsigned {cs : List Char} {n : Nat} (h : WritesNatural cs n) : WritesInteger cs n
  | negated {cs : List Char} {n : Nat} (h : WritesNatural cs n) : WritesInteger ('-' :: cs) (-n)

/-- ASCII figures write the same number in decimal notation as for any other reader. -/
theorem Base.number?_decimal {ds : List Char} (h : ∀ d ∈ ds, d.isDigit = true) :
    Base.decimal.number? ds = some (Numeral.ofAscii ds) := by
  have hrun : Numeral.digitRun Base.decimal.size ds = ds.map fun d => d.toNat - '0'.toNat :=
    Numeral.digitRun_of_isDigit h
  rw [Base.number?_eq, hrun, if_pos (List.length_map _)]
  rfl

theorem writesInteger_integerText (n : Int) : WritesInteger (integerText n) n := by
  have hdecimal : ∀ m : Nat, WritesNatural (Nat.toDigits 10 m) m := by
    intro m
    refine .decimal Nat.toDigits_ne_nil (fun hhead => ?_) ?_
    · obtain ⟨ds, hds⟩ := List.head?_eq_some_iff.mp hhead
      rw [hds, toDigits_eq_zero_cons hds]
    · rw [Base.number?_decimal (isDigit_toDigits m), Numeral.ofAscii_toDigits]
  rw [integerText]
  split
  · have hn : n = -(n.natAbs : Int) := by omega
    rw [hn, Int.natAbs_neg, Int.natAbs_natCast]
    exact .negated (hdecimal n.natAbs)
  · have hn : n = (n.natAbs : Int) := by omega
    rw [hn, Int.natAbs_natCast]
    exact .unsigned (hdecimal n.natAbs)

/-! ## Characters of integers -/

/-- The characters that integers are written with. -/
def integerChars : List Char :=
  Base.smallDigits ++ Base.capitalDigits ++ ['x', 'X', '+', '-']

/-- What holds of the characters of integers is found by trying them. -/
theorem forall_mem_integerChars {P : Char → Prop} [DecidablePred P]
    (h : integerChars.all (fun c => decide (P c)) = true) : ∀ c ∈ integerChars, P c := fun c hc =>
  of_decide_eq_true (List.all_eq_true.mp h c hc)

section Prepared

variable {cs : List Char}

theorem Base.subset_integerChars {b : Base} (h : ∀ c ∈ cs, b.isDigit c = true) :
    cs ⊆ integerChars := by
  intro c hc
  obtain ⟨d, hd⟩ := Option.isSome_iff_exists.mp (h c hc)
  exact List.mem_append_left _ (Base.mem_of_digit?_eq_some hd)

/-- The numeral reader sees the characters of integers as they are, without blanks. -/
theorem Numeral.splitSign_ofChars (h : cs ⊆ integerChars) :
    Numeral.splitSign (Text.ofChars cs) = Numeral.sign cs := by
  have hchar : ∀ c ∈ integerChars,
      Numeral.plainRune (.char c) = c ∧ Numeral.isBlank c = false :=
    forall_mem_integerChars (by decide +kernel)
  rw [Numeral.splitSign, Numeral.plain_ofChars_of_forall fun c hc => (hchar c (h hc)).1,
    Text.trimBy_eq_self fun c hc => (hchar c (h hc)).2]

theorem Text.trim_around (h : cs ⊆ integerChars) {before after : Text}
    (hbefore : ∀ r ∈ before, Text.isBlank r = true) (hafter : ∀ r ∈ after, Text.isBlank r = true) :
    Text.trim (before ++ Text.ofChars cs ++ after) = Text.ofChars cs := by
  have hchar : ∀ c ∈ integerChars, Text.isBlank (.char c) = false :=
    forall_mem_integerChars (by decide +kernel)
  have hblank : ∀ r ∈ Text.ofChars cs, Text.isBlank r = false := by
    intro r hr
    obtain ⟨c, hc, rfl⟩ := List.mem_map.mp hr
    exact hchar c (h hc)
  exact Text.trimBy_around hbefore hafter (fun r hr => hblank r (List.mem_of_mem_head? hr))
    fun r hr => hblank r (List.mem_of_getLast? hr)

end Prepared

/-! ## Digits -/

section Digits

variable {b : Base} {cs : List Char} {n : Nat}

theorem Base.isDigit_hexadecimal {c : Char} (h : b.isDigit c = true) :
    Base.hexadecimal.isDigit c = true := by
  obtain ⟨d, hd⟩ := Option.isSome_iff_exists.mp h
  exact Base.forall_of_digit? (P := fun c => Base.hexadecimal.isDigit c = true) (by decide) hd

theorem Numeral.splitSign_digits (h : ∀ c ∈ cs, Base.hexadecimal.isDigit c = true) :
    Numeral.splitSign (Text.ofChars cs) = (false, cs) := by
  rw [Numeral.splitSign_ofChars (Base.subset_integerChars h)]
  unfold Numeral.sign
  split
  · exact absurd (h '-' (List.mem_cons_self ..)) (by decide)
  · exact absurd (h '+' (List.mem_cons_self ..)) (by decide)
  · rfl

theorem Base.unannounced_digits (h : ∀ c ∈ cs, Base.hexadecimal.isDigit c = true) (b : Base) :
    b.unannounced cs = cs := by
  have hletter : ∀ c, Base.hexadecimal.isDigit c = true → b.announces c = false := by
    intro c hc
    obtain ⟨d, hd⟩ := Option.isSome_iff_exists.mp hc
    exact Base.forall_of_digit? (P := fun c => b.announces c = false) (by cases b <;> decide) hd
  unfold Base.unannounced
  split
  · rename_i c cs
    rw [if_neg (by simp [hletter c (h c (by simp))])]
  · rfl

/-- Where there is no announcement, a reader goes by the run of digits behind the sign. -/
theorem Numeral.readInteger_of_splitSign {t : Text} {negative : Bool}
    (hsign : Numeral.splitSign t = (negative, cs)) (hbase : b.unannounced cs = cs) :
    Numeral.readInteger b t =
      if b = .decimal ∧ Numeral.maxDigits < (Numeral.digitRun b.size cs).length then
        .error (.tooLong (Numeral.digitRun b.size cs).length)
      else if Numeral.digitRun b.size cs = [] ∨ (Numeral.digitRun b.size cs).length < cs.length then
        .error .malformed
      else .ok (Numeral.signed negative (Text.ofDigits b.size (Numeral.digitRun b.size cs))) := by
  rw [Numeral.readInteger, hsign]
  dsimp only
  rw [hbase]

/-- If such a text is read, there are digits of the base behind the sign and nothing else. -/
theorem Numeral.number?_of_splitSign {t : Text} {negative : Bool}
    (hsign : Numeral.splitSign t = (negative, cs)) (hbase : b.unannounced cs = cs) {m : Int}
    (hread : Numeral.readInteger b t = .ok m) :
    cs ≠ [] ∧ ∃ n : Nat, b.number? cs = some n ∧ m = Numeral.signed negative n := by
  rw [Numeral.readInteger_of_splitSign hsign hbase] at hread
  split_ifs at hread with hlong hrun
  rw [not_or] at hrun
  obtain ⟨hne, hlength⟩ := hrun
  refine ⟨?_, Text.ofDigits b.size (Numeral.digitRun b.size cs), ?_, (Except.ok.inj hread).symm⟩
  · rintro rfl
    exact hne rfl
  · have hle := Numeral.length_digitRun_le b.size cs
    rw [Base.number?_eq, if_pos (by omega)]

theorem Numeral.number?_of_readInteger (h : ∀ c ∈ cs, Base.hexadecimal.isDigit c = true) {m : Int}
    (hread : Numeral.readInteger b (Text.ofChars cs) = .ok m) :
    cs ≠ [] ∧ ∃ n : Nat, b.number? cs = some n ∧ m = n :=
  Numeral.number?_of_splitSign (Numeral.splitSign_digits h) (Base.unannounced_digits h b) hread

/-- Digits of the base are read as the number that they write, unless there are too many of them. -/
theorem Numeral.readInteger_of_number? (hne : cs ≠ []) (h : b.number? cs = some n) :
    Numeral.readInteger b (Text.ofChars cs) =
      if b = .decimal ∧ Numeral.maxDigits < cs.length then .error (.tooLong cs.length)
      else .ok n := by
  have hdigits : ∀ c ∈ cs, Base.hexadecimal.isDigit c = true := fun c hc =>
    Base.isDigit_hexadecimal (Base.isDigit_of_number? h c hc)
  rw [Base.number?_eq, Option.ite_none_right_eq_some, Option.some.injEq] at h
  obtain ⟨hlength, hvalue⟩ := h
  have hrun :
      ¬ (Numeral.digitRun b.size cs = [] ∨ (Numeral.digitRun b.size cs).length < cs.length) := by
    rintro (hnil | hlt)
    · exact hne (List.length_eq_zero_iff.mp (by rw [← hlength, hnil, List.length_nil]))
    · omega
  rw [Numeral.readInteger_of_splitSign (Numeral.splitSign_digits hdigits)
    (Base.unannounced_digits hdigits b), if_neg hrun, hlength, hvalue, Numeral.signed,
    if_neg Bool.false_ne_true]

end Digits

/-! ## Taking a text apart -/

section Apart

variable {cs : List Char}

theorem splitMinus_of_head? (h : cs.head? ≠ some '-') :
    splitMinus (Text.ofChars cs) = (false, Text.ofChars cs) := by
  unfold splitMinus
  split
  · rename_i t heq
    obtain ⟨c, cs, rfl, hc, -⟩ := List.map_eq_cons_iff.mp heq
    exact absurd (congrArg some (Rune.char.inj hc)) h
  · rfl

theorem splitBase_letter {x : Char} (hx : x = 'x' ∨ x = 'X') (cs : List Char) :
    splitBase (Text.ofChars ('0' :: x :: cs)) = (.hexadecimal, Text.ofChars cs) := by
  rcases hx with rfl | rfl <;> rfl

theorem splitBase_zero {c : Char} (hx : ¬ (c = 'x' ∨ c = 'X')) (cs : List Char) :
    splitBase (Text.ofChars ('0' :: c :: cs)) = (.octal, Text.ofChars (c :: cs)) := by
  have hletter : ¬ (Rune.char c = .char 'x' ∨ Rune.char c = .char 'X') := by
    simpa only [Rune.char.injEq] using hx
  exact if_neg hletter

theorem splitBase_of_hasNoSpareZero (h : HasNoSpareZero cs) :
    splitBase (Text.ofChars cs) = (.decimal, Text.ofChars cs) := by
  unfold splitBase
  split
  · rename_i r t heq
    obtain ⟨c, cs', rfl, hc, hrest⟩ := List.map_eq_cons_iff.mp heq
    have hone := h (congrArg some (Rune.char.inj hc))
    rw [(List.cons.inj hone).2] at hrest
    cases hrest
  · rfl

/-- What is announced in front of a natural number is the base of its notation, and its digits are
left. Decimal digits without a spare zero are too many only for a large number. -/
theorem WritesNatural.exists_splitBase {n : Nat} (h : WritesNatural cs n) :
    ∃ b ds, splitBase (Text.ofChars cs) = (b, Text.ofChars ds) ∧ ds ≠ [] ∧ b.number? ds = some n ∧
      (b = .decimal → Numeral.maxDigits < ds.length → 10 ^ Numeral.maxDigits ≤ n) := by
  cases h with
  | decimal hne hzero hn =>
    refine ⟨.decimal, cs, splitBase_of_hasNoSpareZero hzero, hne, hn, fun _ hlong => ?_⟩
    obtain ⟨c, cs, rfl⟩ := List.exists_cons_of_ne_nil hne
    have hc : c ≠ '0' := by
      rintro rfl
      rw [hzero rfl] at hlong
      exact absurd hlong (by decide)
    calc 10 ^ Numeral.maxDigits ≤ 10 ^ cs.length :=
          Nat.pow_le_pow_right (by decide) (Nat.le_of_lt_succ hlong)
      _ ≤ n := Base.pow_le_of_number? hn hc
  | @octal ds _ hne hn =>
    obtain ⟨c, ds, rfl⟩ := List.exists_cons_of_ne_nil hne
    have hc : ¬ (c = 'x' ∨ c = 'X') := by
      have hdigit := Base.isDigit_of_number? hn c (List.mem_cons_self ..)
      rintro (rfl | rfl) <;> exact absurd hdigit (by decide)
    exact ⟨.octal, c :: ds, splitBase_zero hc ds, hne, hn, fun h => nomatch h⟩
  | hexadecimal hx hne hn =>
    exact ⟨.hexadecimal, _, splitBase_letter hx _, hne, hn, fun h => nomatch h⟩

theorem WritesNatural.head?_ne {n : Nat} (h : WritesNatural cs n) {c : Char}
    (hc : Base.decimal.isDigit c = false) : cs.head? ≠ some c := by
  intro hhead
  cases h with
  | decimal hne hzero hn =>
    rw [Base.isDigit_of_number? hn c (List.mem_of_mem_head? hhead)] at hc
    cases hc
  | octal hne hn =>
    rw [← Option.some.inj hhead] at hc
    cases hc
  | hexadecimal hx hne hn =>
    rw [← Option.some.inj hhead] at hc
    cases hc

end Apart

/-! ## Reading -/

/-- **An integer in one of the notations is read as that integer.**  The numeral reader gives up at
too many decimal digits, and those write an integer beyond every range. -/
theorem readInteger_of_writes {text : Text} {cs : List Char} {n : Int}
    (htrim : Text.trim text = Text.ofChars cs) (h : WritesInteger cs n) :
    readInteger text = .ok n ∨
      10 ^ Numeral.maxDigits ≤ n.natAbs ∧ ∃ digits, Numeral.maxDigits < digits ∧
        readInteger text = .error (.tooManyDigits digits) := by
  -- the sign apart, the two cases are the same
  have hread : ∀ {negative : Bool} {cs' : List Char} {m : Nat},
      splitMinus (Text.ofChars cs) = (negative, Text.ofChars cs') → WritesNatural cs' m →
        readInteger text = .ok (if negative then -(m : Int) else m) ∨
          10 ^ Numeral.maxDigits ≤ m ∧ ∃ digits, Numeral.maxDigits < digits ∧
            readInteger text = .error (.tooManyDigits digits) := by
    intro negative cs' m hminus hm
    obtain ⟨b, ds, hbase, hne, hn, hlong⟩ := hm.exists_splitBase
    rw [readInteger, htrim, hminus]
    dsimp only
    rw [hbase]
    dsimp only
    rw [Numeral.readInteger_of_number? hne hn]
    by_cases hmany : b = .decimal ∧ Numeral.maxDigits < ds.length
    · rw [if_pos hmany]
      exact .inr ⟨hlong hmany.1 hmany.2, ds.length, hmany.2, rfl⟩
    · rw [if_neg hmany]
      exact .inl rfl
  cases h with
  | @unsigned _ m hm =>
    have hminus := splitMinus_of_head? (hm.head?_ne (c := '-') (by decide))
    simpa using hread hminus hm
  | @negated cs' m hm =>
    have hminus : splitMinus (Text.ofChars ('-' :: cs')) = (true, Text.ofChars cs') := rfl
    simpa using hread hminus hm

end FieldCode
