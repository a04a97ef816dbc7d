import FieldCode.Proofs.Number.Default

/-!
# Default texts of integer kinds

Every integer can be written as a default in each of the three notations, and a text that writes one
is accepted exactly if the integer is in the range of the kind (`integer_default_of_writes`).

The converse is almost true.  A text is accepted only if the numeral reader accepts what is left of
it behind the sign and the announcement of the base, and that reader takes off a sign, an
announcement and blanks of its own and knows the digits of every script.  So `--5` is accepted, as
five.  Such a second layer is all that can be amiss: an accepted text is in one of the notations,
and has the value that it is read as, exactly if only digits are left
(`integer_default_in_notation_iff`).
-/

namespace FieldCode

/-! ## Texts in one of the notations -/

theorem WritesNatural.subset_integerChars {cs : List Char} {n : Nat} (h : WritesNatural cs n) :
    cs ⊆ integerChars := by
  cases h with
  | decimal hne hzero hn => exact Base.subset_integerChars (Base.isDigit_of_number? hn)
  | octal hne hn =>
    exact List.cons_subset.mpr ⟨by decide, Base.subset_integerChars (Base.isDigit_of_number? hn)⟩
  | hexadecimal hx hne hn =>
    refine List.cons_subset.mpr ⟨by decide, List.cons_subset.mpr ⟨?_, ?_⟩⟩
    · rcases hx with rfl | rfl <;> decide
    · exact Base.subset_integerChars (Base.isDigit_of_number? hn)

theorem WritesInteger.subset_integerChars {cs : List Char} {n : Int} (h : WritesInteger cs n) :
    cs ⊆ integerChars := by
  cases h with
  | unsigned hn => exact hn.subset_integerChars
  | negated hn => exact List.cons_subset.mpr ⟨by decide, hn.subset_integerChars⟩

/-- Neither the blanks around an integer nor its characters group digits. -/
theorem Text.underscore_notMem_around {cs : List Char} (h : cs ⊆ integerChars) {before after : Text}
    (hbefore : ∀ r ∈ before, Text.isBlank r = true) (hafter : ∀ r ∈ after, Text.isBlank r = true) :
    (before ++ Text.ofChars cs ++ after).contains (.char '_') = false := by
  have hblank : Text.isBlank (.char '_') = false := by decide +kernel
  have hchar : '_' ∉ integerChars := by decide
  rw [List.contains_eq_mem, decide_eq_false_iff_not, List.mem_append, List.mem_append]
  rintro ((hmem | hmem) | hmem)
  · rw [hbefore _ hmem] at hblank
    cases hblank
  · obtain ⟨c, hc, heq⟩ := List.mem_map.mp hmem
    exact hchar (Rune.char.inj heq ▸ h hc)
  · rw [hafter _ hmem] at hblank
    cases hblank

section Kinds

variable {k : Kind} {low high : Int}

/-- A kind with a range of integers is numeric and not floating, and holds what is in the range. -/
theorem Kind.of_integerRange? (hk : k.integerRange? = some (low, high)) :
    k.isNumeric = true ∧ k.isFloating = false ∧
      ∀ n, k.inRange n = true ↔ low ≤ n ∧ n ≤ high := by
  refine ⟨?_, ?_, fun n => ?_⟩
  · cases k <;> first | rfl | cases hk
  · cases k <;> first | rfl | cases hk
  · rw [Kind.inRange, hk, Bool.and_eq_true, decide_eq_true_eq, decide_eq_true_eq]

/-- **Every integer is readable in every notation, and the range decides.**  A text with an integer
in one of the notations, and blanks around it, is a default of an integer kind if the integer is in
the range of the kind, and is refused if not, be it as long as it may. -/
theorem integer_default_of_writes (hk : k.integerRange? = some (low, high)) {cs : List Char}
    {n : Int} (h : WritesInteger cs n) {before after : Text}
    (hbefore : ∀ r ∈ before, Text.isBlank r = true) (hafter : ∀ r ∈ after, Text.isBlank r = true)
    (e : Option EnumType) :
    (low ≤ n ∧ n ≤ high →
      k.readDefault (before ++ Text.ofChars cs ++ after) e = .ok (.int n)) ∧
    (¬ (low ≤ n ∧ n ≤ high) → ∃ fault,
      k.readDefault (before ++ Text.ofChars cs ++ after) e = .error fault ∧
        (fault = .outOfRange (before ++ Text.ofChars cs ++ after) k ∨
          ∃ digits, Numeral.maxDigits < digits ∧ fault = .tooManyDigits digits)) := by
  obtain ⟨hnumeric, hinteger, hrange⟩ := Kind.of_integerRange? hk
  have hplain := Text.underscore_notMem_around h.subset_integerChars hbefore hafter
  have htrim := Text.trim_around h.subset_integerChars hbefore hafter
  rw [Kind.readDefault_numeric hnumeric]
  refine ⟨fun hn => ?_, fun hn => ?_⟩
  · exact Kind.readNumber_of_writes hnumeric hinteger hplain htrim h ((hrange n).mpr hn)
  · have hout : k.inRange n = false := by
      rw [Bool.eq_false_iff, Ne, hrange]
      exact hn
    rcases Kind.readNumber_of_writes_of_not_inRange hinteger hplain htrim h hout with
      hread | ⟨digits, hdigits, hread⟩
    · exact ⟨_, hread, .inl rfl⟩
    · exact ⟨_, hread, .inr ⟨digits, hdigits, rfl⟩⟩

end Kinds

/-- The least integer of a 32-bit kind is read in hexadecimal digits, and without its sign it is out
of range. -/
theorem least_int32_in_hexadecimal :
    Kind.int32.readDefault " -0x80000000\n" none = .ok (.int (-2147483648)) ∧
      ∃ fault, Kind.int32.readDefault "\t0X80000000" none = .error fault := by
  have hdigits : Base.hexadecimal.number? ['8', '0', '0', '0', '0', '0', '0', '0'] =
      some 2147483648 := by decide
  have hsmall := WritesNatural.hexadecimal (.inl rfl) (List.cons_ne_nil _ _) hdigits
  have hcapital := WritesNatural.hexadecimal (.inr rfl) (List.cons_ne_nil _ _) hdigits
  have hnone : ∀ r ∈ ([] : Text), Text.isBlank r = true := fun r hr => nomatch hr
  have hspace : ∀ r ∈ ([.char ' '] : Text), Text.isBlank r = true := by decide
  have hline : ∀ r ∈ ([.char '\n'] : Text), Text.isBlank r = true := by decide
  have htab : ∀ r ∈ ([.char '\t'] : Text), Text.isBlank r = true := by decide
  have hleast := (integer_default_of_writes (k := .int32) rfl (.negated hsmall) hspace hline
    none).1 (by decide)
  obtain ⟨fault, hrefused, -⟩ := (integer_default_of_writes (k := .int32) rfl (.unsigned hcapital)
    htab hnone none).2 (by decide)
  exact ⟨hleast, fault, hrefused⟩

/-! ## Accepted texts -/

/-- An integer in one of the notations, behind at most one sign. -/
inductive WritesSigned : List Char → Int → Prop where
  | ofInteger {cs : List Char} {n : Int} (h : WritesInteger cs n) : WritesSigned cs n
  | plus {cs : List Char} {n : Nat} (h : WritesNatural cs n) : WritesSigned ('+' :: cs) n

/-- Behind what is taken off a text there are only digits.  A plus sign is not taken off, and a zero
behind it announces nothing; so with a spare zero the digits mean the same in base eight, which the
notation asks for, and in base ten, in which they are read, only below eight. -/
inductive LeavesDigits : List Char → Int → Prop where
  | digits {sign announcement ds : List Char} {n : Int} (hsign : sign = [] ∨ sign = ['-'])
      (hannouncement : announcement = [] ∨ announcement = ['0', 'x'] ∨ announcement = ['0', 'X'])
      (hds : ∀ c ∈ ds, Base.hexadecimal.isDigit c = true) :
      LeavesDigits (sign ++ (announcement ++ ds)) n
  | plus {ds : List Char} {n : Int} (hds : ∀ c ∈ ds, Base.decimal.isDigit c = true)
      (hzero : HasNoSpareZero ds ∨ n < 8) : LeavesDigits ('+' :: ds) n

/-- What is read of a text is what the numeral reader makes of it behind its sign and the
announcement of its base. -/
theorem exists_readInteger_of_ok {text : Text} {n : Int} (h : readInteger text = .ok n) :
    ∃ m : Int, Numeral.readInteger (splitBase (splitMinus (Text.trim text)).2).1
        (splitBase (splitMinus (Text.trim text)).2).2 = .ok m ∧
      n = if (splitMinus (Text.trim text)).1 then -m else m := by
  rw [readInteger] at h
  split at h
  · rename_i m hm
    exact ⟨m, hm, (Except.ok.inj h).symm⟩
  · cases h
  · cases h

section Signed

variable {cs : List Char} {n : Nat}

theorem WritesNatural.leavesDigits {sign : List Char} {m : Int} (hsign : sign = [] ∨ sign = ['-'])
    (h : WritesNatural cs n) : LeavesDigits (sign ++ cs) m := by
  have hexadecimal : ∀ {b : Base} {ds : List Char} {n : Nat}, b.number? ds = some n →
      ∀ c ∈ ds, Base.hexadecimal.isDigit c = true := fun hn c hc =>
    Base.isDigit_hexadecimal (Base.isDigit_of_number? hn c hc)
  cases h with
  | decimal hne hzero hn => exact .digits hsign (.inl rfl) (hexadecimal hn)
  | octal hne hn =>
    exact .digits hsign (.inl rfl) (List.forall_mem_cons.mpr ⟨by decide, hexadecimal hn⟩)
  | hexadecimal hx hne hn =>
    rcases hx with rfl | rfl
    · exact .digits hsign (.inr (.inl rfl)) (hexadecimal hn)
    · exact .digits hsign (.inr (.inr rfl)) (hexadecimal hn)

/-- Digits behind an announcement, or without one, are in the notation of the base that is read. -/
theorem WritesNatural.of_readInteger {announcement ds : List Char}
    (hannouncement : announcement = [] ∨ announcement = ['0', 'x'] ∨ announcement = ['0', 'X'])
    (hds : ∀ c ∈ ds, Base.hexadecimal.isDigit c = true) {m : Int}
    (h : Numeral.readInteger (splitBase (Text.ofChars (announcement ++ ds))).1
      (splitBase (Text.ofChars (announcement ++ ds))).2 = .ok m) :
    ∃ n : Nat, WritesNatural (announcement ++ ds) n ∧ m = n := by
  have hletter : ∀ {x : Char}, x = 'x' ∨ x = 'X' → announcement = ['0', x] →
      ∃ n : Nat, WritesNatural (announcement ++ ds) n ∧ m = n := by
    rintro x hx rfl
    rw [List.cons_append, List.cons_append, List.nil_append, splitBase_letter hx] at h
    obtain ⟨hne, n, hn, hm⟩ := Numeral.number?_of_readInteger hds h
    exact ⟨n, .hexadecimal hx hne hn, hm⟩
  rcases hannouncement with rfl | hsmall | hcapital
  · rw [List.nil_append] at h ⊢
    by_cases hzero : HasNoSpareZero ds
    · rw [splitBase_of_hasNoSpareZero hzero] at h
      obtain ⟨hne, n, hn, hm⟩ := Numeral.number?_of_readInteger hds h
      exact ⟨n, .decimal hne hzero hn, hm⟩
    · obtain ⟨c, ds, rfl⟩ := exists_of_not_hasNoSpareZero hzero
      have htail := (List.forall_mem_cons.mp hds).2
      have hc : ¬ (c = 'x' ∨ c = 'X') := by
        have hdigit := htail c (List.mem_cons_self ..)
        rintro (rfl | rfl) <;> exact absurd hdigit (by decide)
      rw [splitBase_zero hc] at h
      obtain ⟨hne, n, hn, hm⟩ := Numeral.number?_of_readInteger htail h
      exact ⟨n, .octal hne hn, hm⟩
  · exact hletter (.inl rfl) hsmall
  · exact hletter (.inr rfl) hcapital

/-- Behind a plus sign decimal digits are read, and they may begin with superfluous zeros. -/
theorem number?_of_readInteger_plus {text : Text}
    (htrim : Text.trim text = Text.ofChars ('+' :: cs)) (hcs : cs ⊆ integerChars) {m : Int}
    (h : readInteger text = .ok m) :
    cs ≠ [] ∧ ∃ n : Nat, Base.decimal.number? cs = some n ∧ m = n := by
  have hbase : Base.decimal.unannounced cs = cs := by
    unfold Base.unannounced
    split <;> rfl
  obtain ⟨m', hm', rfl⟩ := exists_readInteger_of_ok h
  rw [htrim] at hm' ⊢
  exact Numeral.number?_of_splitSign
    (Numeral.splitSign_ofChars (List.cons_subset.mpr ⟨by decide, hcs⟩)) hbase hm'

/-- If a signed number is read as what it writes, only digits are left of it. -/
theorem WritesSigned.leavesDigits {text : Text} (htrim : Text.trim text = Text.ofChars cs) {m : Int}
    (hread : readInteger text = .ok m) (h : WritesSigned cs m) : LeavesDigits cs m := by
  cases h with
  | ofInteger h =>
    cases h with
    | unsigned hn => exact hn.leavesDigits (.inl rfl)
    | negated hn => exact hn.leavesDigits (.inr rfl)
  | @plus cs n hn =>
    obtain ⟨-, n', hdecimal, hm⟩ := number?_of_readInteger_plus htrim hn.subset_integerChars hread
    obtain rfl : n = n' := Int.ofNat_inj.mp hm
    refine .plus (Base.isDigit_of_number? hdecimal) ?_
    cases hn with
    | decimal hne hzero hn => exact .inl hzero
    | octal hne hn =>
      rw [Base.number?_zero_cons] at hdecimal
      exact .inr (Int.ofNat_lt.mpr ((Base.number?_octal_le hn hdecimal).2 rfl))
    | hexadecimal hx hne hn =>
      rw [Base.number?_zero_cons] at hdecimal
      have hletter := Base.isDigit_of_number? hdecimal _ (List.mem_cons_self ..)
      rcases hx with rfl | rfl <;> exact absurd hletter (by decide)

/-- If a text of which only digits are left is read, it writes what it is read as. -/
theorem LeavesDigits.writesSigned {text : Text} (htrim : Text.trim text = Text.ofChars cs) {m : Int}
    (hread : readInteger text = .ok m) (h : LeavesDigits cs m) : WritesSigned cs m := by
  cases h with
  | @digits sign announcement ds _ hsign hannouncement hds =>
    obtain ⟨m', hm', rfl⟩ := exists_readInteger_of_ok hread
    rw [htrim] at hm' ⊢
    rcases hsign with rfl | rfl
    · have hhead : (announcement ++ ds).head? ≠ some '-' := by
        rcases hannouncement with rfl | rfl | rfl
        · intro hhead
          exact absurd (hds '-' (List.mem_of_mem_head? hhead)) (by decide)
        · exact fun hhead => absurd (Option.some.inj hhead) (by decide)
        · exact fun hhead => absurd (Option.some.inj hhead) (by decide)
      rw [List.nil_append, splitMinus_of_head? hhead] at hm' ⊢
      obtain ⟨n, hn, rfl⟩ := WritesNatural.of_readInteger hannouncement hds hm'
      exact .ofInteger (.unsigned hn)
    · have hminus : splitMinus (Text.ofChars (['-'] ++ (announcement ++ ds))) =
          (true, Text.ofChars (announcement ++ ds)) := rfl
      rw [hminus] at hm' ⊢
      obtain ⟨n, hn, rfl⟩ := WritesNatural.of_readInteger hannouncement hds hm'
      exact .ofInteger (.negated hn)
  | @plus ds _ hds hzero =>
    obtain ⟨hne, n, hn, rfl⟩ :=
      number?_of_readInteger_plus htrim (Base.subset_integerChars hds) hread
    refine .plus ?_
    by_cases hspare : HasNoSpareZero ds
    · exact .decimal hne hspare hn
    · have hlt : n < 8 := Int.ofNat_lt.mp (hzero.resolve_left hspare)
      obtain ⟨c, ds, rfl⟩ := exists_of_not_hasNoSpareZero hspare
      rw [Base.number?_zero_cons] at hn
      exact .octal (List.cons_ne_nil c ds) (Base.number?_octal_of_lt hn hlt)

end Signed

/-- **What is accepted is in one of the notations, unless a second layer was taken off.**  A default
of an integer kind is read as an integer; the trimmed text is that integer in one of the notations,
behind at most one sign, exactly if behind its sign and the announcement of its base there are only
digits. -/
theorem integer_default_in_notation_iff {k : Kind} {low high : Int}
    (hk : k.integerRange? = some (low, high)) {text : Text} {e : Option EnumType} {v : Value}
    (h : k.readDefault text e = .ok v) :
    ∃ n, v = .int n ∧ ((∃ cs, Text.trim text = Text.ofChars cs ∧ WritesSigned cs n) ↔
      ∃ cs, Text.trim text = Text.ofChars cs ∧ LeavesDigits cs n) := by
  obtain ⟨hnumeric, hinteger, -⟩ := Kind.of_integerRange? hk
  rw [Kind.readDefault_numeric hnumeric] at h
  obtain ⟨n, hread, rfl, -⟩ := Kind.exists_readInteger hinteger h
  refine ⟨n, rfl, ?_, ?_⟩
  · rintro ⟨cs, htrim, hwrites⟩
    exact ⟨cs, htrim, hwrites.leavesDigits htrim hread⟩
  · rintro ⟨cs, htrim, hleaves⟩
    exact ⟨cs, htrim, hleaves.writesSigned htrim hread⟩

/-- A negative number in hexadecimal digits is accepted and is in that notation. -/
theorem negative_hexadecimal_default_accepted :
    Kind.sint64.readDefault " -0x1F" none = .ok (.int (-31)) ∧
      ∃ cs, Text.trim " -0x1F" = Text.ofChars cs ∧ WritesSigned cs (-31) := by
  have hread : Kind.sint64.readDefault " -0x1F" none = .ok (.int (-31)) := by decide +kernel
  obtain ⟨n, hn, hiff⟩ := integer_default_in_notation_iff (k := .sint64) rfl hread
  obtain rfl : -31 = n := Value.int.inj hn
  have hdigits : ['1', 'F'].all Base.hexadecimal.isDigit = true := by decide
  refine ⟨hread, hiff.mpr ⟨['-', '0', 'x', '1', 'F'], by decide +kernel, ?_⟩⟩
  exact .digits (.inr rfl) (.inr (.inl rfl)) (List.all_eq_true.mp hdigits)

/-- Two minus signs are accepted as none, though such a text is in no notation. -/
theorem doubled_minus_accepted : Kind.int32.readDefault "--5" none = .ok (.int 5) ∧
    ¬ ∃ cs n, Text.trim "--5" = Text.ofChars cs ∧ WritesSigned cs n := by
  have htrim : Text.trim "--5" = Text.ofChars ['-', '-', '5'] := by decide +kernel
  refine ⟨by decide +kernel, ?_⟩
  rintro ⟨cs, n, hcs, h⟩
  obtain rfl : ['-', '-', '5'] = cs :=
    List.map_injective_iff.mpr (fun _ _ => Rune.char.inj) (htrim.symm.trans hcs)
  cases h with
  | ofInteger h =>
    cases h with
    | unsigned hn => exact hn.head?_ne (c := '-') (by decide) rfl
    | negated hn => exact hn.head?_ne (c := '-') (by decide) rfl

end FieldCode
