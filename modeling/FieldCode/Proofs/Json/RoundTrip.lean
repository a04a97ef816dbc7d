import FieldCode.Json.Printer
import FieldCode.Proofs.Json.Halves
import FieldCode.Proofs.Number.Literal

/-!
# Printed values are read back

What the printer writes the reader takes back, part by part: a text from its units, an integer from its
digits, items and members from the first of them to the bracket or brace that closes them.  Neither
fuel nor room runs out: the fuel of a reader is twice the length of the text, and a printed part takes
two calls at most for each of its characters (`readValue_print`, by recursion on the value).

* `Json.Readable`: the values to which this applies.  A number that is no integer is not among them,
  and an integer is only if a numeral can write it.
* `Json.rejoined`: what a value is read back as.
* `Json.read_toText` is the round trip, and `Json.isAscii_toText` says that no character beyond ASCII
  is needed.
-/

namespace FieldCode

/-! ## Texts -/

namespace Text

theorem hex_succ {width : Nat} (hw : 0 < width) (n : Nat) :
    hex (width + 1) n = hex width (n / 16) ++ [Nat.digitChar (n % 16)] := by
  by_cases hn : n < 16
  · rw [hex, hex, Nat.toDigits_of_lt_base hn, Nat.div_eq_of_lt hn, Nat.mod_eq_of_lt hn]
    obtain ⟨k, rfl⟩ := Nat.exists_eq_add_one.mpr hw
    show List.replicate (k + 1) '0' ++ [n.digitChar] = List.replicate k '0' ++ ['0'] ++ [n.digitChar]
    rw [List.replicate_succ']
  · rw [hex, hex, Nat.toDigits_of_base_le (by decide) (by omega), List.length_append,
      List.append_assoc, List.length_singleton, Nat.add_sub_add_right]

theorem hex_four {n : Nat} (h : n < 0x10000) : hex 4 n =
    [Nat.digitChar (n / 16 / 16 / 16), Nat.digitChar (n / 16 / 16 % 16),
      Nat.digitChar (n / 16 % 16), Nat.digitChar (n % 16)] := by
  rw [hex_succ (by decide), hex_succ (by decide), hex_succ (by decide), hex,
    Nat.toDigits_of_lt_base (by omega)]
  rfl

end Text

namespace Json

theorem hexValue?_digitChar : ∀ d < 16, hexValue? (Nat.digitChar d) = some d := by
  decide

theorem readUnits_unitEscape {n : Nat} (h : n < 0x10000) (rest : List Char) :
    readUnits (unitEscape n ++ rest) = (readUnits rest).map fun r => (n :: r.1, r.2) := by
  rw [unitEscape, Text.hex_four h]
  simp only [List.cons_append, List.nil_append]
  rw [readUnits, hexFour?, hexValue?_digitChar _ (by omega), hexValue?_digitChar _ (by omega),
    hexValue?_digitChar _ (by omega), hexValue?_digitChar _ (by omega)]
  dsimp only
  rw [show ((n / 16 / 16 / 16 * 16 + n / 16 / 16 % 16) * 16 + n / 16 % 16) * 16 + n % 16 = n by omega]

theorem readUnits_escaped {c e : Char} (hc : escaped? c = some e) (rest : List Char) :
    readUnits ('\\' :: c :: rest) = (readUnits rest).map fun r => (e.toNat :: r.1, r.2) := by
  have hu : c ≠ 'u' := by
    rintro rfl
    cases hc
  cases rest <;> simp [readUnits, hc, hu]

/-- A character that is no quote, no backslash and no control stands for itself. -/
theorem readUnits_plain {c : Char} (hquote : c ≠ '"') (hslash : c ≠ '\\') (hc : 0x20 ≤ c.toNat)
    (rest : List Char) :
    readUnits (c :: rest) = (readUnits rest).map fun r => (c.toNat :: r.1, r.2) := by
  rw [readUnits, if_neg (by omega)]
  all_goals simp_all

theorem readUnits_printChar (c : Char) (rest : List Char) : readUnits (printChar c ++ rest) =
    (readUnits rest).map fun r => ((Rune.char c).units ++ r.1, r.2) := by
  have hsmall : ∀ c : Char, c.toNat < 0x10000 → (Rune.char c).units = [c.toNat] := fun c h => if_pos h
  have hbig : ∀ c : Char, ¬ c.toNat < 0x10000 → (Rune.char c).units =
      [0xd800 + (c.toNat - 0x10000) / 0x400, 0xdc00 + (c.toNat - 0x10000) % 0x400] :=
    fun c h => if_neg h
  have hrange := Rune.toNat_cases c
  unfold printChar
  split_ifs with hquote hline hreturn htab hback hfeed hplain hunit
  · have hc : escaped? c = some c := by
      rcases hquote with rfl | rfl <;> rfl
    rw [hsmall c (by rcases hquote with rfl | rfl <;> decide)]
    exact readUnits_escaped hc rest
  · subst hline
    exact readUnits_escaped rfl rest
  · subst hreturn
    exact readUnits_escaped rfl rest
  · subst htab
    exact readUnits_escaped rfl rest
  · subst hback
    exact readUnits_escaped rfl rest
  · subst hfeed
    exact readUnits_escaped rfl rest
  · rw [not_or] at hquote
    rw [Text.isPlainChar, Bool.and_eq_true, decide_eq_true_iff, decide_eq_true_iff] at hplain
    rw [hsmall c (by omega)]
    exact readUnits_plain hquote.1 hquote.2 hplain.1 rest
  · rw [hsmall c hunit]
    exact readUnits_unitEscape hunit rest
  · rw [hbig c hunit]
    dsimp only
    rw [List.append_assoc, readUnits_unitEscape (by omega), readUnits_unitEscape (by omega),
      Option.map_map]
    rfl

theorem readUnits_printRune (r : Rune) (rest : List Char) : readUnits (printRune r ++ rest) =
    (readUnits rest).map fun x => (r.units ++ x.1, x.2) := by
  cases r with
  | char c => exact readUnits_printChar c rest
  | half n =>
    have hn := n.isLt
    exact readUnits_unitEscape (by rw [Rune.code]; omega) rest

theorem readUnits_printText (t : Text) (rest : List Char) :
    readUnits (t.flatMap printRune ++ '"' :: rest) = some (Text.units t, rest) := by
  induction t with
  | nil => rfl
  | cons r t ih =>
    rw [List.flatMap_cons, List.append_assoc, readUnits_printRune, ih, Text.units_cons]
    rfl

/-- A printed text is read back, halves that meet being joined. -/
theorem readText_printText (t : Text) (rest : List Char) :
    readText (t.flatMap printRune ++ '"' :: rest) = some (Text.rejoined t, rest) := by
  rw [readText, readUnits_printText]
  rfl

/-! ## Numbers and words -/

/-- What follows a printed value: the end, a comma, or the end of a line. -/
def Delimits (rest : List Char) : Prop :=
  ∀ c ∈ rest.head?, c = ',' ∨ c = '\n'

theorem Delimits.splitFraction {rest : List Char} (h : Delimits rest) :
    splitFraction rest = ([], rest) := by
  cases rest with
  | nil => rfl
  | cons c cs =>
    rcases h c rfl with rfl | rfl <;> rfl

theorem Delimits.splitExponent {rest : List Char} (h : Delimits rest) :
    splitExponent rest = (none, rest) := by
  cases rest with
  | nil => rfl
  | cons c cs =>
    rcases h c rfl with rfl | rfl <;> rfl

theorem Delimits.not_isDigit {rest : List Char} (h : Delimits rest) :
    ∀ c ∈ rest.head?, c.isDigit = false := by
  intro c hc
  rcases h c hc with rfl | rfl <;> rfl

theorem splitWhole_toDigits (n : Nat) {rest : List Char} (h : Delimits rest) :
    splitWhole (Nat.toDigits 10 n ++ rest) = (Nat.toDigits 10 n, rest) := by
  obtain ⟨d, ds, hds⟩ := List.exists_cons_of_ne_nil (Nat.toDigits_ne_nil (n := n) (b := 10))
  by_cases hd : d = '0'
  · subst hd
    obtain rfl := toDigits_eq_zero_cons hds
    rw [hds]
    rfl
  · rw [splitWhole]
    · exact Numeral.splitDigits_run (isDigit_toDigits n) h.not_isDigit
    · rw [hds, List.cons_append]
      rintro _ ⟨⟩
      exact hd rfl

/-- A run of digits is read as the number it writes, behind either sign. -/
theorem readNumber_toDigits {n : Nat} (hn : (Nat.toDigits 10 n).length ≤ Numeral.maxDigits)
    {rest : List Char} (h : Delimits rest) (negative : Bool) :
    readNumber ((if negative then ['-'] else []) ++ (Nat.toDigits 10 n ++ rest)) =
      .ok (.int (Numeral.signed negative n), rest) := by
  have hne : Nat.toDigits 10 n ≠ [] := Nat.toDigits_ne_nil
  cases negative with
  | true =>
    rw [if_pos rfl, List.singleton_append, readNumber]
    simp only [splitWhole_toDigits n h, h.splitFraction, h.splitExponent]
    rw [if_neg hne, if_pos ⟨trivial, trivial⟩, if_neg (by omega), Numeral.ofAscii_toDigits]
  | false =>
    have hminus : ∀ cs, Nat.toDigits 10 n ++ rest ≠ '-' :: cs := by
      obtain ⟨d, ds, hds⟩ := List.exists_cons_of_ne_nil hne
      have hd := isDigit_toDigits n d (hds ▸ List.mem_cons_self ..)
      rw [hds]
      rintro _ ⟨⟩
      exact absurd hd (by decide)
    rw [if_neg Bool.false_ne_true, List.nil_append, readNumber]
    · simp only [splitWhole_toDigits n h, h.splitFraction, h.splitExponent]
      rw [if_neg hne, if_pos ⟨trivial, trivial⟩, if_neg (by omega), Numeral.ofAscii_toDigits]
    · exact hminus

/-- A printed integer is read back, if it has no more digits than a numeral may have. -/
theorem readNumber_integerText {n : Int} (hn : (Nat.toDigits 10 n.natAbs).length ≤ Numeral.maxDigits)
    {rest : List Char} (h : Delimits rest) :
    readNumber (integerText n ++ rest) = .ok (.int n, rest) := by
  rw [integerText]
  split_ifs with hneg
  · rw [List.cons_append]
    refine (readNumber_toDigits hn h true).trans ?_
    rw [Numeral.signed, if_pos rfl, show -(n.natAbs : Int) = n by omega]
  · refine (readNumber_toDigits hn h false).trans ?_
    rw [Numeral.signed, if_neg Bool.false_ne_true, show (n.natAbs : Int) = n by omega]

theorem exists_integerText_eq_cons (n : Int) : ∃ c cs, integerText n = c :: cs ∧
    (c.isDigit = true ∨ c = '-' ∧ ∃ d ds, cs = d :: ds ∧ d.isDigit = true) := by
  obtain ⟨d, ds, hds⟩ :=
    List.exists_cons_of_ne_nil (Nat.toDigits_ne_nil (n := n.natAbs) (b := 10))
  have hd := isDigit_toDigits n.natAbs d (hds ▸ List.mem_cons_self ..)
  rw [integerText, hds]
  split_ifs
  · exact ⟨'-', d :: ds, rfl, Or.inr ⟨rfl, d, ds, rfl, hd⟩⟩
  · exact ⟨d, ds, rfl, Or.inl hd⟩

theorem readWord?_integerText (n : Int) (rest : List Char) :
    readWord? (integerText n ++ rest) = none := by
  have hletter : ∀ c ∈ numberChars, 'n' ≠ c ∧ 't' ≠ c ∧ 'f' ≠ c ∧ 'N' ≠ c ∧ 'I' ≠ c :=
    forall_mem_numberChars (by decide)
  obtain ⟨c, cs, hcs, hc | ⟨rfl, d, ds, rfl, hd⟩⟩ := exists_integerText_eq_cons n
  · have hminus : '-' ≠ c := by
      rintro rfl
      exact absurd hc (by decide)
    rw [hcs]
    simp [readWord?, words, after?, hletter c (mem_numberChars_of_isDigit hc), hminus]
  · rw [hcs]
    simp [readWord?, words, after?, hletter d (mem_numberChars_of_isDigit hd)]

/-! ## Values -/

mutual

/-- What a value is read back as: the halves in its texts that meet are joined, and of members with
the same key the last counts. -/
def rejoined : Json → Json
  | null => null
  | bool b => bool b
  | int n => int n
  | number x => number x
  | text t => text (Text.rejoined t)
  | array items => array (rejoinedItems items)
  | object members => object (assemble (rejoinedMembers members))

/-- What items are read back as. -/
def rejoinedItems : List Json → List Json
  | [] => []
  | item :: items => item.rejoined :: rejoinedItems items

/-- What members are read back as. -/
def rejoinedMembers : List (Text × Json) → List (Text × Json)
  | [] => []
  | (key, value) :: members => (Text.rejoined key, value.rejoined) :: rejoinedMembers members

end

/-- A printed value can be read back: its numbers are integers that a numeral can write, and there is
room for its arrays and objects. -/
inductive Readable : Nat → Json → Prop
  | null {room : Nat} : Readable room null
  | bool {room : Nat} (b : Bool) : Readable room (bool b)
  | int {room : Nat} {n : Int} (h : Numeral.Fits n) : Readable room (int n)
  | text {room : Nat} (t : Text) : Readable room (text t)
  | array {room : Nat} {items : List Json} (h : ∀ j ∈ items, Readable room j) :
    Readable (room + 1) (array items)
  | object {room : Nat} {members : List (Text × Json)} (h : ∀ m ∈ members, Readable room m.2) :
    Readable (room + 1) (object members)

/-- The items from the first of them on. -/
def itemsText (level : Nat) : List Json → List Char
  | [] => []
  | item :: items => print level item ++ printItems level items

/-- The members from the first of them on. -/
def membersText (level : Nat) : List (Text × Json) → List Char
  | [] => []
  | (key, value) :: members =>
    printText key ++ ':' :: ' ' :: print level value ++ printMembers level members

theorem print_array_cons (level : Nat) (item : Json) (items : List Json) :
    print level (array (item :: items)) =
      '[' :: (newline (level + 1) ++ (itemsText (level + 1) (item :: items) ++
        (newline level ++ [']']))) := by
  simp [print, itemsText]

theorem print_object_cons (level : Nat) (member : Text × Json) (members : List (Text × Json)) :
    print level (object (member :: members)) =
      '\x7b' :: (newline (level + 1) ++ (membersText (level + 1) (member :: members) ++
        (newline level ++ ['\x7d']))) := by
  obtain ⟨key, value⟩ := member
  simp [print, membersText]

theorem printItems_cons (level : Nat) (item : Json) (items : List Json) :
    printItems level (item :: items) =
      ',' :: (newline level ++ itemsText level (item :: items)) := by
  simp [printItems, itemsText]

theorem printMembers_cons (level : Nat) (member : Text × Json) (members : List (Text × Json)) :
    printMembers level (member :: members) =
      ',' :: (newline level ++ membersText level (member :: members)) := by
  obtain ⟨key, value⟩ := member
  simp [printMembers, membersText]

/-! ## What a printed part opens with -/

/-- The text opens with a character that is no gap and closes nothing. -/
def Opens (cs : List Char) : Prop :=
  ∃ c rest, cs = c :: rest ∧ isGap c = false ∧ c ≠ ']' ∧ c ≠ '\x7d'

theorem Opens.append {cs : List Char} (h : Opens cs) (rest : List Char) : Opens (cs ++ rest) := by
  obtain ⟨c, ds, rfl, hc⟩ := h
  exact ⟨c, ds ++ rest, rfl, hc⟩

theorem Opens.length_pos {cs : List Char} (h : Opens cs) : 0 < cs.length := by
  obtain ⟨c, ds, rfl, -⟩ := h
  exact Nat.succ_pos _

theorem opens_print {room : Nat} {j : Json} (h : j.Readable room) (level : Nat) :
    Opens (print level j) := by
  have hnumber : ∀ c ∈ numberChars, isGap c = false ∧ c ≠ ']' ∧ c ≠ '\x7d' :=
    forall_mem_numberChars (by decide)
  cases h with
  | null => exact ⟨'n', _, rfl, by decide⟩
  | bool b => cases b <;> exact ⟨_, _, rfl, by decide⟩
  | @int room n =>
    obtain ⟨c, cs, hcs⟩ := List.exists_cons_of_ne_nil (integerText_ne_nil n)
    exact ⟨c, cs, hcs, hnumber c (integerText_subset n (hcs ▸ List.mem_cons_self ..))⟩
  | text t => exact ⟨'"', _, rfl, by decide⟩
  | @array room items => cases items <;> exact ⟨'[', _, rfl, by decide⟩
  | @object room members => cases members <;> exact ⟨'\x7b', _, rfl, by decide⟩

theorem opens_printText (key : Text) : Opens (printText key) :=
  ⟨'"', _, rfl, by decide⟩

theorem opens_itemsText {room : Nat} {items : List Json} (hne : items ≠ [])
    (h : ∀ j ∈ items, j.Readable room) (level : Nat) : Opens (itemsText level items) := by
  obtain ⟨item, items, rfl⟩ := List.exists_cons_of_ne_nil hne
  exact (opens_print (h item (List.mem_cons_self ..)) level).append _

theorem opens_membersText {members : List (Text × Json)} (hne : members ≠ []) (level : Nat) :
    Opens (membersText level members) := by
  obtain ⟨member, members, rfl⟩ := List.exists_cons_of_ne_nil hne
  rw [membersText, List.append_assoc]
  exact (opens_printText member.1).append _

theorem skipGap_newline (level : Nat) {c : Char} (hc : isGap c = false) (rest : List Char) :
    skipGap (newline level ++ c :: rest) = c :: rest := by
  have hspaces : ∀ c ∈ newline level, isGap c = true := by
    intro c hc
    rcases List.mem_cons.mp hc with rfl | hc
    · rfl
    · rw [List.eq_of_mem_replicate hc]
      rfl
  rw [skipGap, List.dropWhile_append_of_pos hspaces, List.dropWhile_cons_of_neg (by simp [hc])]

theorem skipGap_cons {c : Char} (hc : isGap c = false) (rest : List Char) :
    skipGap (c :: rest) = c :: rest :=
  List.dropWhile_cons_of_neg (by simp [hc])

theorem Opens.skipGap_newline {cs : List Char} (h : Opens cs) (level : Nat) :
    skipGap (newline level ++ cs) = cs := by
  obtain ⟨c, ds, rfl, hc, -⟩ := h
  exact Json.skipGap_newline level hc ds

theorem Opens.skipGap_space {cs : List Char} (h : Opens cs) : skipGap (' ' :: cs) = cs := by
  obtain ⟨c, ds, rfl, hc, -⟩ := h
  exact (List.dropWhile_cons_of_pos rfl).trans (skipGap_cons hc ds)

/-! ## Steps of the reader -/

section Steps

variable {room fuel : Nat} {cs rest : List Char} (level : Nat)

theorem readValue_array {items : List Json} (hopens : Opens cs)
    (h : readItems room fuel cs = .ok (items, rest)) :
    readValue (room + 1) (fuel + 1) ('[' :: (newline level ++ cs)) = .ok (array items, rest) := by
  have hskip := hopens.skipGap_newline level
  obtain ⟨c, ds, rfl, -, hclose, -⟩ := hopens
  rw [readValue]
  simp only [Char.reduceEq, if_false, if_true, Nat.succ_ne_zero, Nat.add_sub_cancel, hskip]
  split
  · exact absurd (List.cons.inj ‹_›).1 hclose
  · rw [h]
    rfl

theorem readValue_object {members : List (Text × Json)} (hopens : Opens cs)
    (h : readMembers room fuel cs = .ok (members, rest)) :
    readValue (room + 1) (fuel + 1) ('\x7b' :: (newline level ++ cs)) =
      .ok (object (assemble members), rest) := by
  have hskip := hopens.skipGap_newline level
  obtain ⟨c, ds, rfl, -, -, hclose⟩ := hopens
  rw [readValue]
  simp only [Char.reduceEq, if_false, if_true, Nat.succ_ne_zero, Nat.add_sub_cancel, hskip]
  split
  · exact absurd (List.cons.inj ‹_›).1 hclose
  · rw [h]
    rfl

theorem readItems_last {item : Json}
    (hvalue : readValue room fuel cs = .ok (item, newline level ++ ']' :: rest)) :
    readItems room (fuel + 1) cs = .ok ([item], rest) := by
  rw [readItems, hvalue]
  simp only [skipGap_newline level (c := ']') rfl]

theorem readItems_comma {item : Json} {items : List Json} {more : List Char}
    (hvalue : readValue room fuel cs = .ok (item, ',' :: (newline level ++ more)))
    (hopens : Opens more) (h : readItems room fuel more = .ok (items, rest)) :
    readItems room (fuel + 1) cs = .ok (item :: items, rest) := by
  rw [readItems, hvalue]
  simp only [skipGap_cons (c := ',') rfl, hopens.skipGap_newline level, h]
  rfl

theorem readMembers_last {value : Json} (key : Text) (hopens : Opens cs)
    (hvalue : readValue room fuel cs = .ok (value, newline level ++ '\x7d' :: rest)) :
    readMembers room (fuel + 1) (printText key ++ ':' :: ' ' :: cs) =
      .ok ([(Text.rejoined key, value)], rest) := by
  rw [printText, List.cons_append, List.cons_append, List.append_assoc, List.singleton_append,
    readMembers]
  simp only [readText_printText, skipGap_cons (c := ':') rfl, hopens.skipGap_space, hvalue,
    skipGap_newline level (c := '\x7d') rfl]

theorem readMembers_comma {value : Json} {members : List (Text × Json)} {more : List Char}
    (key : Text) (hopens : Opens cs)
    (hvalue : readValue room fuel cs = .ok (value, ',' :: (newline level ++ more)))
    (hmore : Opens more) (h : readMembers room fuel more = .ok (members, rest)) :
    readMembers room (fuel + 1) (printText key ++ ':' :: ' ' :: cs) =
      .ok ((Text.rejoined key, value) :: members, rest) := by
  rw [printText, List.cons_append, List.cons_append, List.append_assoc, List.singleton_append,
    readMembers]
  simp only [readText_printText, skipGap_cons (c := ':') rfl, hopens.skipGap_space, hvalue,
    skipGap_cons (c := ',') rfl, hmore.skipGap_newline level, h]
  rfl

end Steps

/-! ## The round trip -/

theorem Readable.fits {room : Nat} {n : Int} (h : (Json.int n).Readable room) :
    Numeral.Fits n := by
  cases h
  assumption

theorem Readable.of_array {room : Nat} {items : List Json} (h : (Json.array items).Readable room) :
    ∃ inner, room = inner + 1 ∧ ∀ j ∈ items, j.Readable inner := by
  cases h with
  | array h => exact ⟨_, rfl, h⟩

theorem Readable.of_object {room : Nat} {members : List (Text × Json)}
    (h : (Json.object members).Readable room) :
    ∃ inner, room = inner + 1 ∧ ∀ m ∈ members, m.2.Readable inner := by
  cases h with
  | object h => exact ⟨_, rfl, h⟩

theorem delimits_cons {c : Char} (h : c = ',' ∨ c = '\n') (rest : List Char) :
    Delimits (c :: rest) := by
  rintro _ ⟨⟩
  exact h

theorem readValue_integerText {n : Int} (hn : Numeral.Fits n) (room fuel : Nat)
    {rest : List Char} (h : Delimits rest) :
    readValue room (fuel + 1) (integerText n ++ rest) = .ok (int n, rest) := by
  have hdigits : (Nat.toDigits 10 n.natAbs).length ≤ Numeral.maxDigits :=
    (Nat.length_toDigits_le_iff (by decide) (by decide)).mpr (Numeral.fits_iff.mp hn)
  have hopen : ∀ c ∈ numberChars, c ≠ '"' ∧ c ≠ '[' ∧ c ≠ '\x7b' :=
    forall_mem_numberChars (by decide)
  obtain ⟨c, cs, hcs⟩ := List.exists_cons_of_ne_nil (integerText_ne_nil n)
  obtain ⟨hquote, hbracket, hbrace⟩ := hopen c (integerText_subset n (hcs ▸ List.mem_cons_self ..))
  have hword := readWord?_integerText n rest
  have hnumber := readNumber_integerText hdigits h
  rw [hcs, List.cons_append] at hword hnumber ⊢
  rw [readValue, if_neg hquote, if_neg hbracket, if_neg hbrace, hword]
  exact hnumber

mutual

/-- A printed value is read back. -/
theorem readValue_print : ∀ (j : Json) {room : Nat} (level : Nat) {fuel : Nat} {rest : List Char},
    j.Readable room → 2 * (print level j).length ≤ fuel + 1 → Delimits rest →
      readValue room (fuel + 1) (print level j ++ rest) = .ok (j.rejoined, rest)
  | .null, _, _, _, _, _, _, _ => by
    simp [print, rejoined, readValue, readWord?, words, after?]
  | .bool b, _, _, _, _, _, _, _ => by
    cases b <;> simp [print, rejoined, readValue, readWord?, words, after?]
  | .int n, room, level, fuel, rest, h, _, hrest => by
    rw [print, rejoined]
    exact readValue_integerText h.fits room fuel hrest
  | .number x, _, _, _, _, h, _, _ => nomatch h
  | .text t, _, _, _, rest, _, _, _ => by
    rw [print, printText, List.cons_append, List.cons_append, List.append_assoc, readValue]
    simp only [if_true]
    rw [List.singleton_append, readText_printText, rejoined]
  | .array [], _, _, _, _, h, _, _ => by
    obtain ⟨inner, rfl, -⟩ := h.of_array
    simp [print, rejoined, rejoinedItems, readValue, skipGap, isGap]
  | .array (item :: items), _, level, fuel, rest, h, hfuel, _ => by
    obtain ⟨inner, rfl, hitems⟩ := h.of_array
    rw [print_array_cons] at hfuel ⊢
    simp only [List.length_cons, List.length_append] at hfuel
    simp only [List.cons_append, List.append_assoc, List.nil_append]
    have hopens := opens_itemsText (by simp) hitems (level + 1)
    exact readValue_array (level + 1) (hopens.append _)
      (readItems_print (item :: items) (level + 1) level (by simp) hitems (by omega))
  | .object [], _, _, _, _, h, _, _ => by
    obtain ⟨inner, rfl, -⟩ := h.of_object
    simp [print, rejoined, rejoinedMembers, assemble, readValue, skipGap, isGap]
  | .object (member :: members), _, level, fuel, rest, h, hfuel, _ => by
    obtain ⟨inner, rfl, hmembers⟩ := h.of_object
    rw [print_object_cons] at hfuel ⊢
    simp only [List.length_cons, List.length_append] at hfuel
    simp only [List.cons_append, List.append_assoc, List.nil_append]
    have hopens := opens_membersText (List.cons_ne_nil member members) (level + 1)
    exact readValue_object (level + 1) (hopens.append _)
      (readMembers_print (member :: members) (level + 1) level (by simp) hmembers (by omega))

theorem readItems_print : ∀ (items : List Json) {room : Nat} (level outer : Nat) {fuel : Nat}
    {rest : List Char}, items ≠ [] → (∀ j ∈ items, j.Readable room) →
      2 * (itemsText level items).length < fuel →
        readItems room fuel (itemsText level items ++ (newline outer ++ ']' :: rest)) =
          .ok (rejoinedItems items, rest)
  | [], _, _, _, _, _, hne, _, _ => absurd rfl hne
  | [item], room, level, outer, fuel, rest, _, h, hfuel => by
    have hitem := h item (List.mem_cons_self ..)
    have hpos := (opens_print hitem level).length_pos
    rw [itemsText, printItems, List.append_nil] at hfuel ⊢
    obtain ⟨fuel, rfl⟩ : ∃ k, fuel = k + 2 := ⟨fuel - 2, by omega⟩
    exact readItems_last outer
      (readValue_print item level hitem (by omega) (delimits_cons (Or.inr rfl) _))
  | item :: next :: items, room, level, outer, fuel, rest, _, h, hfuel => by
    have hitem := h item (List.mem_cons_self ..)
    have hitems : ∀ j ∈ next :: items, j.Readable room := fun j hj => h j (List.mem_cons_of_mem _ hj)
    have hpos := (opens_print hitem level).length_pos
    rw [itemsText, printItems_cons] at hfuel ⊢
    simp only [List.length_cons, List.length_append] at hfuel
    simp only [List.cons_append, List.append_assoc]
    obtain ⟨fuel, rfl⟩ : ∃ k, fuel = k + 2 := ⟨fuel - 2, by omega⟩
    have hopens := opens_itemsText (by simp) hitems level
    exact readItems_comma level
      (readValue_print item level hitem (by omega) (delimits_cons (Or.inl rfl) _))
      (hopens.append _) (readItems_print (next :: items) level outer (by simp) hitems (by omega))

theorem readMembers_print : ∀ (members : List (Text × Json)) {room : Nat} (level outer : Nat)
    {fuel : Nat} {rest : List Char}, members ≠ [] → (∀ m ∈ members, m.2.Readable room) →
      2 * (membersText level members).length < fuel →
        readMembers room fuel (membersText level members ++ (newline outer ++ '\x7d' :: rest)) =
          .ok (rejoinedMembers members, rest)
  | [], _, _, _, _, _, hne, _, _ => absurd rfl hne
  | [(key, value)], room, level, outer, fuel, rest, _, h, hfuel => by
    have hvalue : value.Readable room := h (key, value) (List.mem_cons_self ..)
    rw [membersText, printMembers, List.append_nil] at hfuel ⊢
    simp only [List.length_cons, List.length_append] at hfuel
    simp only [List.cons_append, List.append_assoc]
    obtain ⟨fuel, rfl⟩ : ∃ k, fuel = k + 2 := ⟨fuel - 2, by omega⟩
    exact readMembers_last outer key ((opens_print hvalue level).append _)
      (readValue_print value level hvalue (by omega) (delimits_cons (Or.inr rfl) _))
  | (key, value) :: next :: members, room, level, outer, fuel, rest, _, h, hfuel => by
    have hvalue : value.Readable room := h (key, value) (List.mem_cons_self ..)
    have hmembers : ∀ m ∈ next :: members, m.2.Readable room :=
      fun m hm => h m (List.mem_cons_of_mem _ hm)
    rw [membersText, printMembers_cons] at hfuel ⊢
    simp only [List.length_cons, List.length_append] at hfuel
    simp only [List.cons_append, List.append_assoc]
    obtain ⟨fuel, rfl⟩ : ∃ k, fuel = k + 2 := ⟨fuel - 2, by omega⟩
    have hopens := opens_membersText (List.cons_ne_nil next members) level
    exact readMembers_comma level key ((opens_print hvalue level).append _)
      (readValue_print value level hvalue (by omega) (delimits_cons (Or.inl rfl) _))
      (hopens.append _) (readMembers_print (next :: members) level outer (by simp) hmembers (by omega))

end

/-- **A printed value is read back**, with a line break behind it, up to halves of surrogate pairs that
meet and members with the same key. -/
theorem read_toText {j : Json} (h : j.Readable maxDepth) :
    read (j.toText ++ "\n") = .ok j.rejoined := by
  have hskip : skipGap (print 0 j ++ ['\n']) = print 0 j ++ ['\n'] := by
    obtain ⟨c, cs, hcs, hc, -⟩ := opens_print h 0
    rw [hcs]
    exact skipGap_cons hc _
  have hread : readValue maxDepth (2 * (print 0 j ++ ['\n']).length + 2) (print 0 j ++ ['\n']) =
      .ok (j.rejoined, ['\n']) :=
    readValue_print j 0 h (by rw [List.length_append]; omega) (delimits_cons (Or.inr rfl) [])
  have htext : (j.toText ++ "\n").toList = print 0 j ++ ['\n'] := by
    rw [toText, String.toList_append, String.toList_ofList]
    rfl
  rw [read, htext, readChars, hskip, hread]
  rfl

/-! ## What is printed is ASCII -/

/-- The characters are all ASCII. -/
def IsAscii (cs : List Char) : Prop :=
  ∀ c ∈ cs, c.toNat < 128

instance (cs : List Char) : Decidable (IsAscii cs) :=
  List.decidableBAll _ cs

@[simp]
theorem isAscii_nil : IsAscii [] :=
  List.forall_mem_nil _

@[simp]
theorem isAscii_cons {c : Char} {cs : List Char} :
    IsAscii (c :: cs) ↔ c.toNat < 128 ∧ IsAscii cs :=
  List.forall_mem_cons

@[simp]
theorem isAscii_append {cs ds : List Char} : IsAscii (cs ++ ds) ↔ IsAscii cs ∧ IsAscii ds :=
  List.forall_mem_append

theorem isAscii_of_subset {cs : List Char} (h : cs ⊆ numberChars) : IsAscii cs := fun c hc =>
  forall_mem_numberChars (P := fun c => c.toNat < 128) (by decide) c (h hc)

theorem isAscii_unitEscape {n : Nat} (h : n < 0x10000) : IsAscii (unitEscape n) := by
  have hdigit : ∀ d < 16, (Nat.digitChar d).toNat < 128 := by decide
  rw [unitEscape, Text.hex_four h]
  simp only [isAscii_cons, isAscii_nil, and_true]
  exact ⟨by decide, by decide, hdigit _ (by omega), hdigit _ (by omega), hdigit _ (by omega),
    hdigit _ (by omega)⟩

theorem isAscii_printChar (c : Char) : IsAscii (printChar c) := by
  have hrange := Rune.toNat_cases c
  unfold printChar
  split_ifs with hquote hline hreturn htab hback hfeed hplain hunit
  · rcases hquote with rfl | rfl <;> simp
  · simp
  · simp
  · simp
  · simp
  · simp
  · rw [Text.isPlainChar, Bool.and_eq_true, decide_eq_true_iff, decide_eq_true_iff] at hplain
    simp only [isAscii_cons, isAscii_nil, and_true]
    omega
  · exact isAscii_unitEscape hunit
  · exact isAscii_append.mpr ⟨isAscii_unitEscape (by omega), isAscii_unitEscape (by omega)⟩

theorem isAscii_printText (t : Text) : IsAscii (printText t) := by
  have hrune : ∀ r : Rune, IsAscii (printRune r) := by
    intro r
    cases r with
    | char c => exact isAscii_printChar c
    | half n =>
      have hn := n.isLt
      exact isAscii_unitEscape (by rw [Rune.code]; omega)
  have hrunes : IsAscii (t.flatMap printRune) := fun c hc => by
    obtain ⟨r, -, hr⟩ := List.mem_flatMap.mp hc
    exact hrune r c hr
  simp [printText, hrunes]

theorem isAscii_newline (level : Nat) : IsAscii (newline level) := by
  rw [newline, isAscii_cons]
  refine ⟨by decide, fun c hc => ?_⟩
  rw [List.eq_of_mem_replicate hc]
  decide

theorem isAscii_printNumber (x : Double) : IsAscii (printNumber x) := by
  cases x with
  | nan => decide
  | infinite negative => cases negative <;> decide
  | finite negative m =>
    exact isAscii_of_subset (Layout.finiteText_subset (by decide) shortestDouble negative m)

mutual

/-- Every value is printed in ASCII. -/
theorem isAscii_print (level : Nat) : ∀ j : Json, IsAscii (print level j)
  | .null => by rw [print]; decide
  | .bool b => by cases b <;> (rw [print]; decide)
  | .int n => by
    rw [print]
    exact isAscii_of_subset (integerText_subset n)
  | .number x => by
    rw [print]
    exact isAscii_printNumber x
  | .text t => by
    rw [print]
    exact isAscii_printText t
  | .array [] => by rw [print]; decide
  | .array (item :: items) => by
    rw [print_array_cons, itemsText]
    simp [isAscii_newline, isAscii_print (level + 1) item, isAscii_printItems (level + 1) items]
  | .object [] => by rw [print]; decide
  | .object ((key, value) :: members) => by
    rw [print_object_cons, membersText]
    simp [isAscii_newline, isAscii_printText, isAscii_print (level + 1) value,
      isAscii_printMembers (level + 1) members]

theorem isAscii_printItems (level : Nat) : ∀ items : List Json, IsAscii (printItems level items)
  | [] => by rw [printItems]; exact isAscii_nil
  | item :: items => by
    rw [printItems_cons, itemsText]
    simp [isAscii_newline, isAscii_print level item, isAscii_printItems level items]

theorem isAscii_printMembers (level : Nat) :
    ∀ members : List (Text × Json), IsAscii (printMembers level members)
  | [] => by rw [printMembers]; exact isAscii_nil
  | (key, value) :: members => by
    rw [printMembers_cons, membersText]
    simp [isAscii_newline, isAscii_printText, isAscii_print level value,
      isAscii_printMembers level members]

end

/-- **Every value is printed in ASCII.** -/
theorem isAscii_toText (j : Json) : IsAscii j.toText.toList := by
  rw [toText, String.toList_ofList]
  exact isAscii_print 0 j

end Json

end FieldCode
