import FieldCode.Proofs.Number.Base
import FieldCode.Text.Escape
import Mathlib.Data.List.TakeWhile

/-!
# Texts with escapes, segment by segment

A text with escapes is cut into segments from left to right: a character that is no backslash is a
segment, and a backslash makes one with what belongs to it, be it digits, a letter with digits, or
any other character (`segments`).  Nothing is lost (`flatMap_chars_segments`), and a segment says by
itself which code points it stands for and whether it is refused.

The reader goes over the UTF-8 bytes of the text and knows no characters.  It comes to the same
segments: the characters that escapes are made of are ASCII and have one byte each, and every byte
of another character is too large for a backslash or a digit (`le_of_mem_utf8EncodeChar`).

* `readEscapes_opened`: how one escape is read, whatever stands behind it.
* `readEscapes_segments`: what the reader of escapes makes of the segments.
* `readBytes_of_forall_not_isRefused`, `readBytes_of_isRefused`: the bytes that a text stands for.
-/

namespace FieldCode.Text

/-! ## Bytes of characters -/

/-- The UTF-8 bytes of characters. -/
def encoded (cs : List Char) : List UInt8 :=
  cs.flatMap String.utf8EncodeChar

theorem encoded_cons (c : Char) (cs : List Char) :
    encoded (c :: cs) = String.utf8EncodeChar c ++ encoded cs :=
  List.flatMap_cons

theorem utf8EncodeChar_of_lt {c : Char} (h : c.toNat < 128) :
    String.utf8EncodeChar c = [UInt8.ofNat c.toNat] := by
  have hc : c.val.toNat ≤ 127 := Nat.le_of_lt_succ h
  unfold String.utf8EncodeChar
  exact if_pos hc

theorem encoded_cons_of_lt {c : Char} (h : c.toNat < 128) (cs : List Char) :
    encoded (c :: cs) = UInt8.ofNat c.toNat :: encoded cs := by
  rw [encoded_cons, utf8EncodeChar_of_lt h, List.singleton_append]

theorem toNat_ofNat_eq_iff {c d : Char} (h : c.toNat < 128) :
    (UInt8.ofNat c.toNat).toNat = d.toNat ↔ c = d := by
  rw [UInt8.toNat_ofNat_of_lt' (Nat.lt_trans h (by decide))]
  exact ⟨fun hd => Char.ext (UInt32.toNat_inj.mp hd), congrArg Char.toNat⟩

theorem le_of_mem_utf8EncodeChar {c : Char} (h : 128 ≤ c.toNat) :
    ∀ b ∈ String.utf8EncodeChar c, 128 ≤ b.toNat := by
  have hc : ¬ c.val.toNat ≤ 127 := Nat.not_le.mpr h
  have hbyte : ∀ b ∈ String.utf8EncodeChar c, ∃ n, b = UInt8.ofNat n ∧ 128 ≤ n ∧ n < 256 := by
    intro b
    unfold String.utf8EncodeChar
    dsimp only
    rw [if_neg hc]
    split
    · simp only [List.mem_cons, List.not_mem_nil, or_false]
      rintro (rfl | rfl) <;> exact ⟨_, rfl, by omega, by omega⟩
    · split
      · simp only [List.mem_cons, List.not_mem_nil, or_false]
        rintro (rfl | rfl | rfl) <;> exact ⟨_, rfl, by omega, by omega⟩
      · simp only [List.mem_cons, List.not_mem_nil, or_false]
        rintro (rfl | rfl | rfl | rfl) <;> exact ⟨_, rfl, by omega, by omega⟩
  intro b hb
  obtain ⟨n, rfl, hlow, hhigh⟩ := hbyte b hb
  rw [UInt8.toNat_ofNat']
  omega

theorem exists_utf8EncodeChar_eq {c : Char} (h : 128 ≤ c.toNat) :
    ∃ b bs, String.utf8EncodeChar c = b :: bs ∧ 128 ≤ b.toNat := by
  obtain ⟨b, bs, hbs⟩ := List.exists_cons_of_ne_nil (l := String.utf8EncodeChar c) (by
    rw [Ne, ← List.length_eq_zero_iff, String.length_utf8EncodeChar]
    exact Nat.ne_of_gt c.utf8Size_pos)
  exact ⟨b, bs, hbs, le_of_mem_utf8EncodeChar h b (hbs ▸ List.mem_cons_self ..)⟩

theorem drop_encoded {ds : List Char} (h : ∀ d ∈ ds, d.toNat < 128) (cs : List Char) :
    (encoded (ds ++ cs)).drop ds.length = encoded cs := by
  induction ds with
  | nil => rfl
  | cons d ds ih =>
    obtain ⟨hd, hds⟩ := List.forall_mem_cons.mp h
    rw [List.cons_append, encoded_cons_of_lt hd]
    exact ih hds

/-! ## Segments -/

/-- The letter of an escape by hexadecimal digits. -/
def HexEscape.letter : HexEscape → Char
  | two => 'x'
  | four => 'u'
  | eight => 'U'

/-- The escape by hexadecimal digits that has the letter. -/
def HexEscape.ofLetter? (c : Char) : Option HexEscape :=
  [two, four, eight].find? fun escape => escape.letter == c

/-- The escapes of one character, with the byte that each stands for. -/
def shortEscapes : List (Char × UInt8) :=
  [('n', 10), ('r', 13), ('t', 9), ('a', 7), ('b', 8), ('f', 12), ('v', 11), ('\\', 92), ('\'', 39),
    ('"', 34)]

/-- A segment of a text with escapes. -/
inductive Segment where
  /-- A character that is no backslash. -/
  | plain (c : Char)
  /-- A backslash at the end of the text. -/
  | lone
  /-- A backslash and up to three octal digits. -/
  | octal (ds : List Char)
  /-- A backslash, a letter, and as many of the hexadecimal digits as the letter asks for. -/
  | hexadecimal (escape : HexEscape) (ds : List Char)
  /-- A backslash and any other character. -/
  | single (c : Char)
  deriving DecidableEq, Repr

namespace Segment

/-- What stands behind the backslash. -/
def behind : Segment → List Char
  | plain _ => []
  | lone => []
  | octal ds => ds
  | hexadecimal escape ds => escape.letter :: ds
  | single c => [c]

/-- The characters of a segment. -/
def chars : Segment → List Char
  | plain c => [c]
  | s => '\\' :: s.behind

/-- The code points that a segment stands for.  An escape that nobody knows stands for itself, and
one of a line feed for nothing. -/
def codePoints : Segment → List Nat
  | plain c => (String.utf8EncodeChar c).map UInt8.toNat
  | lone => []
  | octal ds => (Base.octal.number? ds).toList
  | hexadecimal _ ds => (Base.hexadecimal.number? ds).toList
  | single c =>
    match shortEscapes.lookup c with
    | some b => [b.toNat]
    | none => if c = '\n' then [] else 92 :: (String.utf8EncodeChar c).map UInt8.toNat

/-- The bytes that a segment stands for. -/
def bytes (s : Segment) : List UInt8 :=
  s.codePoints.map UInt8.ofNat

/-- The segment is a lone backslash, lacks digits, or stands for a number beyond bytes. -/
def IsRefused : Segment → Prop
  | plain _ => False
  | lone => True
  | octal ds => ∃ n ∈ Base.octal.number? ds, 255 < n
  | hexadecimal escape ds =>
    ds.length < escape.width ∨ ∃ n ∈ Base.hexadecimal.number? ds, 255 < n
  | single _ => False

/-- The segment is refused before its code points are known: it is a lone backslash, lacks digits,
or stands for a number beyond code points. -/
def IsUnreadable : Segment → Prop
  | plain _ => False
  | lone => True
  | octal _ => False
  | hexadecimal escape ds =>
    ds.length < escape.width ∨ ∃ n ∈ Base.hexadecimal.number? ds, 0x10ffff < n
  | single _ => False

end Segment

/-- The segment that a backslash in front of a text makes with it. -/
def opened : List Char → Segment
  | [] => .lone
  | c :: cs =>
    if Base.octal.isDigit c then .octal (((c :: cs).take 3).takeWhile Base.octal.isDigit)
    else
      match HexEscape.ofLetter? c with
      | some escape =>
        .hexadecimal escape ((cs.take escape.width).takeWhile Base.hexadecimal.isDigit)
      | none => .single c

/-- The segments of a text, from left to right. -/
def segments : List Char → List Segment
  | [] => []
  | c :: cs =>
    if c = '\\' then opened cs :: segments (cs.drop (opened cs).behind.length)
    else .plain c :: segments cs
termination_by cs => cs.length
decreasing_by all_goals (simp only [List.length_drop, List.length_cons]; omega)

theorem HexEscape.letter_of_ofLetter? {c : Char} {escape : HexEscape}
    (h : HexEscape.ofLetter? c = some escape) : escape.letter = c := by
  have hfound := List.find?_some h
  exact beq_iff_eq.mp hfound

theorem HexEscape.toNat_letter_lt (escape : HexEscape) : escape.letter.toNat < 128 := by
  cases escape <;> decide

/-- The character behind a backslash decides on what the backslash opens. -/
theorem opened_cons_cases (c : Char) (cs : List Char) :
    Base.octal.isDigit c = true ∧
        opened (c :: cs) = .octal (((c :: cs).take 3).takeWhile Base.octal.isDigit) ∨
      Base.octal.digit? c = none ∧
        ((∃ escape, HexEscape.ofLetter? c = some escape ∧ opened (c :: cs) =
            .hexadecimal escape ((cs.take escape.width).takeWhile Base.hexadecimal.isDigit)) ∨
          HexEscape.ofLetter? c = none ∧ opened (c :: cs) = .single c) := by
  rw [opened, Base.isDigit]
  cases hdigit : Base.octal.digit? c with
  | some d => exact .inl ⟨rfl, if_pos rfl⟩
  | none =>
    refine .inr ⟨rfl, ?_⟩
    rw [if_neg (by decide)]
    cases hletter : HexEscape.ofLetter? c with
    | some escape => exact .inl ⟨escape, rfl, rfl⟩
    | none => exact .inr ⟨rfl, rfl⟩

theorem behind_opened_prefix_text (cs : List Char) : (opened cs).behind <+: cs := by
  have hrun : ∀ (n : Nat) (p : Char → Bool) (cs : List Char), (cs.take n).takeWhile p <+: cs :=
    fun n p cs => (List.takeWhile_prefix p).trans (List.take_prefix n cs)
  cases cs with
  | nil => exact List.prefix_rfl
  | cons c cs =>
    obtain ⟨-, hopened⟩ | ⟨-, ⟨escape, hletter, hopened⟩ | ⟨-, hopened⟩⟩ := opened_cons_cases c cs
    · exact hopened ▸ hrun 3 _ _
    · rw [hopened, Segment.behind, HexEscape.letter_of_ofLetter? hletter]
      exact List.cons_prefix_cons.mpr ⟨rfl, hrun _ _ _⟩
    · exact hopened ▸ List.cons_prefix_cons.mpr ⟨rfl, List.nil_prefix⟩

theorem behind_opened_append (cs : List Char) :
    (opened cs).behind ++ cs.drop (opened cs).behind.length = cs :=
  List.prefix_iff_eq_append.mp (behind_opened_prefix_text cs)

theorem chars_opened (cs : List Char) : (opened cs).chars = '\\' :: (opened cs).behind := by
  cases cs with
  | nil => rfl
  | cons c cs =>
    obtain ⟨-, hopened⟩ | ⟨-, ⟨escape, -, hopened⟩ | ⟨-, hopened⟩⟩ := opened_cons_cases c cs <;>
      exact hopened ▸ rfl

theorem flatMap_chars_segments (cs : List Char) : (segments cs).flatMap Segment.chars = cs := by
  fun_induction segments cs with
  | case1 => rfl
  | case2 cs ih =>
    rw [List.flatMap_cons, ih, chars_opened, List.cons_append, behind_opened_append]
  | case3 c cs hc ih => rw [List.flatMap_cons, ih]; rfl

/-! ## Digits among bytes -/

/-- Where digits of a base are told by one byte, the digits at the front of the bytes are those at
the front of the text. -/
theorem digitsUpTo_encoded {b : Base} {digit? : UInt8 → Option Nat}
    (hascii : ∀ c : Char, c.toNat < 128 → digit? (UInt8.ofNat c.toNat) = b.digit? c)
    (hbeyond : ∀ x : UInt8, 128 ≤ x.toNat → digit? x = none) (n : Nat) (cs : List Char) :
    digitsUpTo digit? n (encoded cs) = ((cs.take n).takeWhile b.isDigit).filterMap b.digit? := by
  induction n generalizing cs with
  | zero => rfl
  | succ n ih =>
    cases cs with
    | nil => rfl
    | cons c cs =>
      rw [List.take_succ_cons]
      by_cases hc : c.toNat < 128
      · rw [encoded_cons_of_lt hc, digitsUpTo, hascii c hc]
        cases hd : b.digit? c with
        | none => rw [List.takeWhile_cons_of_neg (by simp [Base.isDigit, hd])]; rfl
        | some d =>
          rw [List.takeWhile_cons_of_pos (by simp [Base.isDigit, hd]), List.filterMap_cons_some hd]
          exact congrArg _ (ih cs)
      · obtain ⟨x, xs, hbytes, hx⟩ := exists_utf8EncodeChar_eq (Nat.not_lt.mp hc)
        have hd : b.digit? c = none := Base.digit?_eq_none (Nat.not_lt.mp hc)
        rw [encoded_cons, hbytes, List.cons_append, digitsUpTo, hbeyond x hx,
          List.takeWhile_cons_of_neg (by simp [Base.isDigit, hd])]
        rfl

/-- What the first byte of a character says of an escape, the character says. -/
theorem firstByte_ascii {c : Char} (h : c.toNat < 128) :
    octalDigit? (UInt8.ofNat c.toNat) = Base.octal.digit? c ∧
      hexDigit? (UInt8.ofNat c.toNat) = Base.hexadecimal.digit? c ∧
        namedEscape? (UInt8.ofNat c.toNat) = shortEscapes.lookup c ∧
          hexEscape? (UInt8.ofNat c.toNat) = HexEscape.ofLetter? c := by
  have htable : ∀ n < 128, octalDigit? (UInt8.ofNat n) = Base.octal.digit? (Char.ofNat n) ∧
      hexDigit? (UInt8.ofNat n) = Base.hexadecimal.digit? (Char.ofNat n) ∧
        namedEscape? (UInt8.ofNat n) = shortEscapes.lookup (Char.ofNat n) ∧
          hexEscape? (UInt8.ofNat n) = HexEscape.ofLetter? (Char.ofNat n) := by
    decide +kernel
  have hc := htable c.toNat h
  rwa [Char.ofNat_toNat] at hc

theorem firstByte_beyond {b : UInt8} (h : 128 ≤ b.toNat) :
    octalDigit? b = none ∧ hexDigit? b = none ∧ namedEscape? b = none ∧ hexEscape? b = none := by
  refine ⟨?_, ?_, ?_, ?_⟩
  · exact if_neg (by omega)
  · unfold hexDigit?
    dsimp only
    rw [if_neg (by omega), if_neg (by omega), if_neg (by omega)]
  · unfold namedEscape?
    split <;> first | omega | rfl
  · unfold hexEscape?
    split <;> first | omega | rfl

/-! ## Reading escapes -/

/-- What is written is read of some bytes, and what follows it is what is read of the rest. -/
def PassesTo (place : Nat) (bs : List UInt8) (written : List Nat) (rest : List UInt8) : Prop :=
  ∃ place', readEscapes place bs = (readEscapes place' rest).map (written ++ ·)

section Reading

variable {place : Nat} {bs rest : List UInt8} {written : List Nat}

theorem PassesTo.trans {mid : List UInt8} {written' : List Nat} (h : PassesTo place bs written mid)
    (h' : ∀ place, PassesTo place mid written' rest) :
    PassesTo place bs (written ++ written') rest := by
  obtain ⟨place', hread⟩ := h
  obtain ⟨place'', hread'⟩ := h' place'
  refine ⟨place'', ?_⟩
  rw [hread, hread']
  cases readEscapes place'' rest with
  | error => rfl
  | ok ns => exact congrArg Except.ok (List.append_assoc written written' ns).symm

theorem PassesTo.ok {ns : List Nat} (h : PassesTo place bs written rest)
    (hrest : ∀ place, readEscapes place rest = .ok ns) :
    readEscapes place bs = .ok (written ++ ns) := by
  obtain ⟨place', hread⟩ := h
  rw [hread, hrest]
  rfl

theorem PassesTo.error (h : PassesTo place bs written rest)
    (hrest : ∀ place, ∃ fault, readEscapes place rest = .error fault) :
    ∃ fault, readEscapes place bs = .error fault := by
  obtain ⟨place', hread⟩ := h
  obtain ⟨fault, hfault⟩ := hrest place'
  exact ⟨fault, by rw [hread, hfault]; rfl⟩

/-- Bytes that are no backslashes are read as their numbers. -/
theorem passesTo_plain (h : ∀ b ∈ bs, b.toNat ≠ 92) :
    PassesTo place (bs ++ rest) (bs.map UInt8.toNat) rest := by
  induction bs generalizing place with
  | nil =>
    refine ⟨place, ?_⟩
    rw [List.nil_append]
    cases readEscapes place rest <;> rfl
  | cons b bs ih =>
    obtain ⟨hb, hbs⟩ := List.forall_mem_cons.mp h
    have hone : PassesTo place (b :: (bs ++ rest)) [b.toNat] (bs ++ rest) :=
      ⟨place + 1, by rw [readEscapes, if_neg hb]; rfl⟩
    exact hone.trans fun _ => ih hbs

theorem passesTo_of_readEscape {n : Nat} (h : readEscape place bs = .ok (written, n)) :
    PassesTo place (92 :: bs) written (bs.drop n) :=
  ⟨place + 1 + n, by rw [readEscapes, if_pos (by decide), h]⟩

theorem readEscapes_of_readEscape {fault : EscapeFault} (h : readEscape place bs = .error fault) :
    readEscapes place (92 :: bs) = .error fault := by
  rw [readEscapes, if_pos (by decide), h]

end Reading

section Opened

variable {c : Char} {cs : List Char} {place : Nat}

theorem toNat_lt_of_isDigit {b : Base} (h : b.isDigit c = true) : c.toNat < 128 := by
  obtain ⟨d, hd⟩ := Option.isSome_iff_exists.mp h
  exact Base.forall_of_digit? (P := fun c => c.toNat < 128) (by decide) hd

/-- The characters that stand behind a backslash by themselves are ASCII. -/
theorem lookup_shortEscapes_beyond (h : 128 ≤ c.toNat) : shortEscapes.lookup c = none := by
  have hascii : ∀ p ∈ shortEscapes, p.1.toNat < 128 := by decide
  rw [List.lookup_eq_none_iff]
  intro p hp
  have hlt := hascii p hp
  exact bne_iff_ne.mpr fun heq => by rw [heq] at h; omega

/-- The bytes of digits at the front of a text are read as their number. -/
theorem numberOf_digitsUpTo {b : Base} {digit? : UInt8 → Option Nat}
    (hascii : ∀ c : Char, c.toNat < 128 → digit? (UInt8.ofNat c.toNat) = b.digit? c)
    (hbeyond : ∀ x : UInt8, 128 ≤ x.toNat → digit? x = none) (n : Nat) (cs : List Char) :
    b.number? ((cs.take n).takeWhile b.isDigit) =
        some (numberOf b.size (digitsUpTo digit? n (encoded cs))) ∧
      (digitsUpTo digit? n (encoded cs)).length = ((cs.take n).takeWhile b.isDigit).length := by
  rw [digitsUpTo_encoded hascii hbeyond]
  exact Base.number?_of_isDigit fun d hd => List.mem_takeWhile_imp hd

theorem readEscape_octal (h : Base.octal.isDigit c = true) :
    let s := Segment.octal (((c :: cs).take 3).takeWhile Base.octal.isDigit)
    readEscape place (encoded (c :: cs)) = .ok (s.codePoints, s.behind.length) := by
  obtain ⟨d, hd⟩ := Option.isSome_iff_exists.mp h
  obtain ⟨hoctal, -, hnamed, -⟩ := firstByte_ascii (toNat_lt_of_isDigit h)
  have hnone : shortEscapes.lookup c = none :=
    Base.forall_of_digit? (P := fun c => Base.octal.isDigit c = true → shortEscapes.lookup c = none)
      (by decide) hd h
  obtain ⟨hnumber, hlength⟩ := numberOf_digitsUpTo (b := .octal)
    (fun c hc => (firstByte_ascii hc).1) (fun x hx => (firstByte_beyond hx).1) 3 (c :: cs)
  dsimp only
  rw [Segment.codePoints, Segment.behind, hnumber, ← hlength,
    encoded_cons_of_lt (toNat_lt_of_isDigit h), readEscape, hnamed.trans hnone, hoctal.trans hd]
  rfl

/-- Too few hexadecimal digits behind a letter are refused, a number beyond code points as well, and
other digits are read as their number. -/
theorem readHex_encoded (place : Nat) (escape : HexEscape) (cs : List Char) :
    let s := Segment.hexadecimal escape ((cs.take escape.width).takeWhile Base.hexadecimal.isDigit)
    (s.IsUnreadable → ∃ fault, readHex place escape (encoded cs) = .error fault) ∧
      (¬ s.IsUnreadable →
        readHex place escape (encoded cs) = .ok (s.codePoints, s.behind.length)) := by
  obtain ⟨hnumber, hlength⟩ := numberOf_digitsUpTo (b := .hexadecimal)
    (fun c hc => (firstByte_ascii hc).2.1) (fun x hx => (firstByte_beyond hx).2.1) escape.width cs
  have hmost : ((cs.take escape.width).takeWhile Base.hexadecimal.isDigit).length ≤ escape.width :=
    (List.takeWhile_prefix _).length_le.trans (List.length_take_le ..)
  simp only [Segment.IsUnreadable, Segment.codePoints, Segment.behind, hnumber, readHex,
    List.length_cons, hlength, Option.mem_def, Option.some.injEq, exists_eq_left',
    Option.toList_some]
  split
  case isTrue hshort => exact ⟨fun _ => ⟨_, rfl⟩, fun h => absurd (.inl hshort) h⟩
  case isFalse hshort =>
    split
    case isTrue hlarge => exact ⟨fun _ => ⟨_, rfl⟩, fun h => absurd (.inr hlarge) h⟩
    case isFalse hlarge =>
      refine ⟨fun h => absurd h (not_or.mpr ⟨hshort, hlarge⟩), fun _ => ?_⟩
      rw [Nat.le_antisymm hmost (Nat.not_lt.mp hshort), Nat.add_comm]
      rfl

theorem readEscape_hexadecimal {escape : HexEscape} (hoctal : Base.octal.digit? c = none)
    (hletter : HexEscape.ofLetter? c = some escape) :
    readEscape place (encoded (c :: cs)) = readHex place escape (encoded cs) := by
  have hnone : ∀ escape : HexEscape, shortEscapes.lookup escape.letter = none := by
    intro escape
    cases escape <;> decide
  obtain rfl := HexEscape.letter_of_ofLetter? hletter
  have hascii := escape.toNat_letter_lt
  obtain ⟨hdigit, -, hnamed, hhex⟩ := firstByte_ascii hascii
  rw [encoded_cons_of_lt hascii, readEscape, hnamed.trans (hnone escape), hdigit.trans hoctal,
    hhex.trans hletter]

/-- Any other ASCII character behind a backslash is read with it, unless it asks for a name. -/
theorem readEscape_single (hascii : c.toNat < 128) (hoctal : Base.octal.digit? c = none)
    (hletter : HexEscape.ofLetter? c = none) (hname : c ≠ 'N') :
    readEscape place (encoded (c :: cs)) = .ok ((Segment.single c).codePoints, 1) := by
  have hfeed : (UInt8.ofNat c.toNat).toNat = 10 ↔ c = '\n' :=
    toNat_ofNat_eq_iff (d := '\n') hascii
  have hother : (UInt8.ofNat c.toNat).toNat ≠ 78 :=
    fun h => hname ((toNat_ofNat_eq_iff (d := 'N') hascii).mp h)
  obtain ⟨hdigit, -, hnamed, hhex⟩ := firstByte_ascii hascii
  rw [Segment.codePoints, encoded_cons_of_lt hascii, utf8EncodeChar_of_lt hascii, readEscape,
    hnamed, hdigit.trans hoctal, hhex.trans hletter]
  cases shortEscapes.lookup c with
  | some b => rfl
  | none =>
    dsimp only
    rw [if_neg hother]
    by_cases hc : c = '\n'
    · rw [if_pos hc, if_pos (hfeed.mpr hc)]
    · rw [if_neg hc, if_neg (hfeed.not.mpr hc), List.map_singleton]

/-- A backslash in front of a character beyond ASCII stands for itself, and so does the character:
its first byte is read with the backslash, and its other bytes are plain. -/
theorem passesTo_single_beyond (h : 128 ≤ c.toNat) :
    PassesTo place (92 :: encoded (c :: cs)) (Segment.single c).codePoints (encoded cs) := by
  obtain ⟨b, bs, hbytes, hb⟩ := exists_utf8EncodeChar_eq h
  obtain ⟨hdigit, -, hnamed, hhex⟩ := firstByte_beyond hb
  have hfeed : c ≠ '\n' := fun hc => by rw [hc] at h; exact absurd h (by decide)
  rw [Segment.codePoints, encoded_cons, lookup_shortEscapes_beyond h, hbytes]
  dsimp only
  rw [if_neg hfeed]
  have hfirst : PassesTo place (92 :: (b :: bs ++ encoded cs)) [92, b.toNat] (bs ++ encoded cs) :=
    passesTo_of_readEscape (n := 1) (by
      rw [List.cons_append, readEscape, hdigit, hnamed, hhex]
      dsimp only
      rw [if_neg (by omega), if_neg (by omega)])
  refine hfirst.trans fun _ => passesTo_plain fun x hx => ?_
  have hx' := le_of_mem_utf8EncodeChar h x (hbytes ▸ List.mem_cons_of_mem b hx)
  omega

end Opened

/-- A backslash is read with what it takes, unless that asks for a name. -/
theorem readEscapes_opened {cs : List Char} (place : Nat) (hname : opened cs ≠ .single 'N') :
    ((opened cs).IsUnreadable →
        ∃ fault, readEscapes place (92 :: encoded cs) = .error fault) ∧
      (¬ (opened cs).IsUnreadable → PassesTo place (92 :: encoded cs) (opened cs).codePoints
        (encoded (cs.drop (opened cs).behind.length))) := by
  -- What a backslash takes is one byte for each character, if these are ASCII.
  have hdrop : (∀ d ∈ (opened cs).behind, d.toNat < 128) →
      (encoded cs).drop (opened cs).behind.length =
        encoded (cs.drop (opened cs).behind.length) := fun h => by
    have hdrop := drop_encoded h (cs.drop (opened cs).behind.length)
    rwa [behind_opened_append] at hdrop
  have hrun : ∀ (b : Base) (cs : List Char), ∀ d ∈ cs.takeWhile b.isDigit, d.toNat < 128 :=
    fun b cs d hd => toNat_lt_of_isDigit (List.mem_takeWhile_imp hd)
  cases cs with
  | nil => exact ⟨fun _ => ⟨_, readEscapes_of_readEscape rfl⟩, fun h => absurd trivial h⟩
  | cons c cs =>
    obtain ⟨hdigit, hopened⟩ | ⟨hdigit, ⟨escape, hletter, hopened⟩ | ⟨hletter, hopened⟩⟩ :=
      opened_cons_cases c cs
    · rw [hopened] at hdrop ⊢
      refine ⟨fun h => absurd h not_false, fun _ => ?_⟩
      rw [← hdrop (hrun _ _)]
      exact passesTo_of_readEscape (readEscape_octal hdigit)
    · obtain ⟨hrefused, hread⟩ := readHex_encoded place escape cs
      rw [← readEscape_hexadecimal hdigit hletter, ← hopened] at hrefused hread
      refine ⟨fun h => (hrefused h).imp fun _ => readEscapes_of_readEscape, fun h => ?_⟩
      rw [← hdrop]
      · exact passesTo_of_readEscape (hread h)
      · rw [hopened]
        exact List.forall_mem_cons.mpr ⟨escape.toNat_letter_lt, hrun _ _⟩
    · rw [hopened] at hname hdrop ⊢
      refine ⟨fun h => absurd h not_false, fun _ => ?_⟩
      by_cases hascii : c.toNat < 128
      · rw [← hdrop (List.forall_mem_singleton.mpr hascii)]
        exact passesTo_of_readEscape
          (readEscape_single hascii hdigit hletter fun h => hname (congrArg _ h))
      · exact passesTo_single_beyond (Nat.not_lt.mp hascii)

theorem passesTo_char {c : Char} (hc : c ≠ '\\') (cs : List Char) (place : Nat) :
    PassesTo place (encoded (c :: cs)) (Segment.plain c).codePoints (encoded cs) := by
  rw [encoded_cons]
  refine passesTo_plain fun b hb hslash => ?_
  by_cases hascii : c.toNat < 128
  · rw [utf8EncodeChar_of_lt hascii, List.mem_singleton] at hb
    rw [hb] at hslash
    exact hc ((toNat_ofNat_eq_iff (d := '\\') hascii).mp hslash)
  · have hbeyond := le_of_mem_utf8EncodeChar (Nat.not_lt.mp hascii) b hb
    omega

/-- A text of which every segment can be read is read segment by segment. -/
theorem readEscapes_segments {cs : List Char} (hname : .single 'N' ∉ segments cs)
    (h : ∀ s ∈ segments cs, ¬ s.IsUnreadable) (place : Nat) :
    readEscapes place (encoded cs) = .ok ((segments cs).flatMap Segment.codePoints) := by
  fun_induction segments cs generalizing place with
  | case1 => exact readEscapes.eq_1 place
  | case2 cs ih =>
    obtain ⟨hfirst, hrest⟩ := List.forall_mem_cons.mp h
    have hread := (readEscapes_opened place (List.ne_of_not_mem_cons hname).symm).2 hfirst
    exact hread.ok (ih (List.not_mem_of_not_mem_cons hname) hrest)
  | case3 c cs hc ih =>
    obtain ⟨-, hrest⟩ := List.forall_mem_cons.mp h
    exact (passesTo_char hc cs place).ok (ih (List.not_mem_of_not_mem_cons hname) hrest)

/-- A text with a segment that cannot be read is refused. -/
theorem readEscapes_of_isUnreadable {cs : List Char} (hname : .single 'N' ∉ segments cs)
    {s : Segment} (hs : s ∈ segments cs) (h : s.IsUnreadable) (place : Nat) :
    ∃ fault, readEscapes place (encoded cs) = .error fault := by
  fun_induction segments cs generalizing place with
  | case1 => exact nomatch hs
  | case2 cs ih =>
    obtain ⟨hrefused, hread⟩ := readEscapes_opened place (List.ne_of_not_mem_cons hname).symm
    by_cases hfirst : (opened cs).IsUnreadable
    · exact hrefused hfirst
    · obtain rfl | hs := List.mem_cons.mp hs
      · exact absurd h hfirst
      · exact (hread hfirst).error (ih (List.not_mem_of_not_mem_cons hname) hs)
  | case3 c cs hc ih =>
    obtain rfl | hs := List.mem_cons.mp hs
    · exact absurd h not_false
    · exact (passesTo_char hc cs place).error (ih (List.not_mem_of_not_mem_cons hname) hs)

/-! ## Bytes of texts -/

/-- A class has no first run in a list exactly if it has no member there. -/
theorem firstRun?_eq_none_iff {α : Type} {p : α → Bool} {as : List α} :
    firstRun? p as = none ↔ ∀ a ∈ as, p a = false := by
  rw [firstRun?]
  cases hdrop : as.dropWhile fun a => !p a with
  | nil => simpa using hdrop
  | cons a rest => simpa [hdrop] using List.dropWhile_eq_nil_iff (p := fun a => !p a) (l := as)

theorem toBytes_of_forall_lt {ns : List Nat} (h : ∀ n ∈ ns, n < 256) :
    toBytes ns = .ok (ns.map UInt8.ofNat) := by
  have hnone : firstRun? (fun n => 256 ≤ n) ns = none :=
    firstRun?_eq_none_iff.mpr fun n hn => decide_eq_false (Nat.not_le.mpr (h n hn))
  rw [toBytes, hnone]

theorem toBytes_of_le {ns : List Nat} {n : Nat} (hn : n ∈ ns) (h : 256 ≤ n) :
    ∃ fault, toBytes ns = .error fault := by
  rw [toBytes]
  cases hrun : firstRun? (fun n => 256 ≤ n) ns with
  | none => exact absurd (firstRun?_eq_none_iff.mp hrun n hn) (by simpa using h)
  | some => exact ⟨_, rfl⟩

theorem Segment.isRefused_iff (s : Segment) :
    s.IsRefused ↔ s.IsUnreadable ∨ ∃ n ∈ s.codePoints, 256 ≤ n := by
  have hbytes : ∀ c : Char, ∀ n ∈ (String.utf8EncodeChar c).map UInt8.toNat, n < 256 := by
    intro c n hn
    obtain ⟨b, -, rfl⟩ := List.mem_map.mp hn
    exact b.toNat_lt
  have hnone : ∀ ns : List Nat, (∀ n ∈ ns, n < 256) → (False ↔ False ∨ ∃ n ∈ ns, 256 ≤ n) := by
    intro ns h
    rw [false_or, false_iff]
    exact fun ⟨n, hn, hle⟩ => absurd (h n hn) (Nat.not_lt.mpr hle)
  cases s with
  | plain c => exact hnone _ (hbytes c)
  | lone => exact ⟨.inl, fun _ => trivial⟩
  | octal ds =>
    simp only [IsRefused, IsUnreadable, codePoints, Option.mem_toList, Option.mem_def, false_or,
      Nat.succ_le_iff]
  | hexadecimal escape ds =>
    simp only [IsRefused, IsUnreadable, codePoints, Option.mem_toList, or_assoc]
    refine or_congr_right ⟨fun ⟨n, hn, hlt⟩ => .inr ⟨n, hn, hlt⟩, ?_⟩
    rintro (⟨n, hn, hlt⟩ | ⟨n, hn, hle⟩)
    · exact ⟨n, hn, by omega⟩
    · exact ⟨n, hn, hle⟩
  | single c =>
    refine hnone _ fun n hn => ?_
    rw [codePoints] at hn
    split at hn
    · rename_i b _
      exact List.mem_singleton.mp hn ▸ b.toNat_lt
    · split at hn
      · exact nomatch hn
      · obtain rfl | hn := List.mem_cons.mp hn
        · decide
        · exact hbytes c n hn

theorem utf8_ofChars (cs : List Char) : utf8 (ofChars cs) = .ok (encoded cs) := by
  rw [utf8, toChars?_ofChars]
  rfl

/-- A text of which no segment is refused stands for the bytes of its segments, one after the other.
-/
theorem readBytes_of_forall_not_isRefused {cs : List Char} (hname : .single 'N' ∉ segments cs)
    (h : ∀ s ∈ segments cs, ¬ s.IsRefused) :
    readBytes (ofChars cs) = .ok ((segments cs).flatMap Segment.bytes) := by
  have hread := readEscapes_segments hname
    (fun s hs hunread => h s hs (s.isRefused_iff.mpr (.inl hunread))) 0
  have hbytes : ∀ n ∈ (segments cs).flatMap Segment.codePoints, n < 256 := by
    intro n hn
    obtain ⟨s, hs, hn⟩ := List.mem_flatMap.mp hn
    exact Nat.not_le.mp fun hle => h s hs (s.isRefused_iff.mpr (.inr ⟨n, hn, hle⟩))
  rw [readBytes, utf8_ofChars]
  dsimp only
  rw [hread]
  dsimp only
  rw [toBytes_of_forall_lt hbytes, List.map_flatMap]
  rfl

/-- A text with a refused segment stands for no bytes. -/
theorem readBytes_of_isRefused {cs : List Char} (hname : .single 'N' ∉ segments cs) {s : Segment}
    (hs : s ∈ segments cs) (h : s.IsRefused) : ∃ fault, readBytes (ofChars cs) = .error fault := by
  rw [readBytes, utf8_ofChars]
  dsimp only
  by_cases hreadable : ∀ s ∈ segments cs, ¬ s.IsUnreadable
  · rw [readEscapes_segments hname hreadable]
    obtain hunread | ⟨n, hn, hle⟩ := s.isRefused_iff.mp h
    · exact absurd hunread (hreadable s hs)
    · exact toBytes_of_le (List.mem_flatMap_of_mem hs hn) hle
  · obtain ⟨s', hs', hunread⟩ := not_forall₂.mp hreadable
    obtain ⟨fault, hfault⟩ := readEscapes_of_isUnreadable hname hs' (not_not.mp hunread) 0
    exact ⟨fault, by rw [hfault]⟩

/-- A text is one of characters, or a half of a pair stands in it. -/
theorem exists_ofChars_or_half (t : Text) : (∃ cs, t = ofChars cs) ∨ ∃ n, .half n ∈ t := by
  induction t with
  | nil => exact .inl ⟨[], rfl⟩
  | cons r t ih =>
    cases r with
    | half n => exact .inr ⟨n, List.mem_cons_self ..⟩
    | char c =>
      obtain ⟨cs, rfl⟩ | ⟨n, hn⟩ := ih
      · exact .inl ⟨c :: cs, rfl⟩
      · exact .inr ⟨n, List.mem_cons_of_mem _ hn⟩

theorem readBytes_of_half {t : Text} {n : Fin 2048} (h : .half n ∈ t) :
    ∃ fault, readBytes t = .error fault := by
  have hchars : toChars? t = none := by
    induction t with
    | nil => exact nomatch h
    | cons r t ih =>
      cases r with
      | half => rfl
      | char c =>
        have ht : .half n ∈ t := List.mem_of_ne_of_mem (by simp) h
        rw [toChars?, ih ht]
        rfl
  have hutf8 : ∃ fault, utf8 t = .error fault := by
    rw [utf8, hchars]
    dsimp only
    cases hrun : firstRun? (fun r : Rune => r.toChar?.isNone) t with
    | some => exact ⟨_, rfl⟩
    | none => exact Bool.noConfusion (firstRun?_eq_none_iff.mp hrun _ h)
  obtain ⟨fault, hfault⟩ := hutf8
  exact ⟨fault, by rw [readBytes, hfault]⟩

end FieldCode.Text
