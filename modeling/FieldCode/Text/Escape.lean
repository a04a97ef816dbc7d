import FieldCode.Text.CharacterName
import FieldCode.Text.Quoted

/-!
# Byte strings written with escapes

The text of a byte string stands for bytes in three steps.  Its characters become their UTF-8 bytes,
which half of a surrogate pair does not have; the escapes among these are replaced by the code points
they name, every other byte being the code point of the same number; and the code points have to be
bytes again.  A character that is not part of an escape therefore contributes exactly its UTF-8 bytes,
and an escape that names a byte contributes that byte.

A backslash opens an escape.  One function reads a single escape and says what it writes and how many
bytes it takes; the reader goes from one to the next.  An escape that nobody knows stands for itself,
backslash included.  Faults carry the positions of the runes, bytes or code points that caused them.
-/

namespace FieldCode.Text

/-- The three escapes that name a code point by hexadecimal digits. -/
inductive HexEscape where
  | two
  | four
  | eight
  deriving DecidableEq, Repr

/-- How many digits the escape has. -/
def HexEscape.width : HexEscape → Nat
  | two => 2
  | four => 4
  | eight => 8

/-- The escape's form, as a message shows it. -/
def HexEscape.form : HexEscape → String
  | two => "\\xXX"
  | four => "\\uXXXX"
  | eight => "\\UXXXXXXXX"

/-- Why a text stands for no byte string. -/
inductive EscapeFault where
  /-- Half of a surrogate pair has no bytes. -/
  | half (codePoint place : Nat)
  /-- Several halves of surrogate pairs in a row have no bytes. -/
  | halves (first last : Nat)
  /-- The text ends in a backslash that opens an escape. -/
  | dangling (place : Nat)
  /-- An escape has too few hexadecimal digits. -/
  | truncated (escape : HexEscape) (first last : Nat)
  /-- An escape names no code point. -/
  | illegal (first last : Nat)
  /-- An escape by name has no name between braces. -/
  | malformedName (first last : Nat)
  /-- No character has the name. -/
  | unknownName (first last : Nat)
  /-- One code point is no byte. -/
  | notByte (codePoint place : Nat)
  /-- Several code points in a row are no bytes. -/
  | notBytes (first last : Nat)
  deriving DecidableEq, Repr

namespace EscapeFault

/-- A complaint about a range of bytes. -/
def aboutBytes (first last : Nat) (reason : String) : Text :=
  "'unicodeescape' codec can't decode bytes in position " ++ toString first ++ "-" ++
    toString last ++ ": " ++ reason

/-- A complaint about one thing that an encoding does not have. -/
def aboutOne (encoding : String) (codePoint place : Nat) (reason : String) : Text :=
  "'" ++ encoding ++ "' codec can't encode character '" ++ Text.ofChars (codeEscape codePoint) ++ "' in position " ++
    toString place ++ ": " ++ reason

/-- A complaint about several things in a row that an encoding does not have. -/
def aboutMany (encoding : String) (first last : Nat) (reason : String) : Text :=
  "'" ++ encoding ++ "' codec can't encode characters in position " ++ toString first ++ "-" ++
    toString last ++ ": " ++ reason

/-- What is said of a fault. -/
def message : EscapeFault → Text
  | half codePoint place => aboutOne "utf-8" codePoint place "surrogates not allowed"
  | halves first last => aboutMany "utf-8" first last "surrogates not allowed"
  | dangling place =>
    "'unicodeescape' codec can't decode byte 0x5c in position " ++ toString place ++
      ": \\ at end of string"
  | truncated escape first last =>
    aboutBytes first last ("truncated " ++ escape.form ++ " escape")
  | illegal first last => aboutBytes first last "illegal Unicode character"
  | malformedName first last => aboutBytes first last "malformed \\N character escape"
  | unknownName first last => aboutBytes first last "unknown Unicode character name"
  | notByte codePoint place =>
    aboutOne "latin-1" codePoint place "ordinal not in range(256)"
  | notBytes first last => aboutMany "latin-1" first last "ordinal not in range(256)"

end EscapeFault

/-- What a byte stands for as a hexadecimal digit. -/
def hexDigit? (b : UInt8) : Option Nat :=
  let n := b.toNat
  if 48 ≤ n ∧ n ≤ 57 then some (n - 48)
  else if 97 ≤ n ∧ n ≤ 102 then some (n - 87)
  else if 65 ≤ n ∧ n ≤ 70 then some (n - 55)
  else none

/-- What a byte stands for as an octal digit. -/
def octalDigit? (b : UInt8) : Option Nat :=
  let n := b.toNat
  if 48 ≤ n ∧ n ≤ 55 then some (n - 48) else none

/-- The digits at the front of some bytes, at most so many. -/
def digitsUpTo (digit? : UInt8 → Option Nat) : Nat → List UInt8 → List Nat
  | 0, _ => []
  | _, [] => []
  | n + 1, b :: bs =>
    match digit? b with
    | some d => d :: digitsUpTo digit? n bs
    | none => []

/-- The number that digits write in a base. -/
def numberOf (base : Nat) (ds : List Nat) : Nat :=
  ds.foldl (fun n d => n * base + d) 0

/-- The byte that a one-letter escape names. -/
def namedEscape? (b : UInt8) : Option UInt8 :=
  match b.toNat with
  | 92 => some 92
  | 39 => some 39
  | 34 => some 34
  | 97 => some 7
  | 98 => some 8
  | 102 => some 12
  | 110 => some 10
  | 114 => some 13
  | 116 => some 9
  | 118 => some 11
  | _ => none

/-- The escape by hexadecimal digits that a letter opens. -/
def hexEscape? (b : UInt8) : Option HexEscape :=
  match b.toNat with
  | 120 => some .two
  | 117 => some .four
  | 85 => some .eight
  | _ => none

/-- Reads an escape by hexadecimal digits.  `place` is that of the backslash, and `rest` follows the
letter. -/
def readHex (place : Nat) (escape : HexEscape) (rest : List UInt8) :
    Except EscapeFault (List Nat × Nat) :=
  let ds := digitsUpTo hexDigit? escape.width rest
  let last := place + 1 + ds.length
  if ds.length < escape.width then .error (.truncated escape place last)
  else if 0x10ffff < numberOf 16 ds then .error (.illegal place last)
  else .ok ([numberOf 16 ds], 1 + escape.width)

/-- Reads an escape by name.  `place` is that of the backslash, and `rest` follows the letter. -/
def readName (place : Nat) : List UInt8 → Except EscapeFault (List Nat × Nat)
  | [] => .error (.malformedName place (place + 1))
  | b :: rest =>
    if b.toNat ≠ 123 then .error (.malformedName place (place + 1))
    else
      let name := rest.takeWhile fun c => c.toNat != 125
      if name = [] ∨ name.length = rest.length then
        .error (.malformedName place (place + 2 + name.length))
      else
        match namedCode? (name.map fun c => Char.ofNat c.toNat) with
        | some n => .ok ([n], 3 + name.length)
        | none => .error (.unknownName place (place + 3 + name.length))

/-- Reads the escape whose backslash stands at `place`: the code points it writes and how many of the
bytes after the backslash it takes. -/
def readEscape (place : Nat) : List UInt8 → Except EscapeFault (List Nat × Nat)
  | [] => .error (.dangling place)
  | b :: rest =>
    match namedEscape? b, octalDigit? b, hexEscape? b with
    | some c, _, _ => .ok ([c.toNat], 1)
    | none, some _, _ =>
      let ds := digitsUpTo octalDigit? 3 (b :: rest)
      .ok ([numberOf 8 ds], ds.length)
    | none, none, some escape => readHex place escape rest
    | none, none, none =>
      if b.toNat = 10 then .ok ([], 1)
      else if b.toNat = 78 then readName place rest
      else .ok ([92, b.toNat], 1)

/-- The code points that bytes with escapes stand for; `place` is that of the first byte. -/
def readEscapes (place : Nat) : List UInt8 → Except EscapeFault (List Nat)
  | [] => .ok []
  | b :: rest =>
    if b.toNat = 92 then
      match readEscape place rest with
      | .error e => .error e
      | .ok (written, taken) =>
        (readEscapes (place + 1 + taken) (rest.drop taken)).map (written ++ ·)
    else (readEscapes (place + 1) rest).map (b.toNat :: ·)
termination_by bs => bs.length
decreasing_by all_goals (simp only [List.length_drop, List.length_cons]; omega)

/-- The first member of a class in a list, with the places of the first and the last member of the run
that it opens. -/
def firstRun? {α : Type} (p : α → Bool) (as : List α) : Option (α × Nat × Nat) :=
  match as.dropWhile fun a => !p a with
  | [] => none
  | a :: rest =>
    let place := (as.takeWhile fun a => !p a).length
    some (a, place, place + (rest.takeWhile p).length)

/-- The bytes with the numbers of some code points. -/
def toBytes (codePoints : List Nat) : Except EscapeFault (List UInt8) :=
  match firstRun? (fun n => 256 ≤ n) codePoints with
  | none => .ok (codePoints.map UInt8.ofNat)
  | some (n, first, last) =>
    .error (if first = last then .notByte n first else .notBytes first last)

/-- The UTF-8 bytes of a text. -/
def utf8 (t : Text) : Except EscapeFault (List UInt8) :=
  match toChars? t with
  | some cs => .ok (cs.flatMap String.utf8EncodeChar)
  | none =>
    match firstRun? (fun r => r.toChar?.isNone) t with
    | some (r, first, last) => .error (if first = last then .half r.code first else .halves first last)
    | none => .ok []

/-- The bytes that a text with escapes stands for. -/
def readBytes (t : Text) : Except EscapeFault (List UInt8) :=
  match utf8 t with
  | .error e => .error e
  | .ok bytes =>
    match readEscapes 0 bytes with
    | .ok codePoints => toBytes codePoints
    | .error e => .error e

end FieldCode.Text
