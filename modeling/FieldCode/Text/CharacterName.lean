import FieldCode.Text.Blank
import FieldCode.Text.Digit
import FieldCode.Text.NameList

/-!
# Characters by name

Most characters have a name in the list, and some have further names.  The other names follow from the
number of the character: those of Hangul syllables are spelled from the letters of the syllable, and
those of ideographs and of the characters of two more scripts end in the number itself.

A name is looked up without regard to case.  Only the names of Hangul syllables and of unified
ideographs are wanted in capitals, and what begins like one of these is looked for nowhere else.
-/

namespace FieldCode.Text

/-! ## Listed names -/

/-- The entries of a list, without the line breaks and blanks in front of them. -/
def entriesOf (list : String) : List (List Char) :=
  (list.splitOn ",").map fun entry => entry.toList.dropWhile Char.isWhitespace

/-- The names that some entries of a block write, each with its code point.  `before` are the words of
the name before, and `code` is the next code point. -/
def namesOf (before : List String) (code : Nat) : List (List Char) → List (String × Nat)
  | [] => []
  | [] :: entries => namesOf before (code + 1) entries
  | (c :: cs) :: entries =>
    let words :=
      if c.isLower then before.take (c.toNat - 96) ++ (String.ofList cs).splitOn " "
      else (String.ofList (c :: cs)).splitOn " "
    (" ".intercalate words, code) :: namesOf words (code + 1) entries

/-- The number that digits of base sixteen write, unless another character is among them. -/
def ofHexDigits? (cs : List Char) : Option Nat :=
  (cs.mapM (digitIn? 16)).map (ofDigits 16)

/-- The code point of a name in the list; the name is in capitals. -/
def listedCode? (name : String) : Option Nat :=
  nameBlocks.findSome? fun block => (namesOf [] block.1 (entriesOf block.2)).lookup name

/-- The code point of one of the further names; the name is in capitals. -/
def furtherCode? (name : String) : Option Nat :=
  (entriesOf furtherNames).findSome? fun entry => do
    let digits ← after? (name.toList ++ ['=']) entry
    ofHexDigits? digits

/-! ## Names from numbers -/

/-- The names that end in the number of the character: what stands before the number, and the ranges of
the numbers. -/
def numberedNames : List (String × List (Nat × Nat)) :=
  [("CJK COMPATIBILITY IDEOGRAPH-", [(0xf900, 0xfa6d), (0xfa70, 0xfad9), (0x2f800, 0x2fa1d)]),
   ("KHITAN SMALL SCRIPT CHARACTER-", [(0x18b00, 0x18cd5)]),
   ("NUSHU CHARACTER-", [(0x1b170, 0x1b2fb)])]

/-- The code point of a name that ends in its number; the name is in capitals. -/
def numberedCode? (name : List Char) : Option Nat :=
  numberedNames.findSome? fun sort => do
    let digits ← after? sort.1.toList name
    let n ← ofHexDigits? digits
    if digits.head? ≠ some '0' ∧ inRanges sort.2 (Rune.ofCode n) then some n else none

/-- What stands before the number in the name of a unified ideograph. -/
def ideographPrefix : String :=
  "CJK UNIFIED IDEOGRAPH-"

/-- The ranges of the unified ideographs. -/
def ideographRanges : List (Nat × Nat) :=
  [(0x3400, 0x4dbf), (0x4e00, 0x9fff), (0x20000, 0x2a6df), (0x2a700, 0x2b738), (0x2b740, 0x2b81d),
   (0x2b820, 0x2cea1), (0x2ceb0, 0x2ebe0), (0x30000, 0x3134a)]

/-- The unified ideograph whose number is written, with four or five digits in capitals. -/
def ideographCode? (digits : List Char) : Option Nat := do
  let n ← ofHexDigits? digits
  if (digits.length = 4 ∨ digits.length = 5) ∧ ¬digits.any Char.isLower ∧
      inRanges ideographRanges (Rune.ofCode n) then some n
  else none

/-! ## Hangul syllables -/

/-- What stands before the letters in the name of a Hangul syllable. -/
def syllablePrefix : String :=
  "HANGUL SYLLABLE "

/-- The letters that a Hangul syllable can begin with, in the order of the code points. -/
def initialLetters : List String :=
  ["G", "GG", "N", "D", "DD", "R", "M", "B", "BB", "S", "SS", "", "J", "JJ", "C", "K", "T", "P", "H"]

/-- The vowels of Hangul syllables. -/
def vowelLetters : List String :=
  ["A", "AE", "YA", "YAE", "EO", "E", "YEO", "YE", "O", "WA", "WAE", "OE", "YO", "U", "WEO", "WE",
   "WI", "YU", "EU", "YI", "I"]

/-- The letters that a Hangul syllable can end with. -/
def finalLetters : List String :=
  ["", "G", "GG", "GS", "N", "NJ", "NH", "D", "L", "LG", "LM", "LB", "LS", "LT", "LP", "LH", "M",
   "B", "BS", "S", "SS", "NG", "J", "C", "K", "T", "P", "H"]

/-- The longest of some letters at the front of a text: its place among them, and what is behind it.
`place` is that of the first one. -/
def longestAt (place : Nat) : List String → List Char → Option (Nat × List Char)
  | [], _ => none
  | letter :: letters, cs =>
    match after? letter.toList cs, longestAt (place + 1) letters cs with
    | none, found => found
    | some rest, none => some (place, rest)
    | some rest, some (other, rest') =>
      if rest'.length < rest.length then some (other, rest') else some (place, rest)

/-- The syllable that is spelled by its letters. -/
def syllableCode? (letters : List Char) : Option Nat := do
  let (first, rest) ← longestAt 0 initialLetters letters
  let (vowel, rest) ← longestAt 0 vowelLetters rest
  let (last, rest) ← longestAt 0 finalLetters rest
  if rest = [] then
    some (0xac00 + (first * vowelLetters.length + vowel) * finalLetters.length + last)
  else none

/-! ## All names -/

/-- The code point of the character with a name. -/
def namedCode? (name : List Char) : Option Nat :=
  match after? syllablePrefix.toList name, after? ideographPrefix.toList name with
  | some letters, _ => syllableCode? letters
  | none, some digits => ideographCode? digits
  | none, none =>
    let capitals := name.map Char.toUpper
    listedCode? (String.ofList capitals) <|> furtherCode? (String.ofList capitals) <|>
      numberedCode? capitals

end FieldCode.Text
