import FieldCode.Json
import FieldCode.Number.Layout
import FieldCode.Number.Numeral
import FieldCode.Text.Quoted

/-!
# Printing JSON

The printed form has one member or item a line, indented by two places for each level, and uses the
printable part of ASCII alone: every other rune is written by its units in UTF-16, one escape for each.
Empty arrays and objects stay on their line.
-/

namespace FieldCode.Json

/-- An escape by number. -/
def unitEscape (n : Nat) : List Char :=
  '\\' :: 'u' :: Text.hex 4 n

/-- One character inside a printed text. -/
def printChar (c : Char) : List Char :=
  if c = '"' ∨ c = '\\' then ['\\', c]
  else if c = '\n' then ['\\', 'n']
  else if c = '\r' then ['\\', 'r']
  else if c = '\t' then ['\\', 't']
  else if c = '\x08' then ['\\', 'b']
  else if c = '\x0c' then ['\\', 'f']
  else if Text.isPlainChar c then [c]
  else if c.toNat < 0x10000 then unitEscape c.toNat
  else
    let offset := c.toNat - 0x10000
    unitEscape (0xd800 + offset / 0x400) ++ unitEscape (0xdc00 + offset % 0x400)

/-- One rune inside a printed text. -/
def printRune : Rune → List Char
  | .char c => printChar c
  | .half n => unitEscape (Rune.half n).code

/-- A printed text. -/
def printText (t : Text) : List Char :=
  '"' :: t.flatMap printRune ++ ['"']

/-- A printed number that is not an integer. -/
def printNumber : Double → List Char
  | .nan => "NaN".toList
  | .infinite false => "Infinity".toList
  | .infinite true => "-Infinity".toList
  | x => x.shown

/-- The start of a line at a level. -/
def newline (level : Nat) : List Char :=
  '\n' :: List.replicate (2 * level) ' '

mutual

/-- A printed value whose first character stands at a level. -/
def print (level : Nat) : Json → List Char
  | null => "null".toList
  | bool true => "true".toList
  | bool false => "false".toList
  | int n => integerText n
  | number x => printNumber x
  | text s => printText s
  | array [] => ['[', ']']
  | array (item :: items) =>
    '[' :: newline (level + 1) ++ print (level + 1) item ++ printItems (level + 1) items ++
      newline level ++ [']']
  | object [] => ['\x7b', '\x7d']
  | object ((key, value) :: members) =>
    '\x7b' :: newline (level + 1) ++ printText key ++ ':' :: ' ' ::
      print (level + 1) value ++ printMembers (level + 1) members ++ newline level ++ ['\x7d']

/-- The items after the first one. -/
def printItems (level : Nat) : List Json → List Char
  | [] => []
  | item :: items => ',' :: newline level ++ print level item ++ printItems level items

/-- The members after the first one. -/
def printMembers (level : Nat) : List (Text × Json) → List Char
  | [] => []
  | (key, value) :: members =>
    ',' :: newline level ++ printText key ++ ':' :: ' ' :: print level value ++
      printMembers level members

end

/-- The printed form of a value. -/
def toText (j : Json) : String :=
  String.ofList (print 0 j)

end FieldCode.Json
