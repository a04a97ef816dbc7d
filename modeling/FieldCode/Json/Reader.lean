import FieldCode.Json
import FieldCode.Number.Numeral

/-!
# Reading JSON

A reader for whole JSON texts, stricter than JSON in nothing and wider in one point: the names `NaN`,
`Infinity` and `-Infinity` are numbers.  The reader descends through the text with a fuel that counts
its calls; two calls for each character and two more are always enough, which is what `read` gives it.
It descends into no more than `maxDepth` arrays and objects, one inside the other.

A file has only whole characters, while an escape can name half of a surrogate pair.  Two halves that
follow each other are joined; a half on its own stays one.
-/

namespace FieldCode.Json

/-- Why a text is not read. -/
inductive Fault where
  | malformed
  /-- An integer with more digits than a numeral may have. -/
  | integerTooLong (digits : Nat)
  /-- Arrays and objects are nested too deeply. -/
  | tooDeep
  deriving DecidableEq, Repr

/-- White space between the parts of a JSON text. -/
def isGap (c : Char) : Bool :=
  c == ' ' || c == '\t' || c == '\n' || c == '\r'

/-- The text after its leading white space. -/
def skipGap (cs : List Char) : List Char :=
  cs.dropWhile isGap

/-! ## Texts -/

/-- What an ASCII character stands for as a hexadecimal digit. -/
def hexValue? (c : Char) : Option Nat :=
  if c.isDigit then some (c.toNat - 48)
  else if 'a' ≤ c ∧ c ≤ 'f' then some (c.toNat - 87)
  else if 'A' ≤ c ∧ c ≤ 'F' then some (c.toNat - 55)
  else none

/-- The number that four hexadecimal digits write. -/
def hexFour? (a b c d : Char) : Option Nat :=
  match hexValue? a, hexValue? b, hexValue? c, hexValue? d with
  | some a, some b, some c, some d => some (((a * 16 + b) * 16 + c) * 16 + d)
  | _, _, _, _ => none

/-- The number is the first half of a surrogate pair. -/
def isHighHalf (n : Nat) : Bool :=
  0xd800 ≤ n && n ≤ 0xdbff

/-- The number is the second half of a surrogate pair. -/
def isLowHalf (n : Nat) : Bool :=
  0xdc00 ≤ n && n ≤ 0xdfff

/-- The text that code points and units of UTF-16 stand for: two halves of a pair that follow each
other are one character. -/
def joinHalves : List Nat → Text
  | [] => []
  | [n] => [Rune.ofCode n]
  | n :: m :: rest =>
    if isHighHalf n && isLowHalf m then
      .char (Char.ofNat (0x10000 + (n - 0xd800) * 0x400 + (m - 0xdc00))) :: joinHalves rest
    else Rune.ofCode n :: joinHalves (m :: rest)

/-- The character that a one-letter escape names. -/
def escaped? (c : Char) : Option Char :=
  if c = '"' ∨ c = '\\' ∨ c = '/' then some c
  else if c = 'b' then some '\x08'
  else if c = 'f' then some '\x0c'
  else if c = 'n' then some '\n'
  else if c = 'r' then some '\r'
  else if c = 't' then some '\t'
  else none

/-- Reads a text from behind its opening quote: its code points, halves of pairs apart, and what
follows the closing quote. -/
def readUnits : List Char → Option (List Nat × List Char)
  | [] => none
  | '"' :: rest => some ([], rest)
  | '\\' :: 'u' :: h₁ :: h₂ :: h₃ :: h₄ :: rest =>
    match hexFour? h₁ h₂ h₃ h₄ with
    | some n => (readUnits rest).map fun r => (n :: r.1, r.2)
    | none => none
  | '\\' :: c :: rest =>
    match escaped? c with
    | some e => (readUnits rest).map fun r => (e.toNat :: r.1, r.2)
    | none => none
  | c :: rest =>
    if c.toNat < 0x20 then none
    else (readUnits rest).map fun r => (c.toNat :: r.1, r.2)

/-- Reads a text from behind its opening quote, with what follows the closing quote. -/
def readText (cs : List Char) : Option (Text × List Char) :=
  (readUnits cs).map fun r => (joinHalves r.1, r.2)

/-! ## Numbers -/

/-- The digits of a whole part: a zero alone, or digits that start with another one. -/
def splitWhole : List Char → List Char × List Char
  | '0' :: rest => (['0'], rest)
  | cs => Numeral.splitDigits cs

/-- A fraction: its digits and what follows; none at all if no digit follows the point. -/
def splitFraction : List Char → List Char × List Char
  | '.' :: rest =>
    let ds := Numeral.splitDigits rest
    if ds.1 = [] then ([], '.' :: rest) else ds
  | cs => ([], cs)

/-- An exponent, if there is one, and what follows. -/
def splitExponent : List Char → Option Int × List Char
  | [] => (none, [])
  | c :: cs =>
    if c = 'e' ∨ c = 'E' then
      let signRest := Numeral.sign cs
      let ds := Numeral.splitDigits signRest.2
      if ds.1 = [] then (none, c :: cs)
      else (some (Numeral.signed signRest.1 (Numeral.ofAscii ds.1)), ds.2)
    else (none, c :: cs)

/-- Reads a number. -/
def readNumber (cs : List Char) : Except Fault (Json × List Char) :=
  let signRest := match cs with
    | '-' :: rest => (true, rest)
    | rest => (false, rest)
  let whole := splitWhole signRest.2
  if whole.1 = [] then .error .malformed
  else
    let fraction := splitFraction whole.2
    let exponent := splitExponent fraction.2
    if fraction.1 = [] ∧ exponent.1 = none then
      if Numeral.maxDigits < whole.1.length then .error (.integerTooLong whole.1.length)
      else .ok (.int (Numeral.signed signRest.1 (Numeral.ofAscii whole.1)), exponent.2)
    else
      let d : Decimal :=
        ⟨Numeral.ofAscii (whole.1 ++ fraction.1), exponent.1.getD 0 - fraction.1.length⟩
      .ok (.number (d.toDouble signRest.1), exponent.2)

/-! ## Values -/

/-- The words that are values, and their values. -/
def words : List (List Char × Json) :=
  [("null".toList, .null), ("true".toList, .bool true), ("false".toList, .bool false),
    ("NaN".toList, .number .nan), ("Infinity".toList, .number (.infinite false)),
    ("-Infinity".toList, .number (.infinite true))]

/-- Reads a word that is a value. -/
def readWord? (cs : List Char) : Option (Json × List Char) :=
  words.findSome? fun w => (after? w.1 cs).map fun rest => (w.2, rest)

/-- How deeply arrays and objects may be nested. -/
def maxDepth : Nat :=
  984

mutual

/-- Reads a value from the first of its characters; `room` is how much deeper arrays and objects may be
nested. -/
def readValue (room : Nat) : Nat → List Char → Except Fault (Json × List Char)
  | 0, _ => .error .malformed
  | fuel + 1, cs =>
    match cs with
    | [] => .error .malformed
    | c :: rest =>
      if c = '"' then
        match readText rest with
        | some (s, rest) => .ok (.text s, rest)
        | none => .error .malformed
      else if c = '[' then
        if room = 0 then .error .tooDeep
        else
          match skipGap rest with
          | ']' :: rest => .ok (.array [], rest)
          | rest => (readItems (room - 1) fuel rest).map fun r => (.array r.1, r.2)
      else if c = '\x7b' then
        if room = 0 then .error .tooDeep
        else
          match skipGap rest with
          | '\x7d' :: rest => .ok (.object [], rest)
          | rest => (readMembers (room - 1) fuel rest).map fun r => (.object (assemble r.1), r.2)
      else
        match readWord? (c :: rest) with
        | some r => .ok r
        | none => readNumber (c :: rest)

/-- Reads the items of an array from the first of them to the closing bracket. -/
def readItems (room : Nat) : Nat → List Char → Except Fault (List Json × List Char)
  | 0, _ => .error .malformed
  | fuel + 1, cs =>
    match readValue room fuel cs with
    | .error e => .error e
    | .ok (item, rest) =>
      match skipGap rest with
      | ',' :: rest => (readItems room fuel (skipGap rest)).map fun r => (item :: r.1, r.2)
      | ']' :: rest => .ok ([item], rest)
      | _ => .error .malformed

/-- Reads the members of an object from the first of them to the closing brace. -/
def readMembers (room : Nat) : Nat → List Char → Except Fault (List (Text × Json) × List Char)
  | 0, _ => .error .malformed
  | fuel + 1, cs =>
    match cs with
    | '"' :: rest =>
      match readText rest with
      | none => .error .malformed
      | some (key, rest) =>
        match skipGap rest with
        | ':' :: rest =>
          match readValue room fuel (skipGap rest) with
          | .error e => .error e
          | .ok (value, rest) =>
            match skipGap rest with
            | ',' :: rest =>
              (readMembers room fuel (skipGap rest)).map fun r =>
                ((key, value) :: r.1, r.2)
            | '\x7d' :: rest => .ok ([(key, value)], rest)
            | _ => .error .malformed
        | _ => .error .malformed
    | _ => .error .malformed

end

/-- Reads a whole text as one value. -/
def readChars (cs : List Char) : Except Fault Json :=
  match readValue maxDepth (2 * cs.length + 2) (skipGap cs) with
  | .error e => .error e
  | .ok (value, rest) => if skipGap rest = [] then .ok value else .error .malformed

/-- Reads a whole text as one value. -/
def read (text : String) : Except Fault Json :=
  readChars text.toList

end FieldCode.Json
