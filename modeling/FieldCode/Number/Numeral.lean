import FieldCode.Number.Decimal
import FieldCode.Text.Blank
import FieldCode.Text.Digit

/-!
# Numerals

Reading integers in a base and reading decimals, over the digits of every script.  A text is first made
plain: its digits become ASCII digits and its blanks beyond ASCII become spaces, so that the grammar is
one over ASCII.  An integer numeral is blanks, at most one sign, in base 16 and 8 an optional `0x` or
`0o`, at least one digit, and blanks.  A decimal numeral is a sign, digits around an optional point with
at least one digit in all, and an optional exponent.  Infinities and the value that is no number have
names of their own.

Numerals in base ten are limited in length: reading one takes time quadratic in the number of its
digits, and more than `maxDigits` are refused before they are read, whatever follows them.
-/

namespace FieldCode

/-- The bases that integers are written in. -/
inductive Base where
  | octal
  | decimal
  | hexadecimal
  deriving DecidableEq, Repr

namespace Base

/-- How many digits the base has. -/
def size : Base → Nat
  | octal => 8
  | decimal => 10
  | hexadecimal => 16

/-- The letter that may follow a zero to announce the base. -/
def announces : Base → Char → Bool
  | octal, c => c == 'o' || c == 'O'
  | decimal, _ => false
  | hexadecimal, c => c == 'x' || c == 'X'

/-- The numeral without the announcement of its base. -/
def unannounced (base : Base) : List Char → List Char
  | '0' :: c :: cs => if base.announces c then cs else '0' :: c :: cs
  | cs => cs

end Base

namespace Numeral

/-- How many digits a base-ten numeral may have. -/
def maxDigits : Nat :=
  4300

/-- The integer has no more digits than a numeral may have. -/
def Fits (n : Int) : Prop :=
  n.natAbs < Nat.pow 10 maxDigits

instance (n : Int) : Decidable (Fits n) :=
  inferInstanceAs (Decidable (n.natAbs < Nat.pow 10 maxDigits))

/-- Why a text is not an integer numeral. -/
inductive Fault where
  | malformed
  | tooLong (digits : Nat)
  deriving DecidableEq, Repr

/-! ## Plain text -/

/-- A rune as numerals see it.  A rune beyond ASCII that is neither a digit nor a blank becomes a
question mark, which no numeral holds. -/
def plainRune (r : Rune) : Char :=
  match r.toChar?, Text.decimalDigit? r with
  | _, some d => Char.ofNat ('0'.toNat + d)
  | some c, none => if c.toNat < 0x7f then c else if Text.isBlank r then ' ' else '?'
  | none, none => '?'

/-- A text as numerals see it. -/
def plain (t : Text) : List Char :=
  t.map plainRune

/-- A blank in plain text. -/
def isBlank (c : Char) : Bool :=
  c == ' ' || ('\t' ≤ c && c ≤ '\r')

/-! ## Integers -/

/-- A sign, if one stands first, and the rest; true means negative. -/
def sign : List Char → Bool × List Char
  | '-' :: cs => (true, cs)
  | '+' :: cs => (false, cs)
  | cs => (false, cs)

/-- The sign of a numeral, and what follows it up to the blanks at the end. -/
def splitSign (t : Text) : Bool × List Char :=
  sign (Text.trimBy isBlank (plain t))

/-- The digits at the front of a text, as numbers. -/
def digitRun (base : Nat) : List Char → List Nat
  | [] => []
  | c :: cs =>
    match Text.digitIn? base c with
    | some d => d :: digitRun base cs
    | none => []

/-- A signed number. -/
def signed (negative : Bool) (n : Nat) : Int :=
  if negative then -(n : Int) else n

/-- Reads an integer numeral in a base. -/
def readInteger (base : Base) (t : Text) : Except Fault Int :=
  let signRest := splitSign t
  let body := base.unannounced signRest.2
  let ds := digitRun base.size body
  if base = .decimal ∧ maxDigits < ds.length then .error (.tooLong ds.length)
  else if ds = [] ∨ ds.length < body.length then .error .malformed
  else .ok (signed signRest.1 (Text.ofDigits base.size ds))

/-- Every underscore stands between two digits; the bit says whether a digit stands in front. -/
def isGrouped : Bool → List Char → Bool
  | afterDigit, [] => afterDigit
  | afterDigit, c :: cs => if c = '_' then afterDigit && isGrouped false cs else isGrouped true cs

/-- Reads a base-ten integer in which single underscores may stand between digits. -/
def readGrouped (t : Text) : Except Fault Int :=
  let signRest := splitSign t
  let run := signRest.2.takeWhile fun c => c.isDigit || c == '_'
  let ds := digitRun 10 (run.filter Char.isDigit)
  if !isGrouped false run then .error .malformed
  else if maxDigits < ds.length then .error (.tooLong ds.length)
  else if run.length < signRest.2.length then .error .malformed
  else .ok (signed signRest.1 (Text.ofDigits 10 ds))

/-! ## Decimals -/

/-- The ASCII digits at the front of a text, and what follows them. -/
def splitDigits (cs : List Char) : List Char × List Char :=
  (cs.takeWhile Char.isDigit, cs.dropWhile Char.isDigit)

/-- The number that ASCII digits write. -/
def ofAscii (ds : List Char) : Nat :=
  Text.ofDigits 10 (ds.map fun c => c.toNat - '0'.toNat)

/-- An exponent, from its mark to the end of the text; no text at all is the exponent zero. -/
def readExponent? : List Char → Option Int
  | [] => some 0
  | 'e' :: cs =>
    let signRest := sign cs
    if signRest.2 ≠ [] ∧ signRest.2.all Char.isDigit then
      some (signed signRest.1 (ofAscii signRest.2))
    else none
  | _ => none

/-- A decimal without a sign: digits, a point and digits, an exponent. -/
def readDecimal? (cs : List Char) : Option Decimal :=
  let whole := splitDigits cs
  let fraction := match whole.2 with
    | '.' :: rest => splitDigits rest
    | rest => ([], rest)
  let ds := whole.1 ++ fraction.1
  if ds = [] then none
  else
    (readExponent? fraction.2).map fun e => ⟨ofAscii ds, e - fraction.1.length⟩

/-- Reads a double from a trimmed text in lower case. -/
def readDouble? (t : Text) : Option Double :=
  let signRest := sign (plain t)
  if signRest.2 = ['i', 'n', 'f'] ∨ signRest.2 = ['i', 'n', 'f', 'i', 'n', 'i', 't', 'y'] then
    some (.infinite signRest.1)
  else if signRest.2 = ['n', 'a', 'n'] then some .nan
  else (readDecimal? signRest.2).map (Decimal.toDouble signRest.1)

end Numeral

/-- An integer in base ten. -/
def integerText (n : Int) : List Char :=
  if n < 0 then '-' :: Nat.toDigits 10 n.natAbs else Nat.toDigits 10 n.natAbs

/-- The text of an integer in base ten. -/
def Text.ofInt (n : Int) : Text :=
  Text.ofChars (integerText n)

end FieldCode
