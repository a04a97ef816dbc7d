import FieldCode.Number.Shortest

/-!
# Laying out digits

Once the digits of a number and the place of its point are known, what remains is where to put point,
zeros and exponent.  A `Layout` records the choices: up to which size a number is written without an
exponent, whether all digits of a whole number are shown before one is used, and how the exponent and
whole numbers look.  There are two layouts, that of literals and that of messages, and one function
that follows them.
-/

namespace FieldCode

/-- How the digits of a number are laid out. -/
structure Layout where
  /-- Whole parts with up to this many digits are written without an exponent. -/
  precision : Nat
  /-- A number whose digits all stand before the point is written without an exponent, however many
  there are. -/
  showsAllDigits : Bool
  /-- What opens the exponent. -/
  mark : Char
  /-- A whole number ends in a point and a zero. -/
  marksWhole : Bool

namespace Layout

/-- Literals keep at least `precision` places before they turn to an exponent, and whole numbers have
no point. -/
def literal (precision : Nat) : Layout :=
  ⟨precision, true, 'E', false⟩

/-- Messages write numbers below `10^16` without an exponent, and whole numbers with a point. -/
def message : Layout :=
  ⟨16, false, 'e', true⟩

/-- The greatest scale written without an exponent, for a number of `n` digits. -/
def widest (l : Layout) (n : Nat) : Nat :=
  if l.showsAllDigits then max n l.precision else l.precision

/-- An exponent: its sign, and at least two digits. -/
def exponentText (l : Layout) (power : Int) : List Char :=
  let ds := Nat.toDigits 10 power.natAbs
  l.mark :: (if 0 ≤ power then '+' else '-') :: List.replicate (2 - ds.length) '0' ++ ds

/-- The digits `ds` with the point `scale` places after the first one. -/
def place (l : Layout) (ds : List Char) (scale : Int) : List Char :=
  if (l.widest ds.length : Int) < scale ∨ scale < -3 then
    let rest := ds.drop 1
    ds.take 1 ++ (if rest = [] then [] else '.' :: rest) ++ l.exponentText (scale - 1)
  else if scale ≤ 0 then
    '0' :: '.' :: List.replicate (-scale).toNat '0' ++ ds
  else if (ds.length : Int) ≤ scale then
    ds ++ List.replicate (scale.toNat - ds.length) '0' ++ (if l.marksWhole then ['.', '0'] else [])
  else
    ds.take scale.toNat ++ '.' :: ds.drop scale.toNat

/-- The text of zero. -/
def zeroText (l : Layout) : List Char :=
  if l.marksWhole then ['0', '.', '0'] else ['0']

/-- The text of a finite number, given how its digits are found. -/
def finiteText (l : Layout) (shortest : Format.double.Magnitude → Decimal) (negative : Bool)
    (m : Format.double.Magnitude) : List Char :=
  let sign := if negative then ['-'] else []
  if m.significand = 0 then sign ++ l.zeroText
  else
    let d := shortest m
    sign ++ l.place d.digits d.scale

end Layout

/-- A double as a message shows it. -/
def Double.shown : Double → List Char
  | nan => ['n', 'a', 'n']
  | infinite negative => (if negative then ['-'] else []) ++ ['i', 'n', 'f']
  | finite negative m => Layout.message.finiteText shortestDouble negative m

end FieldCode
