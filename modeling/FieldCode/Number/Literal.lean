import FieldCode.Kind.Coverage
import FieldCode.Number.Layout
import FieldCode.Number.Numeral

/-!
# Number literals

The literal of a number is its text followed by a suffix that fixes the type of the literal.  The
suffixes are a table over the numeric kinds; a `Suffixes` carries the proof that its table covers
exactly these, so the look-up can fail only for a kind that is not numeric.  The text of a finite
floating-point number has the fewest digits that read back, and the two floating kinds differ in what
reading back means and in how many places are written before an exponent is used.
-/

namespace FieldCode

/-- A number that is to be written. -/
inductive Number where
  | int (n : Int)
  | double (x : Double)
  deriving DecidableEq

/-- Why a number has no literal. -/
inductive NumberFault where
  /-- What is not a number has no integer part. -/
  | notANumber
  /-- An infinity has no integer part. -/
  | infinite
  /-- The integer is beyond all doubles. -/
  | tooLarge
  /-- The table of suffixes has no entry for the tag. -/
  | noSuffix (tag : KindTag)
  deriving DecidableEq

/-- What is said of a number without a literal. -/
def NumberFault.message : NumberFault → Text
  | notANumber => "cannot convert float NaN to integer"
  | infinite => "cannot convert float infinity to integer"
  | tooLarge => "int too large to convert to float"
  | noSuffix tag => tag.shown

/-- A table of suffixes for exactly the numeric kinds. -/
structure Suffixes where
  /-- The table. -/
  table : List (KindTag × Text)
  /-- It covers the numeric kinds and nothing else. -/
  covers : KindTag.mismatch? (table.map (·.1)) KindTag.numeric = none

namespace Suffixes

/-- The entry of a table for a tag. -/
def lookup? (tag : KindTag) : List (KindTag × Text) → Option Text
  | [] => none
  | (t, s) :: rest => if t = tag then some s else lookup? tag rest

/-- The suffixes of a table, or the tag that shows it not to cover the numeric kinds. -/
def ofTable (table : List (KindTag × Text)) : Except UnhandledKind Suffixes :=
  match h : KindTag.mismatch? (table.map (·.1)) KindTag.numeric with
  | none => .ok ⟨table, h⟩
  | some t => .error ⟨t, "<FormatPolicy.literal_suffixes>"⟩

/-- The suffix of a tag. -/
def suffix? (s : Suffixes) (tag : KindTag) : Option Text :=
  lookup? tag s.table

/-- The usual suffixes. -/
def standard : Suffixes where
  table :=
    [(.known .float, "F"), (.known .double, "D"), (.known .int32, ""), (.known .int64, "L"),
      (.known .uint32, ""), (.known .uint64, "UL"), (.known .sint32, ""), (.known .sint64, ""),
      (.known .fixed32, ""), (.known .fixed64, ""), (.known .sfixed32, ""), (.known .sfixed64, "")]
  covers := by decide

end Suffixes

/-- How many places a floating-point literal shows before an exponent is used. -/
def literalPrecision (single : Bool) : Nat :=
  if single then 7 else 15

/-- The text of a finite number as a literal of the single or the double kind, without a suffix. -/
def finiteLiteral (single negative : Bool) (m : Format.double.Magnitude) : List Char :=
  (Layout.literal (literalPrecision single)).finiteText
    (if single then shortestSingle else shortestDouble) negative m

/-- The type name that qualifies the constants of a floating kind. -/
def floatingName (single : Bool) : Text :=
  if single then "float" else "double"

/-- The integer that a number is written as for an integer kind: its part before the point. -/
def Number.toInt : Number → Except NumberFault Int
  | int n => .ok n
  | double .nan => .error .notANumber
  | double (.infinite _) => .error .infinite
  | double (.finite negative m) => .ok (Double.truncate negative m)

/-- The double that a number is written as for a floating kind. -/
def Number.toDouble : Number → Except NumberFault Double
  | double x => .ok x
  | int n =>
    match Double.ofInt? n with
    | some x => .ok x
    | none => .error .tooLarge

/-- A text with the suffix of a tag. -/
def Suffixes.append (s : Suffixes) (tag : KindTag) (text : List Char) :
    Except NumberFault Text :=
  match s.suffix? tag with
  | some suffix => .ok (Text.ofChars text ++ suffix)
  | none => .error (.noSuffix tag)

/-- The literal of a double.  What is not finite is a named constant and takes no suffix. -/
def Suffixes.floatingLiteral (s : Suffixes) (single : Bool) (x : Double) :
    Except NumberFault Text :=
  let tag := KindTag.known (if single then .float else .double)
  match if single then x.toSingle else x with
  | .nan => .ok (floatingName single ++ ".NaN")
  | .infinite negative =>
    .ok (floatingName single ++ (if negative then ".NegativeInfinity" else ".PositiveInfinity" : Text))
  | .finite negative m => s.append tag (finiteLiteral single negative m)

/-- The literal of a number for a field with a tag. -/
def Suffixes.literal (s : Suffixes) (tag : KindTag) (number : Number) :
    Except NumberFault Text :=
  match tag with
  | .known .float => number.toDouble.bind (s.floatingLiteral true)
  | .known .double => number.toDouble.bind (s.floatingLiteral false)
  | tag => number.toInt.bind fun n => s.append tag (integerText n)

end FieldCode
