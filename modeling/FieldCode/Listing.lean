import FieldCode.Json.Printer
import FieldCode.Report
import FieldCode.Table

/-!
# Listings of fields

The fragments of all fields of a file, as a JSON object with one member for each field or as a table
with one line for each.  The object is keyed by full names, so of two fields that share one the later
gives the value and the earlier the place.
-/

namespace FieldCode

/-- All fragments of a field, none of which failed. -/
structure Fragments where
  /-- The name of the property. -/
  propertyName : Text
  /-- The identifier of the field. -/
  name : Text
  /-- The number of the field. -/
  number : Whole
  /-- The tag of the kind. -/
  type : Text
  /-- The type of the values. -/
  typeName : Text
  /-- The expression of the default. -/
  default : Text
  /-- The encoded size, if it is fixed. -/
  encodedSize : Option Nat
  /-- A value can be missing. -/
  nullable : Bool
  /-- The statement that refuses a missing value. -/
  nullCheck : Text
  /-- The mark of members that break the common language rules. -/
  compliance : Text
  deriving DecidableEq, Repr

/-- The fragments of a field, or the first that fails. -/
def FieldEntry.fragments (s : Settings) (e : FieldEntry) : Except FragmentFault Fragments := do
  let sheet := e.sheet s
  let name ← sheet.name
  let type ← sheet.type
  let typeName ← sheet.typeName
  let default ← sheet.default
  let encodedSize ← sheet.encodedSize
  let nullable ← sheet.nullable
  let nullCheck ← sheet.nullCheck
  let compliance ← sheet.compliance
  return ⟨sheet.propertyName, name, e.number, type, typeName, default, encodedSize, nullable,
    nullCheck, compliance⟩

namespace Listing

/-! ## As JSON -/

/-- The value of a whole number. -/
def numberJson : Whole → Json
  | .int n => .int n
  | .flag b => .bool b

/-- The fragments of a field as an object. -/
def fragmentsJson (f : Fragments) : Json :=
  .object
    [("property_name", .text f.propertyName), ("name", .text f.name),
      ("number", numberJson f.number), ("type", .text f.type), ("type_name", .text f.typeName),
      ("default", .text f.default), ("fixed_size", .int (sizeCode f.encodedSize)),
      ("nullable", .bool f.nullable), ("null_check", .text f.nullCheck),
      ("cls_compliance", .text f.compliance)]

/-- The fragments of some fields, each with the full name of its field. -/
def fragmentsAll (s : Settings) : List FieldEntry → Except FragmentFault (List (Text × Fragments))
  | [] => .ok []
  | e :: es => do
    let f ← e.fragments s
    let fs ← fragmentsAll s es
    return (e.field.fullName, f) :: fs

/-- The listing of fields as an object. -/
def object (fields : List (Text × Fragments)) : Json :=
  .object (Json.assemble (fields.map fun f => (f.1, fragmentsJson f.2)))

/-! ## As a table -/

/-- The columns. -/
def columns : List Column :=
  [⟨"Field", false⟩, ⟨"#", true⟩, ⟨"Type", false⟩, ⟨"C# Type", false⟩, ⟨"Default", false⟩,
    ⟨"Size", true⟩, ⟨"Nullable", false⟩, ⟨"CLS", false⟩]

/-- An encoded size as a cell. -/
def sizeText : Option Nat → Text
  | some n => toString n ++ " bytes"
  | none => "variable"

/-- The cells of a field.  Brackets in a type name or a default are no markup, those in a full name
are. -/
def cells (s : Settings) (e : FieldEntry) : Except FragmentFault (List Text) := do
  let sheet := e.sheet s
  let type ← sheet.type
  let typeName ← sheet.typeName
  let default ← sheet.default
  let encodedSize ← sheet.encodedSize
  let nullable ← sheet.nullable
  return [e.field.fullName, e.number.shown, type, Text.escaped typeName, Text.escaped default,
    sizeText encodedSize, if nullable then "yes" else [],
    if e.field.isCompliant then [] else "non-compliant"]

/-- The rows of some fields. -/
def rows (s : Settings) : List FieldEntry → Except FragmentFault (List (List Text))
  | [] => .ok []
  | e :: es => do
    let row ← cells s e
    let more ← rows s es
    return row :: more

/-- The listing of fields as a table. -/
def table (rows : List (List Text)) : Table :=
  ⟨columns, rows⟩

/-- What stands above the table. -/
def title (package : Option Text) : Text :=
  let name := package.getD []
  "Package " ++ (if name = [] then "(none)" else name : Text)

end Listing

end FieldCode
