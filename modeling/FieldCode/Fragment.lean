import FieldCode.ClassName
import FieldCode.Number.Literal
import FieldCode.Text.Case
import FieldCode.Text.Literal

/-!
# Fragments of generated code

For each field the generators need a handful of fragments: the names of the property and of its type,
the expression of the default, the encoded size, the statement that refuses a missing value, the
attribute that marks a member as breaking the common language rules.  Each is a function of the field
and of the settings, and each can fail in a way of its own, since a field may hold anything.

A default that has no literal is written as a *reference*: an expression that reads it back from the
compiled description of the containing class, by the position of the field.  Byte strings always take
this form, and texts do unless all their characters are plain.
-/

namespace FieldCode

/-- Why a fragment cannot be written. -/
inductive FragmentFault where
  /-- The tag of the field has no rule. -/
  | unhandled (fault : UnhandledKind)
  /-- The default of a numeric field is no number. -/
  | notNumeric (field : Text) (value : Value)
  /-- The default of a truth-valued field is no truth value. -/
  | notBool (field : Text) (value : Value)
  /-- The default of an enum field is no enum value. -/
  | noMember (field : Text)
  /-- An enum field lacks its enum. -/
  | noEnum (field : Text)
  /-- A message field lacks its message. -/
  | noMessage (field : Text)
  /-- The number has no literal. -/
  | number (fault : NumberFault)
  /-- Something was asked of a value that does not have it. -/
  | lacking
  /-- A missing value stands where a text is needed. -/
  | absent
  deriving DecidableEq

/-- What is said of a fragment that cannot be written; nothing is known of a value that lacks what it
is asked for. -/
def FragmentFault.message? : FragmentFault → Option Text
  | unhandled fault => some fault.message
  | notNumeric field value => some (field ++ " has non-numeric default " ++ value.shown)
  | notBool field value => some (field ++ " has non-bool default " ++ value.shown)
  | noMember field => some (field ++ " has no default enum value")
  | noEnum field => some (field ++ " is an enum field without an enum type")
  | noMessage field => some (field ++ " is a message field without a message type")
  | number fault => some fault.message
  | lacking | absent => none

/-- The names of the runtime library that generated code refers to. -/
structure RuntimeNames where
  /-- What qualifies a name of the library. -/
  qualifier : Text := "pb::"
  /-- The function that refuses a missing value. -/
  nullCheck : Text := "ThrowHelper.ThrowIfNull"
  /-- The attribute that states compliance with the common language rules. -/
  compliance : Text := "global::System.CLSCompliant"
  deriving DecidableEq, Repr

/-- A qualified name of the runtime library. -/
def RuntimeNames.qualified (r : RuntimeNames) (name : Text) : Text :=
  r.qualifier ++ name

/-- What the fragments of a field depend on besides the field. -/
structure Settings where
  /-- The class of a type. -/
  className : TypeName → Except FragmentFault Text
  /-- The class of a type without a full name, which only an incomplete document has. -/
  namelessClass : Except FragmentFault Text := .error .lacking
  /-- The suffixes of number literals. -/
  suffixes : Suffixes
  /-- The names of the runtime library. -/
  runtime : RuntimeNames
  /-- The file marks members that break the common language rules. -/
  marksCompliance : Except FragmentFault Bool
  /-- The name of the parameter that is checked for a missing value. -/
  parameter : Text

namespace Field

/-- The kind of a field, if its tag has one. -/
def kind? (f : Field) : Except FragmentFault Kind :=
  match f.kind.kind f.fullName with
  | .ok k => .ok k
  | .error e => .error (.unhandled e)

/-- The type of the field's values. -/
def typeName (s : Settings) (f : Field) : Except FragmentFault Text :=
  match f.kind? with
  | .error e => .error e
  | .ok .enum =>
    match f.enumType with
    | some e => s.className e.toTypeName
    | none => .error (.noEnum f.fullName)
  | .ok k =>
    match k.typeName? s.runtime.qualified with
    | some name => .ok name
    | none =>
      match f.messageType with
      | some m => s.className m
      | none => .error (.noMessage f.fullName)

/-- The expression that reads the default back from the description of the class. -/
def reference (s : Settings) (f : Field) (cast : Text) : Except FragmentFault Text :=
  (s.className f.container).map fun owner =>
    "(" ++ cast ++ ") " ++ owner ++ ".Descriptor.Fields[" ++
      Text.ofInt f.index ++ "].DefaultValue"

/-- The expression of a numeric default. -/
def numericDefault (s : Settings) (f : Field) : Except FragmentFault Text :=
  let literal (n : Number) : Except FragmentFault Text :=
    match s.suffixes.literal f.kind n with
    | .ok text => .ok text
    | .error e => .error (.number e)
  match f.default with
  | .int n => literal (.int n)
  | .double x => literal (.double x)
  | value => .error (.notNumeric f.fullName value)

/-- The expression of a truth value. -/
def boolDefault (f : Field) : Except FragmentFault Text :=
  match f.default with
  | .bool true => .ok "true"
  | .bool false => .ok "false"
  | value => .error (.notBool f.fullName value)

/-- The expression of a default text: a literal if it is plain, and otherwise a reference. -/
def textDefault (s : Settings) (f : Field) : Except FragmentFault Text :=
  let text := f.rawDefault.getD []
  if Text.allPlain text then .ok (Text.literal text) else f.reference s "string"

/-- The expression of a default byte string: the empty one, or a reference. -/
def bytesDefault (s : Settings) (f : Field) : Except FragmentFault Text :=
  match f.typeName s with
  | .error e => .error e
  | .ok type =>
    match f.rawDefault with
    | none => .ok (type ++ ".Empty")
    | some _ => f.reference s type

/-- The expression of a default enum value. -/
def enumDefault (s : Settings) (f : Field) : Except FragmentFault Text :=
  match f.default with
  | .member m => (f.typeName s).map fun type => type ++ "." ++ m.name
  | _ => .error (.noMember f.fullName)

/-- The expression of the default. -/
def defaultText (s : Settings) (f : Field) : Except FragmentFault Text :=
  match f.kind? with
  | .error e => .error e
  | .ok k =>
    match k.family with
    | .numeric => f.numericDefault s
    | .bool => f.boolDefault
    | .string => f.textDefault s
    | .bytes => f.bytesDefault s
    | .enum => f.enumDefault s
    | .message => (f.typeName s).map (· ++ ".DefaultInstance")

/-- How many bytes every value of the field takes; none if that depends on the value. -/
def encodedSize (f : Field) : Except FragmentFault (Option Nat) :=
  f.kind?.map Kind.fixedSize?

/-- A value of the field can be missing. -/
def isNullable (f : Field) : Except FragmentFault Bool :=
  f.kind?.map Kind.isReference

/-- The statement that refuses a missing value, empty if none can be missing. -/
def nullCheck (s : Settings) (f : Field) : Except FragmentFault Text :=
  f.isNullable.map fun nullable =>
    if nullable then
      s.runtime.qualified s.runtime.nullCheck ++ "(" ++ s.parameter ++ ", \"" ++ s.parameter ++
        "\");"
    else []

/-- The attribute that marks the member as breaking the common language rules, empty if it does not
or if the file marks nothing. -/
def complianceMark (s : Settings) (f : Field) : Except FragmentFault Text :=
  if f.isCompliant then .ok []
  else
    s.marksCompliance.map fun marks =>
      if marks then "[" ++ s.runtime.compliance ++ "(false)]" else []

/-- The tag that picks the routines of the kind. -/
def tagText (f : Field) : Except FragmentFault Text :=
  match f.kind with
  | .known k => .ok k.tag
  | .unknown _ _ => .error .lacking

/-- Which of the two nested forms the routines of the field are for. -/
def messageOrGroup (f : Field) : Text :=
  if f.kind = .known .group then "Group" else "Message"

/-- The name that identifiers are derived from: that of the type for a group, and otherwise that of
the field. -/
def sourceName (f : Field) : Text :=
  match f.kind, f.messageType with
  | .known .group, some m => m.name
  | _, _ => f.name

/-- The identifier of the field. -/
def identifier (f : Field) : Text :=
  Text.camel f.sourceName

end Field

/-- The fragments of a field, each on its own. -/
structure Sheet where
  /-- The name of the property. -/
  propertyName : Text
  /-- The identifier of the field. -/
  name : Except FragmentFault Text
  /-- The number of the field. -/
  number : Int
  /-- The tag of the kind. -/
  type : Except FragmentFault Text
  /-- Which of the two nested forms the routines are for. -/
  messageOrGroup : Text
  /-- The type of the values. -/
  typeName : Except FragmentFault Text
  /-- The expression of the default. -/
  default : Except FragmentFault Text
  /-- The encoded size, if it is fixed. -/
  encodedSize : Except FragmentFault (Option Nat)
  /-- A value can be missing. -/
  nullable : Except FragmentFault Bool
  /-- The statement that refuses a missing value. -/
  nullCheck : Except FragmentFault Text
  /-- The mark of members that break the common language rules. -/
  compliance : Except FragmentFault Text

/-- The fragments of a field. -/
def Field.sheet (s : Settings) (f : Field) : Sheet where
  propertyName := f.propertyName
  name := .ok f.identifier
  number := f.number
  type := f.tagText
  messageOrGroup := f.messageOrGroup
  typeName := f.typeName s
  default := f.defaultText s
  encodedSize := f.encodedSize
  nullable := f.isNullable
  nullCheck := f.nullCheck s
  compliance := f.complianceMark s

/-- The number that stands for an encoded size: that of the bytes, and -1 if it is not fixed. -/
def sizeCode : Option Nat → Int
  | some n => n
  | none => -1

/-- What a user of the library chooses about fragments, for all files alike. -/
structure Style where
  /-- The suffixes of number literals. -/
  suffixes : Suffixes := .standard
  /-- The names of the runtime library. -/
  runtime : RuntimeNames := {}
  /-- How classes are named, if not by their full names. -/
  namer : Option (TypeName → Text) := none
  /-- The name of the parameter that is checked for a missing value. -/
  parameter : Text := "value"

/-- The settings for the fields of a graph. -/
def Graph.settings (g : Graph) (style : Style) : Settings where
  className t := .ok ((style.namer.getD g.className) t)
  suffixes := style.suffixes
  runtime := style.runtime
  marksCompliance := .ok g.options.marksCompliance
  parameter := style.parameter

end FieldCode
