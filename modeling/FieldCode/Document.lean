import FieldCode.Fragment

/-!
# Schema documents

A schema file as it was read.  It has the shape of a schema, but a value may be missing anywhere, where
the file says `null`, and a number may be a truth value, which counts as one or zero and is shown as
what it is.  A document without either is *complete* and is a schema.

The types are those of schemas with every entry optional.  `SchemaDoc.complete?` is the passage
from one to the other, and the only one.
-/

namespace FieldCode

/-- A whole number in a document: an integer, or a truth value in the place of one. -/
inductive Whole where
  | int (n : Int)
  | flag (b : Bool)
  deriving DecidableEq, Repr

/-- What a whole number counts as. -/
def Whole.value : Whole → Int
  | int n => n
  | flag true => 1
  | flag false => 0

/-- A whole number as a message shows it. -/
def Whole.shown : Whole → Text
  | int n => Text.ofInt n
  | flag true => "True"
  | flag false => "False"

/-- A text as a message shows it, missing or not. -/
def shownText : Option Text → Text
  | some s => s
  | none => "None"

/-- The options of a schema file. -/
structure FileOptionsDoc where
  /-- The namespace of the generated classes. -/
  rootNamespace : Option Text := some []
  /-- The class that holds what belongs to the file as a whole. -/
  umbrella : Option Text := some []
  /-- The generated classes are nested in the umbrella class. -/
  nested : Option Bool := some false
  /-- Members that the common language rules forbid are marked. -/
  marksCompliance : Option Bool := some true
  deriving DecidableEq, Repr

/-- A declared value of an enum. -/
structure EnumValueDoc where
  /-- The name of the value. -/
  name : Option Text
  /-- Its number. -/
  number : Option Whole
  deriving DecidableEq, Repr

/-- A declared enum. -/
structure EnumDoc where
  /-- The name, without its scope. -/
  name : Option Text
  /-- The values. -/
  values : Option (List EnumValueDoc)
  deriving DecidableEq, Repr

/-- A declared field. -/
structure FieldDoc where
  /-- The name. -/
  name : Option Text
  /-- The number. -/
  number : Option Whole
  /-- The tag of the kind. -/
  type : Option Text
  /-- The declared type of a composite field. -/
  typeName : Option Text := none
  /-- The text of an explicit default. -/
  default : Option Text := none
  /-- The property name to use in place of the derived one. -/
  propertyName : Option Text := none
  deriving DecidableEq, Repr

/-- A declared message. -/
structure MessageDoc where
  /-- The name, without its scope. -/
  name : Option Text
  /-- The fields. -/
  fields : Option (List FieldDoc) := some []
  /-- The messages declared inside. -/
  messages : Option (List MessageDoc) := some []
  /-- The enums declared inside. -/
  enums : Option (List EnumDoc) := some []

/-- A schema file. -/
structure SchemaDoc where
  /-- The package. -/
  package : Option Text := some []
  /-- The options. -/
  options : Option FileOptionsDoc := some {}
  /-- The messages at the top level. -/
  messages : Option (List MessageDoc) := some []
  /-- The enums at the top level. -/
  enums : Option (List EnumDoc) := some []

/-- The names of the runtime library. -/
structure RuntimeNamesDoc where
  /-- What qualifies a name of the library. -/
  qualifier : Option Text := some "pb::"
  /-- The function that refuses a missing value. -/
  nullCheck : Option Text := some "ThrowHelper.ThrowIfNull"
  /-- The attribute that states compliance with the common language rules. -/
  compliance : Option Text := some "global::System.CLSCompliant"
  deriving DecidableEq, Repr

/-- The names to use: a missing one is used as it is shown. -/
def RuntimeNamesDoc.names (d : RuntimeNamesDoc) : RuntimeNames :=
  ⟨shownText d.qualifier, shownText d.nullCheck, shownText d.compliance⟩

/-! ## Complete documents -/

/-- Applies a partial function to a list; none if it fails on an entry. -/
def completeAll {α β : Type} (f : α → Option β) : List α → Option (List β)
  | [] => some []
  | a :: as =>
    match f a, completeAll f as with
    | some b, some bs => some (b :: bs)
    | _, _ => none

/-- The options, if nothing is missing. -/
def FileOptionsDoc.complete? : FileOptionsDoc → Option FileOptions
  | ⟨some rootNamespace, some umbrella, some nested, some marksCompliance⟩ =>
    some ⟨rootNamespace, umbrella, nested, marksCompliance⟩
  | _ => none

/-- The enum value, if nothing is missing. -/
def EnumValueDoc.complete? : EnumValueDoc → Option EnumValueDecl
  | ⟨some name, some (.int number)⟩ => some ⟨name, number⟩
  | _ => none

/-- The enum, if nothing is missing. -/
def EnumDoc.complete? : EnumDoc → Option EnumDecl
  | ⟨some name, some values⟩ => (completeAll EnumValueDoc.complete? values).map fun vs => ⟨name, vs⟩
  | _ => none

/-- The field, if nothing is missing that a field needs. -/
def FieldDoc.complete? : FieldDoc → Option FieldDecl
  | ⟨some name, some (.int number), some type, typeName, default, propertyName⟩ =>
    some ⟨name, number, type, typeName, default, propertyName⟩
  | _ => none

mutual

/-- The message, if nothing is missing. -/
def MessageDoc.complete? : MessageDoc → Option MessageDecl
  | ⟨some name, some fields, messages, some enums⟩ =>
    match completeAll FieldDoc.complete? fields, MessageDoc.completeInner? messages,
      completeAll EnumDoc.complete? enums with
    | some fields, some messages, some enums => some ⟨name, fields, messages, enums⟩
    | _, _, _ => none
  | _ => none

/-- The messages, if neither they nor anything in them is missing. -/
def MessageDoc.completeInner? : Option (List MessageDoc) → Option (List MessageDecl)
  | some ms => MessageDoc.completeList? ms
  | none => none

/-- The messages, if nothing in them is missing. -/
def MessageDoc.completeList? : List MessageDoc → Option (List MessageDecl)
  | [] => some []
  | m :: ms =>
    match m.complete?, completeList? ms with
    | some m, some ms => some (m :: ms)
    | _, _ => none

end

/-- The schema that a document is, if nothing is missing. -/
def SchemaDoc.complete? (d : SchemaDoc) : Option Schema :=
  match d.package, d.options.bind (·.complete?), MessageDoc.completeInner? d.messages,
    d.enums.bind (completeAll EnumDoc.complete?) with
  | some package, some options, some messages, some enums => some ⟨package, options, messages, enums⟩
  | _, _, _, _ => none

end FieldCode
