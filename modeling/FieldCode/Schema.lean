import FieldCode.Text.Rune

/-!
# Schemas

What a schema file declares, with every value of its declared type: messages with their fields,
nested messages and enums, and the options that shape class names.  References to types are still
texts here, and so are defaults; resolving them is the business of the build.
-/

namespace FieldCode

/-- The options of a schema file. -/
structure FileOptions where
  /-- The namespace of the generated classes. -/
  rootNamespace : Text := []
  /-- The class that holds what belongs to the file as a whole. -/
  umbrella : Text := []
  /-- The generated classes are nested in the umbrella class. -/
  nested : Bool := false
  /-- Members that the common language rules forbid are marked. -/
  marksCompliance : Bool := true
  deriving DecidableEq, Repr

/-- A declared value of an enum. -/
structure EnumValueDecl where
  /-- The name of the value. -/
  name : Text
  /-- Its number. -/
  number : Int
  deriving DecidableEq, Repr

/-- A declared enum. -/
structure EnumDecl where
  /-- The name, without its scope. -/
  name : Text
  /-- The values. -/
  values : List EnumValueDecl
  deriving DecidableEq, Repr

/-- A declared field. -/
structure FieldDecl where
  /-- The name. -/
  name : Text
  /-- The number that identifies the field in a message. -/
  number : Int
  /-- The kind, by its tag, upper and lower case taken as one. -/
  type : Text
  /-- The declared type of a composite field: relative to the scope of the message, or absolute with
  a leading dot. -/
  typeName : Option Text := none
  /-- The text of an explicit default. -/
  default : Option Text := none
  /-- The property name to use in place of the derived one. -/
  propertyName : Option Text := none
  deriving DecidableEq, Repr

/-- A declared message. -/
structure MessageDecl where
  /-- The name, without its scope. -/
  name : Text
  /-- The fields. -/
  fields : List FieldDecl := []
  /-- The messages declared inside. -/
  messages : List MessageDecl := []
  /-- The enums declared inside. -/
  enums : List EnumDecl := []

/-- A schema file. -/
structure Schema where
  /-- The package, which scopes every declaration of the file; may be empty. -/
  package : Text := []
  /-- The options. -/
  options : FileOptions := {}
  /-- The messages at the top level. -/
  messages : List MessageDecl := []
  /-- The enums at the top level. -/
  enums : List EnumDecl := []

end FieldCode
