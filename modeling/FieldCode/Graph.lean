import FieldCode.Kind
import FieldCode.Number.Layout
import FieldCode.Number.Numeral
import FieldCode.Schema

/-!
# The resolved graph

What a build makes of a schema: the same tree of messages and enums, in which every type has its full
name, every reference has been followed, and every default is a value.  A message refers to other
messages by name only, so the tree stays a tree although references may run in circles; enums, which
refer to nothing, are held whole.

A `Field` is deliberately loose: its default may be any value, its kind any tag and its place any
integer.  The build never makes a field in which they disagree, and what is rendered from one in which
they do is an error with a cause.
-/

namespace FieldCode

/-- A value of an enum, with its place in the declaration. -/
structure EnumMember where
  /-- The name. -/
  name : Text
  /-- The number. -/
  number : Int
  /-- The place among the values of the enum. -/
  index : Int
  deriving DecidableEq, Repr

/-- The names of a declared type. -/
structure TypeName where
  /-- The declared name. -/
  name : Text
  /-- The declared name within all scopes around it. -/
  fullName : Text
  deriving DecidableEq, Repr

/-- An enum. -/
structure EnumType extends TypeName where
  /-- The values, in the order of declaration. -/
  members : List EnumMember
  deriving DecidableEq, Repr

/-- The first value with a name. -/
def EnumType.find? (e : EnumType) (name : Text) : Option EnumMember :=
  e.members.find? fun m => m.name == name

/-- A default value. -/
inductive Value where
  /-- No value, which is the default of messages. -/
  | none
  | int (n : Int)
  | double (x : Double)
  | bool (b : Bool)
  | text (s : Text)
  | bytes (bs : List UInt8)
  | member (m : EnumMember)
  deriving DecidableEq

/-- A value as a message shows it. -/
def Value.shown : Value → Text
  | none => "None"
  | int n => Text.ofInt n
  | double x => Text.ofChars x.shown
  | bool true => "True"
  | bool false => "False"
  | text s => Text.quoted s
  | bytes bs => Text.quotedBytes bs
  | member m =>
    "EnumValueDescriptor(name=" ++ Text.quoted m.name ++ ", number=" ++ Text.ofInt m.number ++
      ", index=" ++ Text.ofInt m.index ++ ")"

/-- A field with everything about it resolved. -/
structure Field where
  /-- The declared name. -/
  name : Text
  /-- The name within the message. -/
  fullName : Text
  /-- The number. -/
  number : Int
  /-- The kind. -/
  kind : KindTag
  /-- The message that lists the field. -/
  container : TypeName
  /-- The place among the fields of the message. -/
  index : Int
  /-- The default value, explicit or implied by the kind. -/
  default : Value
  /-- The text of the explicit default. -/
  rawDefault : Option Text
  /-- The name of the generated property. -/
  propertyName : Text
  /-- The generated member obeys the common language rules. -/
  isCompliant : Bool
  /-- The message that a message or group field refers to. -/
  messageType : Option TypeName
  /-- The enum that an enum field refers to. -/
  enumType : Option EnumType
  deriving DecidableEq

/-- The type that a field refers to. -/
def Field.target (f : Field) : Option TypeName :=
  match f.messageType with
  | some m => some m
  | none => f.enumType.map (·.toTypeName)

/-- A message. -/
structure MessageType extends TypeName where
  /-- The fields, in the order of declaration. -/
  fields : List Field
  /-- The messages declared inside. -/
  messages : List MessageType
  /-- The enums declared inside. -/
  enums : List EnumType

/-- The types and fields of a schema file. -/
structure Graph where
  /-- The package. -/
  package : Text
  /-- The options of the file. -/
  options : FileOptions
  /-- The messages at the top level. -/
  messages : List MessageType
  /-- The enums at the top level. -/
  enums : List EnumType

mutual

/-- A message and all messages inside it, each before those inside it. -/
def MessageType.walk : MessageType → List MessageType
  | ⟨names, fields, messages, enums⟩ => ⟨names, fields, messages, enums⟩ :: walkAll messages

/-- Some messages, each with all messages inside it. -/
def MessageType.walkAll : List MessageType → List MessageType
  | [] => []
  | m :: ms => m.walk ++ walkAll ms

end

namespace Graph

/-- All messages, each before those inside it. -/
def allMessages (g : Graph) : List MessageType :=
  MessageType.walkAll g.messages

/-- All fields, message by message. -/
def allFields (g : Graph) : List Field :=
  g.allMessages.flatMap (·.fields)

/-- All enums, those of the file first and then message by message. -/
def allEnums (g : Graph) : List EnumType :=
  g.enums ++ g.allMessages.flatMap (·.enums)

/-- The names of all types of the graph. -/
def typeNames (g : Graph) : List TypeName :=
  g.allEnums.map (·.toTypeName) ++ g.allMessages.map (·.toTypeName)

end Graph

end FieldCode
