import FieldCode.Document
import FieldCode.Json

/-!
# Encoding documents

The JSON object of a record has a member for every entry, in the order of declaration, whether or not
the entry has its default; a missing entry is `null`.
-/

namespace FieldCode

/-- The value of a text entry. -/
def Json.ofText? : Option Text → Json
  | some s => .text s
  | none => .null

/-- The value of a truth entry. -/
def Json.ofFlag? : Option Bool → Json
  | some b => .bool b
  | none => .null

/-- The value of a number entry. -/
def Json.ofWhole? : Option Whole → Json
  | some (.int n) => .int n
  | some (.flag b) => .bool b
  | none => .null

/-- The value of a list entry. -/
def Json.ofList? {α : Type} (encode : α → Json) : Option (List α) → Json
  | some as => .array (as.map encode)
  | none => .null

/-- Encodes the options of a schema file. -/
def FileOptionsDoc.encode (d : FileOptionsDoc) : Json :=
  .object
    [("namespace", .ofText? d.rootNamespace), ("umbrella_classname", .ofText? d.umbrella),
      ("nest_classes", .ofFlag? d.nested), ("cls_compliance", .ofFlag? d.marksCompliance)]

/-- Encodes the names of the runtime library. -/
def RuntimeNamesDoc.encode (d : RuntimeNamesDoc) : Json :=
  .object
    [("runtime_alias", .ofText? d.qualifier), ("null_check", .ofText? d.nullCheck),
      ("cls_compliant_attribute", .ofText? d.compliance)]

/-- Encodes a value of an enum. -/
def EnumValueDoc.encode (d : EnumValueDoc) : Json :=
  .object [("name", .ofText? d.name), ("number", .ofWhole? d.number)]

/-- Encodes an enum. -/
def EnumDoc.encode (d : EnumDoc) : Json :=
  .object [("name", .ofText? d.name), ("values", .ofList? EnumValueDoc.encode d.values)]

/-- Encodes a field. -/
def FieldDoc.encode (d : FieldDoc) : Json :=
  .object
    [("name", .ofText? d.name), ("number", .ofWhole? d.number), ("type", .ofText? d.type),
      ("type_name", .ofText? d.typeName), ("default", .ofText? d.default),
      ("property_name", .ofText? d.propertyName)]

mutual

/-- Encodes a message. -/
def MessageDoc.encode : MessageDoc → Json
  | ⟨name, fields, messages, enums⟩ =>
    .object
      [("name", .ofText? name), ("fields", .ofList? FieldDoc.encode fields),
        ("messages", MessageDoc.encodeInner messages),
        ("enums", .ofList? EnumDoc.encode enums)]

/-- Encodes the messages inside a message. -/
def MessageDoc.encodeInner : Option (List MessageDoc) → Json
  | some ms => .array (MessageDoc.encodeEach ms)
  | none => .null

/-- Encodes messages one after the other. -/
def MessageDoc.encodeEach : List MessageDoc → List Json
  | [] => []
  | m :: ms => m.encode :: encodeEach ms

end

/-- Encodes a schema file. -/
def SchemaDoc.encode (d : SchemaDoc) : Json :=
  .object
    [("package", .ofText? d.package),
      ("options", match d.options with
        | some options => options.encode
        | none => .null),
      ("messages", MessageDoc.encodeInner d.messages),
      ("enums", .ofList? EnumDoc.encode d.enums)]

end FieldCode
