import FieldCode.Build
import FieldCode.Document

/-!
# Reports

What is shown of a build, whether it came from a schema or from a document with missing values.  A
report has the shape of a graph, with a field in each place where the graph has one, and beside it
whatever the document lacks there.  For the graph of a schema nothing is lacking, and the report adds
nothing.
-/

namespace FieldCode

/-- Why a document has no report: its schema has no graph, or a missing value is in the way. -/
inductive ReportFault where
  /-- The schema has no graph. -/
  | schema (error : BuildError)
  /-- A number that is a truth value is used twice. -/
  | flagReused (field : Text) (number : Whole)
  /-- Something was asked of a missing value. -/
  | lacking
  /-- A missing value stands where a value is needed. -/
  | absent
  deriving DecidableEq

/-- What is said of a document whose schema is refused; nothing of what is no refusal. -/
def ReportFault.message? : ReportFault → Option Text
  | schema error => if error.isRefusal then some error.message else none
  | flagReused field number => some (field ++ ": field number " ++ number.shown ++ " reused")
  | lacking | absent => none

/-- An enum value as shown. -/
structure MemberEntry where
  /-- The name. -/
  name : Option Text
  /-- The number. -/
  number : Option Whole
  /-- The place among the values. -/
  index : Int
  deriving DecidableEq, Repr

/-- An enum value of which nothing is missing. -/
def EnumMember.entry (m : EnumMember) : MemberEntry :=
  ⟨some m.name, some (.int m.number), m.index⟩

/-- A field as shown. -/
structure FieldEntry where
  /-- The field, in which a missing name is the text that a message shows for it. -/
  field : Field
  /-- The name. -/
  name : Option Text
  /-- The number. -/
  number : Whole
  /-- The full name of the message that lists the field. -/
  container : Option Text
  /-- The declared name of the type that the field refers to. -/
  target : Option Text
  /-- The default, if it is an enum value of which something is missing. -/
  member : Option MemberEntry

/-- A field of which nothing is missing. -/
def Field.entry (f : Field) : FieldEntry :=
  ⟨f, some f.name, .int f.number, some f.container.fullName, f.target.map (·.name), none⟩

/-- The name that identifiers are derived from, if it is not missing. -/
def FieldEntry.sourceName (e : FieldEntry) : Option Text :=
  match e.field.kind, e.field.messageType with
  | .known .group, some _ => e.target
  | _, _ => e.name

/-- The settings for a field.  Only the message that lists a field can lack a full name, since no
reference leads to such a type, and a field that refers to no type asks for no other class. -/
def FieldEntry.settings (s : Settings) (e : FieldEntry) : Settings :=
  if e.container = none ∧ e.field.target = none then
    { s with className := fun _ => s.namelessClass }
  else s

/-- The fragments of a field.  A missing name makes no identifier, and a missing name of an enum value
no default. -/
def FieldEntry.sheet (s : Settings) (e : FieldEntry) : Sheet :=
  let sheet := e.field.sheet (e.settings s)
  let named := if e.sourceName = none then { sheet with name := .error .absent } else sheet
  match e.member with
  | some ⟨none, _, _⟩ => { named with default := .error (.noMember e.field.fullName) }
  | _ => named

/-- An enum as shown. -/
structure EnumEntry where
  /-- The declared name. -/
  name : Option Text
  /-- The full name. -/
  fullName : Option Text
  /-- The class name. -/
  className : Except FragmentFault Text
  /-- The values. -/
  members : List MemberEntry

/-- A message as shown. -/
structure MessageEntry where
  /-- The declared name. -/
  name : Option Text
  /-- The full name. -/
  fullName : Option Text
  /-- The class name. -/
  className : Except FragmentFault Text
  /-- The fields. -/
  fields : List FieldEntry
  /-- The messages declared inside. -/
  messages : List MessageEntry
  /-- The enums declared inside. -/
  enums : List EnumEntry

/-- A schema file as shown. -/
structure Report where
  /-- The package. -/
  package : Option Text
  /-- The messages at the top level. -/
  messages : List MessageEntry
  /-- The enums at the top level. -/
  enums : List EnumEntry
  /-- The settings for the fragments of its fields. -/
  settings : Settings

/-- What is left of a build: the texts of its log, and the report or the reason why there is none. -/
structure ReportOutcome where
  /-- The texts of the log records. -/
  log : List Text
  /-- The report, or why there is none. -/
  result : Except ReportFault Report

mutual

/-- A message and all messages inside it, each before those inside it. -/
def MessageEntry.walk : MessageEntry → List MessageEntry
  | ⟨name, fullName, className, fields, messages, enums⟩ =>
    ⟨name, fullName, className, fields, messages, enums⟩ :: MessageEntry.walkAll messages

/-- Some messages, each with all messages inside it. -/
def MessageEntry.walkAll : List MessageEntry → List MessageEntry
  | [] => []
  | m :: ms => m.walk ++ walkAll ms

end

/-- All messages, each before those inside it. -/
def Report.allMessages (r : Report) : List MessageEntry :=
  MessageEntry.walkAll r.messages

/-- All fields, message by message. -/
def Report.allFields (r : Report) : List FieldEntry :=
  r.allMessages.flatMap (·.fields)

/-! ## Reports of graphs -/

/-- An enum of which nothing is missing. -/
def EnumType.entry (className : TypeName → Text) (e : EnumType) : EnumEntry where
  name := some e.name
  fullName := some e.fullName
  className := .ok (className e.toTypeName)
  members := e.members.map EnumMember.entry

mutual

/-- A message of which nothing is missing. -/
def MessageType.entry (className : TypeName → Text) : MessageType → MessageEntry
  | ⟨names, fields, messages, enums⟩ =>
    ⟨some names.name, some names.fullName, .ok (className names), fields.map Field.entry,
      MessageType.entries className messages, enums.map (·.entry className)⟩

/-- Messages of which nothing is missing. -/
def MessageType.entries (className : TypeName → Text) : List MessageType → List MessageEntry
  | [] => []
  | m :: ms => m.entry className :: entries className ms

end

/-- The report of a graph. -/
def Graph.report (g : Graph) (style : Style) : Report where
  package := some g.package
  messages := MessageType.entries g.className g.messages
  enums := g.enums.map (·.entry g.className)
  settings := g.settings style

/-- The report of a build. -/
def BuildOutcome.report (o : BuildOutcome) (style : Style) : ReportOutcome where
  log := o.log.map LogRecord.text
  result :=
    match o.result with
    | .ok g => .ok (g.report style)
    | .error e => .error (.schema e)

end FieldCode
