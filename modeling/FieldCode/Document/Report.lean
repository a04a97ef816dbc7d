import FieldCode.Report

/-!
# Reports of documents

A complete document is a schema, and its report is that of the schema's build.  A document in which
something is missing is built by the same two steps, and a missing value has its effect where it is
met: a list that is missing cannot be gone through, a missing number cannot be compared, and a missing
kind has no letters.  A missing name, on the other hand, only reads as the text a message shows for it,
and a type without a name in the empty scope has no full name at all, so no reference leads to it and
it opens no scope of its own.
-/

namespace FieldCode

/-- A computation that logs and may fail. -/
abbrev Logged :=
  ExceptT ReportFault (StateM (List Text))

/-- Adds a text to the log. -/
def Logged.add (texts : List Text) : Logged Unit :=
  modifyThe (List Text) (· ++ texts)

/-- A name within a scope, either of which may be missing; the empty scope and a missing one add
nothing. -/
def qualify? (scope name : Option Text) : Option Text :=
  match scope.getD [] with
  | [] => name
  | s => some (s ++ "." ++ shownText name)

/-- A type registered from a document. -/
structure KnownType where
  /-- The declared name. -/
  name : Option Text
  /-- The full name. -/
  fullName : Option Text
  /-- The values, if the type is an enum. -/
  members : Option (List MemberEntry)

/-- The names of the type, as messages show them. -/
def KnownType.names (t : KnownType) : TypeName :=
  ⟨shownText t.name, shownText t.fullName⟩

/-- The type as references find it: only under a full name. -/
def KnownType.declared? (t : KnownType) : Option Declared :=
  t.fullName.map fun _ =>
    match t.members with
    | none => .message t.names
    | some ms =>
      .enum ⟨t.names, ms.map fun m => ⟨shownText m.name, (m.number.map Whole.value).getD 0, m.index⟩⟩

/-- The values of an enum as shown. -/
def EnumDoc.members (d : EnumDoc) : List MemberEntry :=
  (d.values.getD []).mapIdx fun i v => ⟨v.name, v.number, i⟩

/-! ## Registering types -/

/-- Checks that a full name is not taken. -/
def checkFree (known : List KnownType) (fullName : Option Text) : Logged Unit :=
  if known.any fun t => t.fullName == fullName then
    throw (.schema (.alreadyDefined (shownText fullName)))
  else pure ()

/-- Registers enums in a scope. -/
def registerEnums (scope : Option Text) :
    List EnumDoc → List KnownType → Logged (List KnownType)
  | [], known => pure known
  | d :: ds, known => do
    let fullName := qualify? scope d.name
    checkFree known fullName
    if d.members.isEmpty then throw (.schema (.emptyEnum (shownText fullName)))
    registerEnums scope ds (known ++ [⟨d.name, fullName, some d.members⟩])

mutual

/-- Registers a message and what is inside it. -/
def MessageDoc.register (scope : Option Text) :
    MessageDoc → List KnownType → Logged (List KnownType)
  | ⟨name, _, messages, enums⟩, known => do
    let fullName := qualify? scope name
    checkFree known fullName
    let known := known ++ [⟨name, fullName, none⟩]
    match enums with
    | none => throw .absent
    | some enums =>
      let known ← registerEnums fullName enums known
      MessageDoc.registerInner fullName messages known

/-- Registers the messages inside a scope. -/
def MessageDoc.registerInner (scope : Option Text) :
    Option (List MessageDoc) → List KnownType → Logged (List KnownType)
  | none, _ => throw .absent
  | some ms, known => MessageDoc.registerEach scope ms known

/-- Registers messages one after the other. -/
def MessageDoc.registerEach (scope : Option Text) :
    List MessageDoc → List KnownType → Logged (List KnownType)
  | [], known => pure known
  | m :: ms, known => do
    let known ← m.register scope known
    registerEach scope ms known

end

/-- Registers all types of a document. -/
def SchemaDoc.register (d : SchemaDoc) : Logged (List KnownType) :=
  match d.enums with
  | none => throw .absent
  | some enums => do
    let known ← registerEnums d.package enums []
    MessageDoc.registerInner d.package d.messages known

/-! ## Class names -/

/-- The class name of a type, as far as the document says what it takes. -/
def SchemaDoc.className (d : SchemaDoc) (fullName : Option Text) : Except FragmentFault Text :=
  match d.options with
  | none => .error .lacking
  | some o =>
    let package := d.package.getD []
    let umbrella := o.umbrella.getD []
    -- The umbrella class is joined to the namespace before the name of the type is looked at.
    if o.nested = some true ∧ umbrella ≠ [] ∧ o.rootNamespace = none then .error .absent
    else if package = [] ∧ fullName = none then .error .lacking
    else
      match o.rootNamespace with
      | none => .error .absent
      | some outer =>
        .ok (classNameOf package ⟨outer, umbrella, o.nested.getD false, true⟩ (shownText fullName))

/-- The settings for the fields of a document. -/
def SchemaDoc.settings (d : SchemaDoc) (style : Style) : Settings where
  className t :=
    match style.namer with
    | some namer => .ok (namer t)
    | none => d.className (some t.fullName)
  namelessClass :=
    match style.namer with
    | some namer => .ok (namer ⟨shownText none, shownText none⟩)
    | none => d.className none
  suffixes := style.suffixes
  runtime := style.runtime
  marksCompliance :=
    match d.options with
    | some o => .ok (o.marksCompliance.getD false)
    | none => .error .lacking
  parameter := style.parameter

/-! ## Resolving fields -/

/-- What is missing from an enum value that is the default of a field. -/
def memberEntry? (known : List KnownType) (f : Field) : Option MemberEntry :=
  match f.default, f.enumType with
  | .member m, some e =>
    (known.find? fun k => k.fullName == some e.fullName).bind fun k =>
      (k.members.getD [])[m.index.toNat]?
  | _, _ => none

/-- The registry that a reference in a message is looked up in.  A message without a full name opens no
scope, so what stands inside a type that happens to be called as messages show a missing name is not
found from it. -/
def registryFor (known : List KnownType) (owner : KnownType) (reference : Text) : Registry :=
  let ds := known.filterMap KnownType.declared?
  Registry.ofList <|
    if owner.fullName = none then
      ds.filter fun d => d.fullName != qualify owner.names.fullName reference
    else ds

/-- The declared name of the type that a field refers to. -/
def targetName? (known : List KnownType) (f : Field) : Option Text :=
  f.target.bind fun t =>
    (known.find? fun k => k.fullName == some t.fullName).bind KnownType.name

/-- Resolves a field at its place. -/
def FieldDoc.entry (known : List KnownType) (owner : KnownType) (index : Nat)
    (earlier : List Int) (d : FieldDoc) : Logged FieldEntry := do
  let some type := d.type | throw .lacking
  let registry := registryFor known owner (d.typeName.getD [])
  let site (number : Int) : FieldSite :=
    ⟨owner.names, index, earlier,
      ⟨shownText d.name, number, type, d.typeName, d.default, d.propertyName⟩⟩
  -- The kind is looked at before the number is.
  if Kind.ofName? type = none then
    throw (.schema (.unknownKind (site 1).fullName type))
  let some number := d.number | throw .absent
  let site := site number.value
  Logged.add ((site.log registry).map LogRecord.text)
  match site.resolve registry with
  | .error (.numberReused field _) => throw (.flagReused field number)
  | .error e => throw (.schema e)
  | .ok field =>
    let member := memberEntry? known field
    -- A missing name is no name that a default could spell.
    if d.default.isSome && (member.map (·.name.isNone)).getD false then
      throw (.schema (.badDefault field.fullName
        (.noMember (shownText (field.enumType.map (·.fullName))) (d.default.getD []))))
    let target := targetName? known field
    let asked := d.propertyName.getD [] != []
    -- The property of a group is named after its type, unless it is given a name.
    if field.kind == .known .group && target.isNone && !asked then throw .absent
    -- The property name of an unsigned field that is given one does not depend on the field's name.
    let unsigned := match field.kind with
      | .known k => k.isUnsigned
      | .unknown _ _ => false
    if d.name.isNone && !(unsigned && asked) then throw .absent
    pure ⟨field, d.name, number, owner.fullName, target, member⟩

/-- Resolves the fields of a message. -/
def fieldEntries (known : List KnownType) (owner : KnownType) :
    Nat → List Int → List FieldDoc → Logged (List FieldEntry)
  | _, _, [] => pure []
  | index, earlier, d :: ds => do
    let entry ← d.entry known owner index earlier
    let rest ← fieldEntries known owner (index + 1) (earlier ++ [entry.number.value]) ds
    pure (entry :: rest)

/-- An enum as shown. -/
def EnumDoc.entry (doc : SchemaDoc) (scope : Option Text) (d : EnumDoc) : EnumEntry where
  name := d.name
  fullName := qualify? scope d.name
  className := doc.className (qualify? scope d.name)
  members := d.members

mutual

/-- Resolves a message and what is inside it. -/
def MessageDoc.entry (doc : SchemaDoc) (known : List KnownType) (scope : Option Text) :
    MessageDoc → Logged MessageEntry
  | ⟨name, fields, messages, enums⟩ => do
    let fullName := qualify? scope name
    match fields with
    | none => throw .absent
    | some fields =>
      let fields ← fieldEntries known ⟨name, fullName, none⟩ 0 [] fields
      let messages ← MessageDoc.entriesInner doc known fullName messages
      pure ⟨name, fullName, doc.className fullName, fields, messages,
        (enums.getD []).map (·.entry doc fullName)⟩

/-- Resolves the messages inside a scope. -/
def MessageDoc.entriesInner (doc : SchemaDoc) (known : List KnownType) (scope : Option Text) :
    Option (List MessageDoc) → Logged (List MessageEntry)
  | none => pure []
  | some ms => MessageDoc.entries doc known scope ms

/-- Resolves messages one after the other. -/
def MessageDoc.entries (doc : SchemaDoc) (known : List KnownType) (scope : Option Text) :
    List MessageDoc → Logged (List MessageEntry)
  | [] => pure []
  | m :: ms => do
    let m ← m.entry doc known scope
    let ms ← entries doc known scope ms
    pure (m :: ms)

end

/-- The text logged when a document is done. -/
def SchemaDoc.builtText (d : SchemaDoc) (known : List KnownType) : Text :=
  let messages := (known.filter (·.members.isNone)).length
  let enums := (known.filter (·.members.isSome)).length
  match d.package with
  | some package => (LogRecord.built messages enums package).text
  | none =>
    "Built " ++ toString messages ++ " messages and " ++ toString enums ++ " enums for package None"

/-- The report of a document in which something is missing. -/
def SchemaDoc.partialReport (d : SchemaDoc) (style : Style) : Logged Report := do
  let known ← d.register
  let messages ← MessageDoc.entriesInner d known d.package d.messages
  Logged.add [d.builtText known]
  pure
    { package := d.package
      messages := messages
      enums := (d.enums.getD []).map (·.entry d d.package)
      settings := d.settings style }

/-- The report of a document. -/
def SchemaDoc.report (d : SchemaDoc) (style : Style) : ReportOutcome :=
  match d.complete? with
  | some schema => schema.build.report style
  | none =>
    match (d.partialReport style).run [] with
    | (result, log) => ⟨log, result⟩

end FieldCode
