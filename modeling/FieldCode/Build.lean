import FieldCode.Default
import FieldCode.Registry
import FieldCode.Text.Case

/-!
# Building the graph of a schema

A build has two steps.  The first registers every message and enum, in the order enums before
messages and a message before what is inside it; it fails on a full name that is taken and on an enum
without values.  The second resolves the fields, message by message, against the finished registry.

Since the registry does not change during the second step, a field is resolved from what stands at
its place alone: its declaration, its message, its position and the numbers of the fields before it.
This is a `FieldSite`, and the second step is a function on sites.  The log follows from that too: it
has one record for each reference that was followed, up to and including the first site that fails.

Messages may be nested to any depth: the recursion is taken to be unlimited.  A number of any length can
be compared, but one with too many digits cannot be written, not even in an error.
-/

namespace FieldCode

/-- Why a schema has no graph. -/
inductive BuildError where
  /-- The full name is taken. -/
  | alreadyDefined (fullName : Text)
  /-- The enum has no values. -/
  | emptyEnum (fullName : Text)
  /-- The text names no kind. -/
  | unknownKind (field text : Text)
  /-- The field number is zero or less. -/
  | numberNotPositive (field : Text)
  /-- An earlier field of the message has the number. -/
  | numberReused (field : Text) (number : Int)
  /-- An earlier field of the message has the number, which is too long to be written. -/
  | numberTooLong
  /-- The kind needs a reference, and there is none. -/
  | missingReference (field : Text) (kind : Kind)
  /-- The reference leads to no type of the right sort. -/
  | unresolved (field reference : Text) (kind : Kind)
  /-- The text is no default of the kind. -/
  | badDefault (field : Text) (fault : DefaultFault)
  deriving DecidableEq

/-- What is said of a default that is refused. -/
def badDefaultMessage (field : Text) (fault : DefaultFault) : Text :=
  "Invalid default for " ++ field ++ ": " ++ fault.message

/-- What is said of a text that names no kind. -/
def unknownKindMessage (text : Text) : Text :=
  "Unknown field type: " ++ text

/-- What is said of a schema without a graph. -/
def BuildError.message : BuildError → Text
  | alreadyDefined fullName => fullName ++ " is already defined"
  | emptyEnum fullName => "Enum " ++ fullName ++ " must have at least one value"
  | unknownKind field text => field ++ ": " ++ unknownKindMessage text
  | numberNotPositive field => field ++ ": field numbers must be positive"
  | numberReused field number =>
    field ++ ": field number " ++ Text.ofInt number ++ " reused"
  | numberTooLong =>
    "Exceeds the limit (" ++ toString Numeral.maxDigits ++
      " digits) for integer string conversion; use sys.set_int_max_str_digits() to increase the limit"
  | missingReference field kind => field ++ ": " ++ kind.tag ++ " fields need a type_name"
  | unresolved field reference kind =>
    field ++ ": " ++ reference ++ " is not a known " ++
      (if kind = .enum then "enum" else "message" : Text) ++ " type"
  | badDefault field fault => badDefaultMessage field fault

/-- The schema is refused.  The other way to fail is that a refusal cannot be put into words. -/
def BuildError.isRefusal : BuildError → Bool
  | numberTooLong => false
  | _ => true

/-- A record of the log. -/
inductive LogRecord where
  /-- A reference was followed to a type. -/
  | resolved (reference fullName : Text)
  /-- The build is done. -/
  | built (messages enums : Nat) (package : Text)
  deriving DecidableEq, Repr

/-- The text of a log record. -/
def LogRecord.text : LogRecord → Text
  | resolved reference fullName => "Resolved " ++ reference ++ " to " ++ fullName
  | built messages enums package =>
    "Built " ++ toString messages ++ " messages and " ++ toString enums ++ " enums for package " ++
      Text.quoted package

/-! ## Registering types -/

/-- A declared enum within a scope. -/
def EnumDecl.toType (scope : Text) (d : EnumDecl) : EnumType where
  name := d.name
  fullName := qualify scope d.name
  members := d.values.mapIdx fun i v => ⟨v.name, v.number, i⟩

/-- The names of a declared message within a scope. -/
def MessageDecl.names (scope : Text) (d : MessageDecl) : TypeName :=
  ⟨d.name, qualify scope d.name⟩

mutual

/-- The types that a message declares, itself first, in the order in which they are registered. -/
def MessageDecl.declared (scope : Text) : MessageDecl → List Declared
  | ⟨name, _, messages, enums⟩ =>
    let fullName := qualify scope name
    .message ⟨name, fullName⟩ :: enums.map (fun e => .enum (e.toType fullName)) ++
      MessageDecl.declaredAll fullName messages

/-- The types that some messages declare. -/
def MessageDecl.declaredAll (scope : Text) : List MessageDecl → List Declared
  | [] => []
  | m :: ms => m.declared scope ++ declaredAll scope ms

end

/-- The types that a schema declares, in the order in which they are registered. -/
def Schema.declared (s : Schema) : List Declared :=
  s.enums.map (fun e => .enum (e.toType s.package)) ++
    MessageDecl.declaredAll s.package s.messages

/-- The type is an enum without values. -/
def Declared.isEmptyEnum : Declared → Bool
  | enum e => e.members.isEmpty
  | message _ => false

/-- Registers types one after the other; `taken` are the full names registered so far. -/
def register (taken : List Text) : List Declared → Except BuildError Unit
  | [] => .ok ()
  | d :: ds =>
    if taken.contains d.fullName then .error (.alreadyDefined d.fullName)
    else if d.isEmptyEnum then .error (.emptyEnum d.fullName)
    else register (d.fullName :: taken) ds

/-- The registry of a schema whose types can all be registered. -/
def Schema.registry (s : Schema) : Except BuildError Registry :=
  match register [] s.declared with
  | .ok () => .ok (.ofList s.declared)
  | .error e => .error e

/-! ## Resolving fields -/

/-- A field declaration at its place. -/
structure FieldSite where
  /-- The message that lists the field. -/
  owner : TypeName
  /-- The place in the list. -/
  index : Nat
  /-- The numbers of the fields before it. -/
  earlier : List Int
  /-- The declaration. -/
  decl : FieldDecl
  deriving DecidableEq

/-- The field declarations of a message at their places. -/
def FieldSite.ofFields (owner : TypeName) (fields : List FieldDecl) : List FieldSite :=
  fields.mapIdx fun i d => ⟨owner, i, (fields.take i).map (·.number), d⟩

/-- The type is of the sort that a kind refers to. -/
def Declared.suits (k : Kind) : Declared → Bool
  | enum _ => k == .enum
  | message _ => k != .enum

namespace FieldSite

/-- The full name of the field. -/
def fullName (s : FieldSite) : Text :=
  s.owner.fullName ++ "." ++ s.decl.name

/-- The kind of the field and the type that it refers to, if its kind needs one. -/
def refer (r : Registry) (s : FieldSite) : Except BuildError (Kind × Option Declared) :=
  match Kind.ofName? s.decl.type with
  | none => .error (.unknownKind s.fullName s.decl.type)
  | some kind =>
    if s.decl.number ≤ 0 then .error (.numberNotPositive s.fullName)
    else if s.earlier.contains s.decl.number then
      if Numeral.Fits s.decl.number then .error (.numberReused s.fullName s.decl.number)
      else .error .numberTooLong
    else if kind.isComposite then
      let reference := s.decl.typeName.getD []
      if reference = [] then .error (.missingReference s.fullName kind)
      else
        match r.resolve reference s.owner.fullName with
        | some d =>
          if d.suits kind then .ok (kind, some d)
          else .error (.unresolved s.fullName reference kind)
        | none => .error (.unresolved s.fullName reference kind)
    else .ok (kind, none)

/-- The name that the property name is derived from: that of the type for a group, whose own name is
only a spelling of it, and otherwise that of the field. -/
def baseName (s : FieldSite) (kind : Kind) (target : Option Declared) : Text :=
  match kind, target with
  | .group, some (.message m) => m.name
  | _, _ => s.decl.name

/-- The name of the property: the one asked for, or the one derived. -/
def propertyName (s : FieldSite) (kind : Kind) (target : Option Declared) : Text :=
  let asked := s.decl.propertyName.getD []
  if asked = [] then Text.pascal (s.baseName kind target) else asked

/-- The letters that are kept for the common language rules themselves. -/
def reservedLetters : Text :=
  "Cls"

/-- The generated member obeys the common language rules: its type has a sign, and its name does not
open with the reserved letters. -/
def isCompliant (s : FieldSite) (kind : Kind) : Bool :=
  !kind.isUnsigned && !reservedLetters.isPrefixOf (Text.pascal s.decl.name)

/-- The enum among what a field can refer to. -/
def enumOf : Option Declared → Option EnumType
  | some (.enum e) => some e
  | _ => none

/-- The message among what a field can refer to. -/
def messageOf : Option Declared → Option TypeName
  | some (.message m) => some m
  | _ => none

/-- The default of the field: the explicit one, or the one its kind implies. -/
def defaultValue (s : FieldSite) (kind : Kind) (target : Option Declared) :
    Except BuildError Value :=
  match s.decl.default with
  | none => .ok (kind.impliedDefault (enumOf target))
  | some text =>
    match kind.readDefault text (enumOf target) with
    | .ok v => .ok v
    | .error fault => .error (.badDefault s.fullName fault)

/-- The field at a site. -/
def resolve (r : Registry) (s : FieldSite) : Except BuildError Field :=
  match s.refer r with
  | .error e => .error e
  | .ok (kind, target) =>
    match s.defaultValue kind target with
    | .error e => .error e
    | .ok default =>
      .ok
        { name := s.decl.name
          fullName := s.fullName
          number := s.decl.number
          kind := .known kind
          container := s.owner
          index := s.index
          default := default
          rawDefault := s.decl.default
          propertyName := s.propertyName kind target
          isCompliant := s.isCompliant kind
          messageType := messageOf target
          enumType := enumOf target }

/-- What is logged at a site: the reference that was followed, if there was one. -/
def log (r : Registry) (s : FieldSite) : List LogRecord :=
  match s.refer r with
  | .ok (_, some d) => [.resolved (s.decl.typeName.getD []) d.fullName]
  | _ => []

/-- The fields at some sites; the first site that fails decides. -/
def resolveAll (r : Registry) : List FieldSite → Except BuildError (List Field)
  | [] => .ok []
  | s :: ss =>
    match s.resolve r with
    | .error e => .error e
    | .ok f => (resolveAll r ss).map (f :: ·)

/-- What is logged at some sites, the first that fails being the last one visited. -/
def logAll (r : Registry) : List FieldSite → List LogRecord
  | [] => []
  | s :: ss =>
    s.log r ++
      match s.resolve r with
      | .error _ => []
      | .ok _ => logAll r ss

end FieldSite

/-! ## The whole schema -/

mutual

/-- All field sites of a message and of the messages inside it, in the order of resolution. -/
def MessageDecl.sites (scope : Text) : MessageDecl → List FieldSite
  | ⟨name, fields, messages, _⟩ =>
    FieldSite.ofFields ⟨name, qualify scope name⟩ fields ++
      MessageDecl.sitesAll (qualify scope name) messages

/-- All field sites of some messages. -/
def MessageDecl.sitesAll (scope : Text) : List MessageDecl → List FieldSite
  | [] => []
  | m :: ms => m.sites scope ++ sitesAll scope ms

end

/-- All field sites of a schema, in the order of resolution. -/
def Schema.sites (s : Schema) : List FieldSite :=
  MessageDecl.sitesAll s.package s.messages

mutual

/-- The message that a declaration resolves to. -/
def MessageDecl.resolve (r : Registry) (scope : Text) :
    MessageDecl → Except BuildError MessageType
  | ⟨name, fields, messages, enums⟩ =>
    let fullName := qualify scope name
    match FieldSite.resolveAll r (FieldSite.ofFields ⟨name, fullName⟩ fields) with
    | .error e => .error e
    | .ok fields =>
      match MessageDecl.resolveAll r fullName messages with
      | .error e => .error e
      | .ok messages =>
        .ok ⟨⟨name, fullName⟩, fields, messages, enums.map (·.toType fullName)⟩

/-- The messages that some declarations resolve to. -/
def MessageDecl.resolveAll (r : Registry) (scope : Text) :
    List MessageDecl → Except BuildError (List MessageType)
  | [] => .ok []
  | m :: ms =>
    match m.resolve r scope with
    | .error e => .error e
    | .ok m => (resolveAll r scope ms).map (m :: ·)

end

/-- What a build leaves: its log, and the graph or the reason why there is none. -/
structure BuildOutcome where
  /-- The log, first record first. -/
  log : List LogRecord
  /-- The graph, or why there is none. -/
  result : Except BuildError Graph

/-- The graph of a schema whose types are registered. -/
def Schema.resolve (s : Schema) (r : Registry) : Except BuildError Graph :=
  (MessageDecl.resolveAll r s.package s.messages).map fun messages =>
    ⟨s.package, s.options, messages, s.enums.map (·.toType s.package)⟩

/-- Builds the graph of a schema. -/
def Schema.build (s : Schema) : BuildOutcome :=
  match s.registry with
  | .error e => ⟨[], .error e⟩
  | .ok r =>
    let log := FieldSite.logAll r s.sites
    match s.resolve r with
    | .error e => ⟨log, .error e⟩
    | .ok g => ⟨log ++ [.built r.messages.length r.enums.length s.package], .ok g⟩

end FieldCode
