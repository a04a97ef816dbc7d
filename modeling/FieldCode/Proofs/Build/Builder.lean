import FieldCode.Proofs.Build.Sites

/-!
# The build step by step

`Schema.build` says what a build comes to, and here it is done.  A builder keeps two tables of types, the
messages whose fields are still to be added, and the log, and changes them one step at a time.  As long
as there are declarations to register, a step enters the first one under its full name and puts what is
declared inside it in front of the others.  Then the messages have their fields added, in the order in
which they were registered.  For each message the builder keeps the numbers it has seen; what it makes
of a field depends on them, on the tables and on how many fields there are already.

At the end the graph is read off: its tree is that of the declarations, and the fields of a message are
those that are kept under its full name.
-/

namespace FieldCode

/-- Enters a type in its table, unless its full name is in one of the tables. -/
def Registry.enter (r : Registry) (d : Declared) : Except BuildError Registry :=
  if (r.find? d.fullName).isSome then .error (.alreadyDefined d.fullName)
  else if d.isEmptyEnum then .error (.emptyEnum d.fullName)
  else
    match d with
    | .enum e => .ok { r with enums := r.enums ++ [e] }
    | .message m => .ok { r with messages := r.messages ++ [m] }

/-! ## Messages and their fields -/

/-- A message whose fields are being added. -/
structure Filling where
  /-- The message. -/
  owner : TypeName
  /-- The fields so far. -/
  fields : List Field
  /-- The numbers seen so far. -/
  numbers : List Int
  /-- The declarations to come. -/
  rest : List FieldDecl

namespace Filling

/-- A message without fields. -/
def start (owner : TypeName) (decls : List FieldDecl) : Filling :=
  ⟨owner, [], [], decls⟩

/-- The place of the next field. -/
def site (f : Filling) (d : FieldDecl) : FieldSite :=
  ⟨f.owner, f.fields.length, f.numbers, d⟩

/-- The message with its next field. -/
def add (f : Filling) (d : FieldDecl) (rest : List FieldDecl) (field : Field) : Filling :=
  ⟨f.owner, f.fields ++ [field], f.numbers ++ [d.number], rest⟩

end Filling

/-! ## Declarations to register -/

/-- A declaration that is to be registered, in its scope. -/
inductive Task where
  | enum (scope : Text) (decl : EnumDecl)
  | message (scope : Text) (decl : MessageDecl)

namespace Task

/-- The type that is registered. -/
def type : Task → Declared
  | enum scope d => .enum (d.toType scope)
  | message scope d => .message (d.names scope)

/-- What is declared inside, the enums first. -/
def inside : Task → List Task
  | enum _ _ => []
  | message scope ⟨name, _, messages, enums⟩ =>
    enums.map (enum (qualify scope name)) ++ messages.map (message (qualify scope name))

/-- The message, which has no fields yet. -/
def opened : Task → List Filling
  | enum _ _ => []
  | message scope d => [.start (d.names scope) d.fields]

end Task

/-! ## The builder -/

/-- How far a build is. -/
structure Builder where
  /-- The declarations to register, the next one first. -/
  tasks : List Task
  /-- The two tables. -/
  registry : Registry
  /-- The messages whose fields are to be added, the first one being at work. -/
  pending : List Filling
  /-- The messages that have all their fields. -/
  filled : List (TypeName × List Field)
  /-- The log. -/
  log : List LogRecord

/-- What a step comes to. -/
inductive Builder.Next where
  /-- The build goes on. -/
  | more (b : Builder)
  /-- The build fails. -/
  | failed (log : List LogRecord) (e : BuildError)
  /-- Nothing is left to do. -/
  | done

namespace Builder

/-- The builder before the first step. -/
def start (s : Schema) : Builder where
  tasks := s.enums.map (.enum s.package) ++ s.messages.map (.message s.package)
  registry := ⟨[], []⟩
  pending := []
  filled := []
  log := []

/-- The builder that has entered the type of its first declaration. -/
def entered (b : Builder) (t : Task) (tasks : List Task) (r : Registry) : Builder :=
  { b with tasks := t.inside ++ tasks, registry := r, pending := b.pending ++ t.opened }

/-- The builder that is through with its first message. -/
def closed (b : Builder) (f : Filling) (pending : List Filling) : Builder :=
  { b with pending := pending, filled := b.filled ++ [(f.owner, f.fields)] }

/-- The builder that has added a field to its first message. -/
def extended (b : Builder) (f : Filling) (pending : List Filling) (d : FieldDecl)
    (rest : List FieldDecl) (field : Field) : Builder :=
  { b with
    pending := f.add d rest field :: pending, log := b.log ++ (f.site d).log b.registry }

/-- One step of a build. -/
def step (b : Builder) : Next :=
  match b.tasks, b.pending with
  | t :: tasks, _ =>
    match b.registry.enter t.type with
    | .error e => .failed b.log e
    | .ok r => .more (b.entered t tasks r)
  | [], f :: pending =>
    match f.rest with
    | [] => .more (b.closed f pending)
    | d :: rest =>
      match (f.site d).resolve b.registry with
      | .error e => .failed (b.log ++ (f.site d).log b.registry) e
      | .ok field => .more (b.extended f pending d rest field)
  | [], [] => .done

/-- The ways a step can go. -/
inductive Steps (b : Builder) : Next → Prop
  | entered {t : Task} {tasks : List Task} {r : Registry} (ht : b.tasks = t :: tasks)
      (hr : b.registry.enter t.type = .ok r) : Steps b (.more (b.entered t tasks r))
  | typeRefused {t : Task} {tasks : List Task} {e : BuildError} (ht : b.tasks = t :: tasks)
      (he : b.registry.enter t.type = .error e) : Steps b (.failed b.log e)
  | closed {f : Filling} {pending : List Filling} (ht : b.tasks = [])
      (hp : b.pending = f :: pending) (hrest : f.rest = []) : Steps b (.more (b.closed f pending))
  | extended {f : Filling} {pending : List Filling} {d : FieldDecl} {rest : List FieldDecl}
      {field : Field} (ht : b.tasks = []) (hp : b.pending = f :: pending)
      (hrest : f.rest = d :: rest) (hfield : (f.site d).resolve b.registry = .ok field) :
      Steps b (.more (b.extended f pending d rest field))
  | fieldRefused {f : Filling} {pending : List Filling} {d : FieldDecl} {rest : List FieldDecl}
      {e : BuildError} (ht : b.tasks = []) (hp : b.pending = f :: pending)
      (hrest : f.rest = d :: rest) (he : (f.site d).resolve b.registry = .error e) :
      Steps b (.failed (b.log ++ (f.site d).log b.registry) e)
  | done (ht : b.tasks = []) (hp : b.pending = []) : Steps b .done

theorem steps_step (b : Builder) : b.Steps b.step := by
  unfold step
  split
  · next ht =>
    split
    · next he => exact .typeRefused ht he
    · next hr => exact .entered ht hr
  · next ht hp =>
    split
    · next hrest => exact .closed ht hp hrest
    · next hrest =>
      split
      · next he => exact .fieldRefused ht hp hrest he
      · next hfield => exact .extended ht hp hrest hfield
  · next ht hp => exact .done ht hp

end Builder

/-! ## What is left to do -/

/-- The types that a declaration and what is inside it register. -/
def Task.declared : Task → List Declared
  | enum scope d => [.enum (d.toType scope)]
  | message scope d => d.declared scope

/-- The messages at and inside a declaration, without fields. -/
def Task.fillings : Task → List Filling
  | enum _ _ => []
  | message scope d => (d.walk scope).map fun p => .start p.names p.decl.fields

theorem MessageDecl.declaredAll_eq_flatMap (scope : Text) (ms : List MessageDecl) :
    MessageDecl.declaredAll scope ms = (ms.map (Task.message scope)).flatMap Task.declared := by
  induction ms with
  | nil => rfl
  | cons m ms ih =>
    rw [MessageDecl.declaredAll, List.map_cons, List.flatMap_cons, ih]
    rfl

theorem MessageDecl.walkAll_eq_flatMap (scope : Text) (ms : List MessageDecl) :
    (MessageDecl.walkAll scope ms).map (fun p => Filling.start p.names p.decl.fields) =
      (ms.map (Task.message scope)).flatMap Task.fillings := by
  induction ms with
  | nil => rfl
  | cons m ms ih =>
    rw [MessageDecl.walkAll, List.map_append, List.map_cons, List.flatMap_cons, ih]
    rfl

/-- A declaration registers its own type and then what is inside it. -/
theorem Task.declared_eq (t : Task) : t.declared = t.type :: t.inside.flatMap Task.declared := by
  cases t with
  | enum scope d => rfl
  | message scope d =>
    obtain ⟨name, fields, messages, enums⟩ := d
    rw [Task.declared, MessageDecl.declared, Task.inside, List.flatMap_append,
      ← MessageDecl.declaredAll_eq_flatMap, List.flatMap_map, List.map_eq_flatMap]
    rfl

/-- A declaration leaves its own message to fill and then those inside it. -/
theorem Task.fillings_eq (t : Task) : t.fillings = t.opened ++ t.inside.flatMap Task.fillings := by
  cases t with
  | enum scope d => rfl
  | message scope d =>
    obtain ⟨name, fields, messages, enums⟩ := d
    have henums : (enums.map (Task.enum (qualify scope name))).flatMap Task.fillings = [] := by
      simp [Task.fillings]
    rw [Task.fillings, MessageDecl.walk, List.map_cons, MessageDecl.walkAll_eq_flatMap, Task.inside,
      List.flatMap_append, henums]
    rfl

namespace Builder

/-- The types still to be registered. -/
def toRegister (b : Builder) : List Declared :=
  b.tasks.flatMap Task.declared

/-- The messages still to be filled. -/
def toFill (b : Builder) : List Filling :=
  b.pending ++ b.tasks.flatMap Task.fillings

section Entered

variable {b : Builder} {t : Task} {tasks : List Task} (ht : b.tasks = t :: tasks) (r : Registry)

include ht

theorem toRegister_eq_cons : b.toRegister = t.type :: (b.entered t tasks r).toRegister := by
  rw [toRegister, ht, List.flatMap_cons, t.declared_eq, toRegister, entered, List.flatMap_append,
    List.cons_append]

theorem toFill_entered : (b.entered t tasks r).toFill = b.toFill := by
  rw [toFill, toFill, ht, List.flatMap_cons, t.fillings_eq, entered, List.flatMap_append]
  simp only [List.append_assoc]

end Entered

/-- How many steps are left: one for each type, one for each field, and one for each message when it
has its fields. -/
def weight (b : Builder) : Nat :=
  b.toRegister.length + (b.toFill.flatMap Filling.rest).length + b.toFill.length

theorem weight_lt_of_step {b b' : Builder} (h : b.step = .more b') : b'.weight < b.weight := by
  have hsteps := h ▸ b.steps_step
  cases hsteps with
  | @entered t tasks r ht hr =>
    rw [weight, weight, toFill_entered ht, toRegister_eq_cons ht r, List.length_cons]
    omega
  | closed ht hp hrest =>
    simp only [weight, toRegister, toFill, closed, hp, List.cons_append, List.flatMap_cons, hrest,
      List.length_cons, List.nil_append]
    omega
  | extended ht hp hrest hfield =>
    simp only [weight, toRegister, toFill, extended, hp, List.cons_append, List.flatMap_cons, hrest,
      Filling.add, List.length_cons, List.length_append]
    omega

end Builder

/-! ## The graph at the end -/

/-- The fields that are kept under a full name. -/
def fieldsUnder (fullName : Text) (filled : List (TypeName × List Field)) : List Field :=
  ((filled.find? fun p => p.1.fullName == fullName).map (·.2)).getD []

mutual

/-- The message of a declaration, with the fields that are kept for it. -/
def MessageDecl.withFields (filled : List (TypeName × List Field)) (scope : Text) :
    MessageDecl → MessageType
  | ⟨name, _, messages, enums⟩ =>
    let fullName := qualify scope name
    ⟨⟨name, fullName⟩, fieldsUnder fullName filled,
      MessageDecl.withFieldsAll filled fullName messages, enums.map (·.toType fullName)⟩

/-- The messages of some declarations. -/
def MessageDecl.withFieldsAll (filled : List (TypeName × List Field)) (scope : Text) :
    List MessageDecl → List MessageType
  | [] => []
  | m :: ms => m.withFields filled scope :: withFieldsAll filled scope ms

end

namespace Schema

/-- What a builder leaves that has nothing left to do. -/
def finish (s : Schema) (b : Builder) : BuildOutcome where
  log := b.log ++ [.built b.registry.messages.length b.registry.enums.length s.package]
  result := .ok ⟨s.package, s.options, MessageDecl.withFieldsAll b.filled s.package s.messages,
    s.enums.map (·.toType s.package)⟩

/-- Goes on from a builder until nothing is left to do. -/
def runFrom (s : Schema) (b : Builder) : BuildOutcome :=
  match _h : b.step with
  | .more b' => s.runFrom b'
  | .failed log e => ⟨log, .error e⟩
  | .done => s.finish b
termination_by b.weight
decreasing_by exact Builder.weight_lt_of_step _h

/-- Builds the graph of a schema step by step. -/
def run (s : Schema) : BuildOutcome :=
  s.runFrom (.start s)

end Schema

end FieldCode
