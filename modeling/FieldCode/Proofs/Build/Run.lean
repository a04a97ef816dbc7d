import FieldCode.Proofs.Build.Builder
import FieldCode.Proofs.Build.Outcome

/-!
# The steps of a build come to the build

`Schema.answer` is what a builder is going to leave: what is still to be registered is entered in the
tables it has, and the fields still to be added are resolved at the places that it keeps for them.  No
step changes it (`Schema.answer_eq_step`), so the run from a builder ends with its answer
(`Schema.runFrom_eq_answer`), and the answer of the builder before the first step is the build
(`Schema.answer_start`).  Put together, `Schema.run_eq_build`: tables, pending messages and numbers seen
leave what `Schema.build` says, log and error included.

What carries the induction is that the places kept in a builder are the field sites of the schema:
`Filling.sites_of_rest` for a step within a message, and `Task.fillings_eq` for a message that is
registered.
-/

namespace FieldCode

/-! ## Entering types -/

namespace Registry

/-- Enters types one after the other. -/
def enterAll (r : Registry) : List Declared → Except BuildError Registry
  | [] => .ok r
  | d :: ds =>
    match r.enter d with
    | .error e => .error e
    | .ok r' => r'.enterAll ds

theorem isSome_find?_ofList {ds : List Declared} {name : Text} :
    ((ofList ds).find? name).isSome = true ↔ name ∈ ds.map Declared.fullName := by
  rw [← Option.ne_none_iff_isSome, Ne, find?_ofList_eq_none_iff, List.mem_map]
  push Not
  exact Iff.rfl

theorem enter_ofList (ds : List Declared) (d : Declared) :
    (ofList ds).enter d =
      if d.fullName ∈ ds.map Declared.fullName then .error (.alreadyDefined d.fullName)
      else if d.isEmptyEnum then .error (.emptyEnum d.fullName)
      else .ok (ofList (ds ++ [d])) := by
  unfold enter
  simp only [isSome_find?_ofList]
  cases d <;> simp [ofList]

/-- Types are entered one after the other as they are registered. -/
theorem enterAll_ofList {taken : List Text} {before : List Declared}
    (h : ∀ name, name ∈ taken ↔ name ∈ before.map Declared.fullName) (ds : List Declared) :
    (ofList before).enterAll ds = (register taken ds).map fun _ => ofList (before ++ ds) := by
  induction ds generalizing taken before with
  | nil => simp [enterAll, register, Except.map]
  | cons d ds ih =>
    have hnext : ∀ name, name ∈ d.fullName :: taken ↔
        name ∈ (before ++ [d]).map Declared.fullName := by
      intro name
      rw [List.mem_cons, h, List.map_append, List.mem_append, List.map_singleton,
        List.mem_singleton, or_comm]
    rw [enterAll, register, enter_ofList]
    by_cases htaken : d.fullName ∈ taken
    · simp [htaken, (h _).mp htaken, Except.map]
    · cases hempty : d.isEmptyEnum with
      | true => simp [htaken, (h _).not.mp htaken, Except.map]
      | false => simp [htaken, (h _).not.mp htaken, ih hnext]

end Registry

/-! ## Adding fields -/

namespace Filling

/-- The places of the fields to come. -/
def sites (f : Filling) : List FieldSite :=
  f.rest.mapIdx fun i d =>
    ⟨f.owner, f.fields.length + i, f.numbers ++ (f.rest.take i).map (·.number), d⟩

theorem sites_start (owner : TypeName) (decls : List FieldDecl) :
    (start owner decls).sites = FieldSite.ofFields owner decls := by
  simp [sites, start, FieldSite.ofFields]

/-- The first place is that of the next field, and the others are those of the message with it. -/
theorem sites_of_rest {f : Filling} {d : FieldDecl} {rest : List FieldDecl} (h : f.rest = d :: rest)
    (field : Field) : f.sites = f.site d :: (f.add d rest field).sites := by
  rw [sites, h, List.mapIdx_cons]
  refine List.cons_eq_cons.mpr ⟨by simp [site], ?_⟩
  simp only [sites, add]
  congr 1
  funext i e
  simp [Nat.add_assoc, Nat.add_comm 1 i]

/-- The message with all its fields. -/
def fill (r : Registry) (f : Filling) : Except BuildError (TypeName × List Field) :=
  (FieldSite.resolveAll r f.sites).map fun new => (f.owner, f.fields ++ new)

/-- Some messages with all their fields. -/
def fillAll (r : Registry) : List Filling → Except BuildError (List (TypeName × List Field))
  | [] => .ok []
  | f :: fs =>
    match f.fill r with
    | .error e => .error e
    | .ok p => (fillAll r fs).map (p :: ·)

theorem fill_of_rest_nil {r : Registry} {f : Filling} (h : f.rest = []) :
    f.fill r = .ok (f.owner, f.fields) := by
  simp [fill, sites, h, FieldSite.resolveAll, Except.map]

theorem fill_of_rest {r : Registry} {f : Filling} {d : FieldDecl} {rest : List FieldDecl}
    (h : f.rest = d :: rest) {field : Field} (hfield : (f.site d).resolve r = .ok field) :
    f.fill r = (f.add d rest field).fill r := by
  rw [fill, fill, sites_of_rest h field, FieldSite.resolveAll, hfield]
  cases FieldSite.resolveAll r (f.add d rest field).sites <;> simp [Except.map, add]

theorem exists_sites_eq_cons {f : Filling} {d : FieldDecl} {rest : List FieldDecl}
    (h : f.rest = d :: rest) : ∃ tail, f.sites = f.site d :: tail := by
  refine ⟨f.sites.tail, List.eq_cons_of_mem_head? ?_⟩
  rw [sites, h, List.mapIdx_cons, List.head?_cons]
  simp [site]

theorem fill_of_error {r : Registry} {f : Filling} {d : FieldDecl} {rest : List FieldDecl}
    (h : f.rest = d :: rest) {e : BuildError} (he : (f.site d).resolve r = .error e) :
    f.fill r = .error e := by
  obtain ⟨tail, htail⟩ := exists_sites_eq_cons h
  rw [fill, htail, FieldSite.resolveAll, he]
  rfl

/-- Messages are filled exactly if the places of their fields resolve. -/
theorem fillAll_eq_error_iff {r : Registry} {fs : List Filling} {e : BuildError} :
    fillAll r fs = .error e ↔ FieldSite.resolveAll r (fs.flatMap sites) = .error e := by
  induction fs with
  | nil => simp [fillAll, FieldSite.resolveAll]
  | cons f fs ih =>
    rw [fillAll, fill, List.flatMap_cons, FieldSite.resolveAll_append]
    cases FieldSite.resolveAll r f.sites with
    | error e' => simp [Except.map]
    | ok new =>
      revert ih
      cases fillAll r fs <;> cases FieldSite.resolveAll r (fs.flatMap sites) <;> simp [Except.map]

end Filling

/-! ## What a builder is going to leave -/

namespace Schema

/-- What a builder is going to leave: the rest is registered, and then the rest is filled. -/
def answer (s : Schema) (b : Builder) : BuildOutcome :=
  match b.registry.enterAll b.toRegister with
  | .error e => ⟨b.log, .error e⟩
  | .ok r =>
    let log := b.log ++ FieldSite.logAll r (b.toFill.flatMap Filling.sites)
    match Filling.fillAll r b.toFill with
    | .error e => ⟨log, .error e⟩
    | .ok filled => s.finish ⟨[], r, [], b.filled ++ filled, log⟩

variable {s : Schema} {b : Builder}

theorem answer_of_entered {t : Task} {tasks : List Task} (ht : b.tasks = t :: tasks) {r : Registry}
    (hr : b.registry.enter t.type = .ok r) :
    s.answer (b.entered t tasks r) = s.answer b := by
  unfold answer
  rw [Builder.toRegister_eq_cons ht r, Builder.toFill_entered ht, Registry.enterAll, hr]
  rfl

/-- Without declarations to register the tables are what they are. -/
theorem answer_of_tasks_nil (ht : b.tasks = []) : s.answer b =
    (let log := b.log ++ FieldSite.logAll b.registry (b.pending.flatMap Filling.sites)
     match Filling.fillAll b.registry b.pending with
     | .error e => ⟨log, .error e⟩
     | .ok filled => s.finish ⟨[], b.registry, [], b.filled ++ filled, log⟩) := by
  unfold answer
  rw [Builder.toRegister, Builder.toFill, ht, List.flatMap_nil, List.flatMap_nil, List.append_nil]
  rfl

section Fields

variable {f : Filling} {pending : List Filling} (ht : b.tasks = [])
  (hp : b.pending = f :: pending)

include ht hp

theorem answer_of_closed (hrest : f.rest = []) :
    s.answer (b.closed f pending) = s.answer b := by
  have hsites : f.sites = [] := by simp [Filling.sites, hrest]
  have hclosed : (b.closed f pending).tasks = [] := ht
  rw [answer_of_tasks_nil hclosed, answer_of_tasks_nil ht, Builder.closed, hp, Filling.fillAll,
    Filling.fill_of_rest_nil hrest, List.flatMap_cons, hsites,
    List.nil_append]
  cases Filling.fillAll b.registry pending with
  | error e => rfl
  | ok filled => simp [Except.map]

variable {d : FieldDecl} {rest : List FieldDecl} (hrest : f.rest = d :: rest)

include hrest

theorem answer_of_extended {field : Field} (hfield : (f.site d).resolve b.registry = .ok field) :
    s.answer (b.extended f pending d rest field) = s.answer b := by
  have hextended : (b.extended f pending d rest field).tasks = [] := ht
  rw [answer_of_tasks_nil hextended, answer_of_tasks_nil ht, Builder.extended, hp,
    List.flatMap_cons, List.flatMap_cons, Filling.sites_of_rest hrest field,
    List.cons_append, FieldSite.logAll, hfield, Filling.fillAll, Filling.fillAll,
    Filling.fill_of_rest hrest hfield, List.append_assoc]

theorem answer_of_fieldRefused {e : BuildError} (he : (f.site d).resolve b.registry = .error e) :
    s.answer b = ⟨b.log ++ (f.site d).log b.registry, .error e⟩ := by
  obtain ⟨tail, hsites⟩ := Filling.exists_sites_eq_cons hrest
  rw [answer_of_tasks_nil ht, hp, List.flatMap_cons, hsites, List.cons_append, FieldSite.logAll, he,
    Filling.fillAll, Filling.fill_of_error hrest he, List.append_nil]

end Fields

/-- **No step changes the answer.** -/
theorem answer_eq_step (s : Schema) (b : Builder) : s.answer b =
    match b.step with
    | .more b' => s.answer b'
    | .failed log e => ⟨log, .error e⟩
    | .done => s.finish b := by
  have hsteps := b.steps_step
  generalize b.step = next at hsteps
  cases hsteps with
  | entered ht hr => exact (answer_of_entered ht hr).symm
  | @typeRefused t tasks e ht he =>
    unfold answer
    rw [Builder.toRegister_eq_cons ht b.registry, Registry.enterAll, he]
  | closed ht hp hrest => exact (answer_of_closed ht hp hrest).symm
  | extended ht hp hrest hfield => exact (answer_of_extended ht hp hrest hfield).symm
  | fieldRefused ht hp hrest he => exact answer_of_fieldRefused ht hp hrest he
  | done ht hp =>
    rw [answer_of_tasks_nil ht, hp]
    simp [Filling.fillAll, FieldSite.logAll, finish]

/-- The run from a builder ends with its answer. -/
theorem runFrom_eq_answer (s : Schema) (b : Builder) : s.runFrom b = s.answer b := by
  fun_induction s.runFrom b with
  | case1 b b' h ih => rw [ih, answer_eq_step s b, h]
  | case2 b log e h => rw [answer_eq_step s b, h]
  | case3 b h => rw [answer_eq_step s b, h]

/-! ## The builder before the first step -/

theorem toRegister_start (s : Schema) : (Builder.start s).toRegister = s.declared := by
  rw [Builder.toRegister, Builder.start, List.flatMap_append, ← MessageDecl.declaredAll_eq_flatMap,
    List.flatMap_map, Schema.declared, List.map_eq_flatMap]
  rfl

theorem toFill_start (s : Schema) : (Builder.start s).toFill =
    s.messageSites.map fun p => .start p.names p.decl.fields := by
  have henums : (s.enums.map (Task.enum s.package)).flatMap Task.fillings = [] := by
    simp [Task.fillings]
  rw [Builder.toFill, Builder.start, List.flatMap_append, henums,
    ← MessageDecl.walkAll_eq_flatMap]
  rfl

end Schema

theorem MessageSite.flatMap_sites (ps : List MessageSite) :
    (ps.map fun p => Filling.start p.names p.decl.fields).flatMap Filling.sites =
      ps.flatMap MessageSite.fieldSites := by
  rw [List.flatMap_map]
  exact List.flatMap_congr fun p _ => Filling.sites_start p.names p.decl.fields

theorem Filling.fillAll_of_resolvesTo {r : Registry} {ps : List MessageSite} {ms : List MessageType}
    (h : List.Forall₂ (MessageSite.ResolvesTo r) ps ms) :
    Filling.fillAll r (ps.map fun p => .start p.names p.decl.fields) =
      .ok (ms.map fun m => (m.toTypeName, m.fields)) := by
  induction h with
  | nil => rfl
  | @cons p m ps ms hp _ ih =>
    have hfill : (Filling.start p.names p.decl.fields).fill r = .ok (m.toTypeName, m.fields) := by
      rw [Filling.fill, Filling.sites_start, ← MessageSite.fieldSites,
        FieldSite.resolveAll_eq_ok_iff.mpr hp.fields, hp.names]
      rfl
    rw [List.map_cons, Filling.fillAll, hfill, ih]
    rfl

/-! ## The graph at the end -/

/-- Under distinct names each message finds its own fields. -/
theorem fieldsUnder_of_mem {ms : List MessageType} (hnodup : (ms.map (·.fullName)).Nodup)
    {m : MessageType} (hm : m ∈ ms) :
    fieldsUnder m.fullName (ms.map fun m => (m.toTypeName, m.fields)) = m.fields := by
  rw [fieldsUnder, List.find?_map]
  cases hfind : ms.find? ((fun p => p.1.fullName == m.fullName) ∘ fun m => (m.toTypeName, m.fields))
    with
  | none => exact absurd (List.find?_eq_none.mp hfind m hm) (by simp)
  | some m' =>
    have hname : m'.fullName = m.fullName := by simpa using List.find?_some hfind
    rw [List.inj_on_of_nodup_map hnodup (List.mem_of_find?_eq_some hfind) hm hname]
    rfl

mutual

/-- A declaration with the fields of the message it resolves to is that message. -/
theorem MessageDecl.withFields_of_resolve {r : Registry} {filled : List (TypeName × List Field)}
    {scope : Text} : ∀ {d : MessageDecl} {m : MessageType}, d.resolve r scope = .ok m →
      (∀ m' ∈ m.walk, fieldsUnder m'.fullName filled = m'.fields) → d.withFields filled scope = m
  | ⟨name, fields, messages, enums⟩, m, h, hfilled => by
    obtain ⟨fs, ms, -, hms, rfl⟩ := MessageDecl.resolve_eq_ok_iff.mp h
    rw [MessageType.walk, List.forall_mem_cons] at hfilled
    rw [MessageDecl.withFields, MessageDecl.withFieldsAll_of_resolveAll hms hfilled.2]
    simp only [MessageType.mk.injEq, true_and, and_true]
    exact hfilled.1

theorem MessageDecl.withFieldsAll_of_resolveAll {r : Registry}
    {filled : List (TypeName × List Field)} {scope : Text} :
    ∀ {ds : List MessageDecl} {ms : List MessageType}, MessageDecl.resolveAll r scope ds = .ok ms →
      (∀ m ∈ MessageType.walkAll ms, fieldsUnder m.fullName filled = m.fields) →
        MessageDecl.withFieldsAll filled scope ds = ms
  | [], ms, h, _ => by
    cases MessageDecl.resolveAll_eq_ok_iff.mp h
    rfl
  | d :: ds, ms, h, hfilled => by
    cases MessageDecl.resolveAll_eq_ok_iff.mp h with
    | cons hd hds =>
      rw [MessageType.walkAll, List.forall_mem_append] at hfilled
      rw [MessageDecl.withFieldsAll, MessageDecl.withFields_of_resolve hd hfilled.1,
        MessageDecl.withFieldsAll_of_resolveAll (MessageDecl.resolveAll_eq_ok_iff.mpr hds) hfilled.2]

end

namespace Schema

theorem answer_start (s : Schema) : s.answer (.start s) = s.build := by
  have henter : (Builder.start s).registry.enterAll (Builder.start s).toRegister =
      (register [] s.declared).map fun _ => .ofList s.declared := by
    rw [toRegister_start]
    exact @Registry.enterAll_ofList [] [] (by simp) s.declared
  have hplaces : (Builder.start s).toFill.flatMap Filling.sites = s.sites := by
    rw [toFill_start, MessageSite.flatMap_sites, Schema.sites_eq]
  unfold answer
  rw [henter, hplaces]
  rcases s.build_cases with ⟨e, hregister, hbuild⟩ |
    ⟨hregister, ⟨e, hresolve, hbuild⟩ | ⟨g, hresolve, hbuild⟩⟩
  · rw [hregister, hbuild]
    rfl
  · have hfill : Filling.fillAll (.ofList s.declared) (Builder.start s).toFill = .error e := by
      rw [Filling.fillAll_eq_error_iff, hplaces, Schema.resolveAll_sites, hresolve]
      rfl
    rw [hregister, hbuild]
    simp only [Except.map, hfill]
    rfl
  · have hb := Schema.buildsTo_of_build (Schema.build_eq_ok_iff.mpr ⟨hregister, hresolve⟩)
    obtain ⟨ms, hms, rfl⟩ := Schema.resolve_eq_ok_iff.mp hresolve
    have hfill := Filling.fillAll_of_resolvesTo hb.messages
    have htree := MessageDecl.withFieldsAll_of_resolveAll hms fun m hm =>
      fieldsUnder_of_mem hb.nodup_allMessages hm
    rw [hregister, hbuild]
    simp only [Except.map, toFill_start, hfill, finish]
    simp only [Builder.start, List.nil_append, htree]

/-- **The run is the build.**  Tables, pending messages and numbers seen come to the log, the graph and
the error of `Schema.build`. -/
theorem run_eq_build (s : Schema) : s.run = s.build := by
  rw [run, runFrom_eq_answer, answer_start]

end Schema

end FieldCode
