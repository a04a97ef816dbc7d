import FieldCode.Proofs.Build.Outcome

/-!
# The graph mirrors the schema

A built graph has the shape of its schema: the same messages within messages, with the same enums
and fields in the same order.  `MessageDecl.MirroredBy` says so of one message and everything inside
it, declaration by declaration, and says on the way what is added: a full name is the name within
the full name of what is around it, a field knows its message and its place in it, and an enum value
knows its place.

The tree is made by one recursion, registered by a second and listed by a third, so what the whole
graph says of itself has to be carried over to the lists: `MessageDecl.MirroredBy.forall₂_walk` for
the messages, `Schema.BuildsTo.forall₂_sites` for the fields, and `Schema.BuildsTo.ofList_declared`
for the registry.  `Schema.MirroredBy` collects all of it, and `build_mirrors` proves it.  The builder
that registers messages first and fills them from a list of its own has the same tree at its end,
`Schema.run_eq_build`.
-/

namespace FieldCode

/-! ## Mirrored declarations -/

/-- The enum is the declared one, each value at its place. -/
structure EnumDecl.MirroredBy (scope : Text) (d : EnumDecl) (e : EnumType) : Prop where
  name : e.name = d.name
  fullName : e.fullName = qualify scope d.name
  members : ∀ i : Nat, e.members[i]? = d.values[i]?.map fun v => ⟨v.name, v.number, i⟩

/-- The field is the one declared at a place of a message. -/
structure FieldDecl.MirroredBy (owner : TypeName) (i : Nat) (d : FieldDecl) (f : Field) :
    Prop where
  name : f.name = d.name
  fullName : f.fullName = owner.fullName ++ "." ++ d.name
  number : f.number = d.number
  rawDefault : f.rawDefault = d.default
  container : f.container = owner
  index : f.index = i

mutual

/-- The message is the declared one, with all that is declared inside it. -/
inductive MessageDecl.MirroredBy : Text → MessageDecl → MessageType → Prop
  | mk {scope : Text} {d : MessageDecl} {m : MessageType} (hname : m.name = d.name)
      (hfullName : m.fullName = qualify scope d.name)
      (hfields : ∀ i : Nat,
        Option.Rel (FieldDecl.MirroredBy m.toTypeName i) d.fields[i]? m.fields[i]?)
      (henums : List.Forall₂ (EnumDecl.MirroredBy m.fullName) d.enums m.enums)
      (hmessages : MessageDecl.MirroredByAll m.fullName d.messages m.messages) :
      MirroredBy scope d m

/-- The messages are the declared ones, in their order. -/
inductive MessageDecl.MirroredByAll : Text → List MessageDecl → List MessageType → Prop
  | nil {scope : Text} : MirroredByAll scope [] []
  | cons {scope : Text} {d : MessageDecl} {m : MessageType} {ds : List MessageDecl}
      {ms : List MessageType} (hd : MessageDecl.MirroredBy scope d m)
      (hds : MirroredByAll scope ds ms) : MirroredByAll scope (d :: ds) (m :: ms)

end

/-! ## What is resolved is mirrored -/

theorem EnumDecl.mirroredBy_toType (scope : Text) (d : EnumDecl) :
    d.MirroredBy scope (d.toType scope) := by
  refine ⟨rfl, rfl, fun i => ?_⟩
  rw [EnumDecl.toType, List.getElem?_mapIdx]

theorem EnumDecl.forall₂_mirroredBy (scope : Text) (ds : List EnumDecl) :
    List.Forall₂ (EnumDecl.MirroredBy scope) ds (ds.map (·.toType scope)) := by
  rw [List.forall₂_map_right_iff, List.forall₂_same]
  intro d _
  exact d.mirroredBy_toType scope

theorem FieldSite.mirroredBy_of_resolve {r : Registry} {s : FieldSite} {f : Field}
    (h : s.resolve r = .ok f) : s.decl.MirroredBy s.owner s.index f := by
  obtain ⟨k, t, v, -, -, rfl⟩ := FieldSite.resolve_eq_ok_iff.mp h
  exact ⟨rfl, rfl, rfl, rfl, rfl, rfl⟩

/-- The fields of a message are resolved at the places of their declarations. -/
theorem FieldSite.rel_of_resolveAll {r : Registry} {owner : TypeName} {fields : List FieldDecl}
    {fs : List Field} (h : FieldSite.resolveAll r (FieldSite.ofFields owner fields) = .ok fs)
    (i : Nat) : Option.Rel (FieldDecl.MirroredBy owner i) fields[i]? fs[i]? := by
  rw [FieldSite.resolveAll_eq_ok_iff] at h
  have hlength : fields.length = fs.length := by
    rw [← h.length_eq, FieldSite.ofFields, List.length_mapIdx]
  by_cases hi : i < fields.length
  · have hsite : i < (FieldSite.ofFields owner fields).length := by
      rwa [h.length_eq, ← hlength]
    have hresolve := FieldSite.mirroredBy_of_resolve (h.get hsite (hlength ▸ hi))
    rw [List.getElem?_eq_getElem hi, List.getElem?_eq_getElem (hlength ▸ hi)]
    refine .some ?_
    simpa [FieldSite.ofFields] using hresolve
  · rw [List.getElem?_eq_none (by omega), List.getElem?_eq_none (by omega)]
    exact .none

mutual

theorem MessageDecl.mirroredBy_of_resolve {r : Registry} {scope : Text} :
    ∀ {d : MessageDecl} {m : MessageType}, d.resolve r scope = .ok m → d.MirroredBy scope m
  | ⟨name, fields, messages, enums⟩, m, h => by
    obtain ⟨fs, ms, hfs, hms, rfl⟩ := MessageDecl.resolve_eq_ok_iff.mp h
    exact .mk rfl rfl (FieldSite.rel_of_resolveAll hfs) (EnumDecl.forall₂_mirroredBy _ enums)
      (MessageDecl.mirroredByAll_of_resolveAll hms)

theorem MessageDecl.mirroredByAll_of_resolveAll {r : Registry} {scope : Text} :
    ∀ {ds : List MessageDecl} {ms : List MessageType}, MessageDecl.resolveAll r scope ds = .ok ms →
      MessageDecl.MirroredByAll scope ds ms
  | [], ms, h => by
    cases MessageDecl.resolveAll_eq_ok_iff.mp h
    exact .nil
  | d :: ds, ms, h => by
    cases MessageDecl.resolveAll_eq_ok_iff.mp h with
    | cons hd hds =>
      exact .cons (MessageDecl.mirroredBy_of_resolve hd)
        (MessageDecl.mirroredByAll_of_resolveAll (MessageDecl.resolveAll_eq_ok_iff.mpr hds))

end

/-! ## The walk over the mirror -/

/-- The message is the one declared at a site. -/
def MessageSite.MirroredBy (p : MessageSite) (m : MessageType) : Prop :=
  p.decl.MirroredBy p.scope m

mutual

/-- The messages at and inside a mirrored one mirror the sites of its declaration, in the same
order. -/
theorem MessageDecl.MirroredBy.forall₂_walk {scope : Text} :
    ∀ {d : MessageDecl} {m : MessageType}, d.MirroredBy scope m →
      List.Forall₂ MessageSite.MirroredBy (d.walk scope) m.walk
  | ⟨name, fields, messages, enums⟩, ⟨names, fs, ms, es⟩, h => by
    have hhere := h
    obtain ⟨-, hfullName, -, -, hmessages⟩ := h
    rw [MessageDecl.walk, MessageType.walk, ← hfullName]
    exact List.Forall₂.cons hhere (MessageDecl.MirroredByAll.forall₂_walkAll hmessages)

theorem MessageDecl.MirroredByAll.forall₂_walkAll {scope : Text} :
    ∀ {ds : List MessageDecl} {ms : List MessageType}, MessageDecl.MirroredByAll scope ds ms →
      List.Forall₂ MessageSite.MirroredBy (MessageDecl.walkAll scope ds) (MessageType.walkAll ms)
  | [], _, .nil => by
    rw [MessageDecl.walkAll, MessageType.walkAll]
    exact List.Forall₂.nil
  | d :: ds, _, .cons hd hds => by
    rw [MessageDecl.walkAll, MessageType.walkAll]
    exact List.rel_append hd.forall₂_walk (MessageDecl.MirroredByAll.forall₂_walkAll hds)

end

/-! ## The graph as a whole -/

/-- The graph has the shape of the schema, and its lists are those of the schema. -/
structure Schema.MirroredBy (s : Schema) (g : Graph) : Prop where
  package : g.package = s.package
  options : g.options = s.options
  /-- The enums at the top level are the declared ones. -/
  enums : List.Forall₂ (EnumDecl.MirroredBy s.package) s.enums g.enums
  /-- The messages at the top level are the declared ones, with all that is inside them. -/
  messages : MessageDecl.MirroredByAll s.package s.messages g.messages
  /-- All messages are those declared, each before those inside it. -/
  allMessages : List.Forall₂ MessageSite.MirroredBy s.messageSites g.allMessages
  /-- No message is listed twice. -/
  once : (g.allMessages.map (·.fullName)).Nodup
  /-- All fields are those of the messages, message by message. -/
  allFields : g.allFields = g.allMessages.flatMap (·.fields)
  /-- There is one field for each declaration, in the order of the declarations. -/
  fields : List.Forall₂ (fun site f => site.decl.MirroredBy site.owner site.index f) s.sites
    g.allFields
  /-- A field knows the message that lists it and its place there. -/
  place : ∀ m ∈ g.allMessages, ∀ (i : Nat) (f : Field), m.fields[i]? = some f →
    f.container = m.toTypeName ∧ f.index = i
  /-- An enum value knows its place. -/
  member : ∀ e ∈ g.allEnums, ∀ (i : Nat) (v : EnumMember), e.members[i]? = some v → v.index = i
  /-- The registry holds the messages and the enums of the graph. -/
  registry : s.registry = .ok ⟨g.allMessages.map (·.toTypeName), g.allEnums⟩
  /-- The full names of all types are distinct. -/
  distinct : (g.typeNames.map (·.fullName)).Nodup

theorem MessageDecl.MirroredBy.place {scope : Text} {d : MessageDecl} {m : MessageType}
    (h : d.MirroredBy scope m) {i : Nat} {f : Field} (hf : m.fields[i]? = some f) :
    f.container = m.toTypeName ∧ f.index = i := by
  obtain ⟨-, -, hfields, -, -⟩ := h
  have hat := hfields i
  rw [hf] at hat
  cases hd : d.fields[i]? with
  | none => rw [hd] at hat; cases hat
  | some d' =>
    rw [hd] at hat
    cases hat with
    | some hmirror => exact ⟨hmirror.container, hmirror.index⟩

theorem EnumDecl.MirroredBy.index {scope : Text} {d : EnumDecl} {e : EnumType}
    (h : d.MirroredBy scope e) {i : Nat} {v : EnumMember} (hv : e.members[i]? = some v) :
    v.index = i := by
  rw [h.members] at hv
  obtain ⟨_, -, rfl⟩ := Option.map_eq_some_iff.mp hv
  rfl

namespace Schema.BuildsTo

variable {s : Schema} {g : Graph}

theorem exists_enum_mirroredBy (h : s.BuildsTo g) {e : EnumType} (he : e ∈ g.allEnums) :
    ∃ (scope : Text) (d : EnumDecl), d.MirroredBy scope e := by
  rw [Graph.allEnums, h.enums, List.mem_append, List.mem_map, List.mem_flatMap] at he
  rcases he with ⟨d, -, rfl⟩ | ⟨m, hm, he⟩
  · exact ⟨_, d, d.mirroredBy_toType s.package⟩
  · obtain ⟨p, -, hpm⟩ := h.exists_site_of_mem hm
    rw [hpm.enums, List.mem_map] at he
    obtain ⟨d, -, rfl⟩ := he
    exact ⟨_, d, d.mirroredBy_toType p.fullName⟩

end Schema.BuildsTo

/-- **The graph mirrors the schema**: nothing is lost, doubled or reordered. -/
theorem build_mirrors {s : Schema} {g : Graph} (h : s.build.result = .ok g) : s.MirroredBy g := by
  have hb := Schema.buildsTo_of_build h
  obtain ⟨hregister, hresolve⟩ := Schema.build_eq_ok_iff.mp h
  obtain ⟨ms, hms, rfl⟩ := Schema.resolve_eq_ok_iff.mp hresolve
  have hmessages := MessageDecl.mirroredByAll_of_resolveAll hms
  have hwalk := hmessages.forall₂_walkAll
  exact
    { package := rfl
      options := rfl
      enums := EnumDecl.forall₂_mirroredBy s.package s.enums
      messages := hmessages
      allMessages := hwalk
      once := hb.nodup_allMessages
      allFields := rfl
      fields := hb.forall₂_sites.imp fun _ _ => FieldSite.mirroredBy_of_resolve
      place := by
        intro m hm i f hf
        obtain ⟨p, -, hpm⟩ := exists_mem_of_forall₂ hwalk.flip hm
        exact hpm.place hf
      member := by
        intro e he i v hv
        obtain ⟨scope, d, hd⟩ := hb.exists_enum_mirroredBy he
        exact hd.index hv
      registry := by
        rw [Schema.registry, hregister, hb.ofList_declared]
      distinct := hb.nodup_typeNames }

/-- In particular the graph of the sample schema, in which a message stands inside another one and
refers back to it. -/
theorem sample_mirrored : ∃ g, Schema.sample.build.result = .ok g ∧ Schema.sample.MirroredBy g := by
  obtain ⟨g, hg, -⟩ := Schema.exists_of_buildPasses (s := Schema.sample) (t := fun _ => true)
    (by decide +kernel)
  exact ⟨g, hg, build_mirrors hg⟩

end FieldCode
