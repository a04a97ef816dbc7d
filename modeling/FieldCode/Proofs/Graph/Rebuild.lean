import FieldCode.Proofs.Build.Validity

/-!
# Writing a graph back

`Graph.toSchema` writes a graph back as a schema, each field in its plainest spelling: the kind by
its exact tag, the type by its full name behind a dot, the property by its name.  A build leaves
enough in the graph for that, and the build of the schema that is written gives the same graph
(`build_toSchema`).

Nothing of the first spelling plays a part: whether a reference was relative, how the tag was
capitalised, and whether the property name was asked for or derived.  The last is the one place
where two spellings come close to each other.  A derived name can be empty, and an empty name that
is written back is one that asks for nothing; but then the same name is derived again.
-/

namespace FieldCode

/-! ## The schema of a graph -/

/-- The declaration that a field is written back as. -/
def Field.toDecl (f : Field) : FieldDecl where
  name := f.name
  number := f.number
  type := f.kind.text
  typeName := f.target.map fun t => "." ++ t.fullName
  default := f.rawDefault
  propertyName := some f.propertyName

/-- The declaration that an enum is written back as. -/
def EnumType.toDecl (e : EnumType) : EnumDecl where
  name := e.name
  values := e.members.map fun m => ⟨m.name, m.number⟩

mutual

/-- The declaration that a message is written back as. -/
def MessageType.toDecl : MessageType → MessageDecl
  | ⟨names, fields, messages, enums⟩ =>
    ⟨names.name, fields.map Field.toDecl, toDeclAll messages, enums.map EnumType.toDecl⟩

/-- The declarations that some messages are written back as. -/
def MessageType.toDeclAll : List MessageType → List MessageDecl
  | [] => []
  | m :: ms => m.toDecl :: toDeclAll ms

end

/-- The schema that a graph is written back as. -/
def Graph.toSchema (g : Graph) : Schema where
  package := g.package
  options := g.options
  messages := MessageType.toDeclAll g.messages
  enums := g.enums.map EnumType.toDecl

/-! ## Fields -/

/-- The site at which a field is written back. -/
def FieldSite.writeBack (s : FieldSite) (f : Field) : FieldSite :=
  { s with decl := f.toDecl }

/-- The name of a property that is written back is asked for, or derived again. -/
theorem FieldSite.propertyName_writeBack (s : FieldSite) (k : Kind) (t : Option Declared)
    (v : Value) : (s.writeBack (s.field k t v)).propertyName k t = s.propertyName k t := by
  have hbase : (s.writeBack (s.field k t v)).baseName k t = s.baseName k t := rfl
  show (if s.propertyName k t = [] then Text.pascal ((s.writeBack (s.field k t v)).baseName k t)
    else s.propertyName k t) = _
  rw [hbase]
  split
  · rename_i hempty
    -- an empty name was not asked for, so it is the derived one
    rw [hempty]
    unfold FieldSite.propertyName at hempty
    dsimp only at hempty
    split at hempty
    · exact hempty
    · contradiction
  · rfl

/-- A site whose field is written back has the target that it had. -/
theorem FieldSite.Target.writeBack {ds : List Declared}
    (hnodup : (ds.map Declared.fullName).Nodup) {s : FieldSite} {k : Kind} {t : Option Declared}
    (ht : Target (.ofList ds) s k t) (v : Value) :
    Target (.ofList ds) (s.writeBack (s.field k t v)) k t := by
  cases ht with
  | plain hk => exact .plain hk
  | @composite d hk _ hd hsuits =>
    have hname : (s.writeBack (s.field k (some d) v)).decl.typeName = some ("." ++ d.fullName) := by
      rw [FieldSite.writeBack, Field.toDecl, FieldSite.target_field]
      rfl
    have habsolute : (Registry.ofList ds).find? d.fullName = some d :=
      (find?_ofList_eq_some_iff hnodup).mpr ⟨Registry.mem_of_resolve_ofList hd, rfl⟩
    refine .composite hk ?_ ?_ hsuits
    · rw [hname]
      exact List.cons_ne_nil _ _
    · rw [hname]
      exact habsolute

/-- The field that is written back at a site is the field that the site resolves to. -/
theorem FieldSite.resolve_writeBack {ds : List Declared}
    (hnodup : (ds.map Declared.fullName).Nodup) {s : FieldSite} {f : Field}
    (h : s.resolve (.ofList ds) = .ok f) : (s.writeBack f).resolve (.ofList ds) = .ok f := by
  obtain ⟨k, t, v, href, hv, rfl⟩ := FieldSite.resolve_eq_ok_iff.mp h
  obtain ⟨-, hpos, hnew, ht⟩ := FieldSite.refer_eq_ok_iff.mp href
  have hrefer : (s.writeBack (s.field k t v)).refer (.ofList ds) = .ok (k, t) :=
    FieldSite.refer_eq_ok_iff.mpr ⟨Kind.ofName?_tag k, hpos, hnew, ht.writeBack hnodup v⟩
  refine FieldSite.resolve_eq_ok_iff.mpr ⟨k, t, v, hrefer, hv, ?_⟩
  show _ = { s.field k t v with propertyName := (s.writeBack (s.field k t v)).propertyName k t }
  rw [FieldSite.propertyName_writeBack]
  rfl

theorem FieldSite.resolveAll_toDecl {ds : List Declared}
    (hnodup : (ds.map Declared.fullName).Nodup) {owner : TypeName} {fields : List FieldDecl}
    {fs : List Field}
    (h : FieldSite.resolveAll (.ofList ds) (FieldSite.ofFields owner fields) = .ok fs) :
    FieldSite.resolveAll (.ofList ds) (FieldSite.ofFields owner (fs.map Field.toDecl)) = .ok fs := by
  rw [FieldSite.resolveAll_eq_ok_iff] at h ⊢
  have hlength : fields.length = fs.length := by
    rw [← h.length_eq, FieldSite.ofFields, List.length_mapIdx]
  have hat : ∀ i (hi : i < fs.length), FieldSite.resolve (.ofList ds)
      ⟨owner, i, (fields.take i).map (·.number), fields[i]⟩ = .ok fs[i] := by
    intro i hi
    have hget := h.get (i := i) (by rw [h.length_eq]; exact hi) hi
    simpa [FieldSite.ofFields] using hget
  -- a field keeps its number, so the numbers met before a place are the same
  have hnumbers : (fs.map Field.toDecl).map (·.number) = fields.map (·.number) := by
    refine List.ext_getElem (by simp [hlength]) fun i hi _ => ?_
    rw [List.length_map, List.length_map] at hi
    obtain ⟨k, t, v, -, -, hf⟩ := FieldSite.resolve_eq_ok_iff.mp (hat i hi)
    simp only [List.getElem_map, hf]
    rfl
  refine List.forall₂_iff_get.mpr ⟨by simp [FieldSite.ofFields], fun i _ hi => ?_⟩
  have hplace : i < (FieldSite.ofFields owner (fs.map Field.toDecl)).length := by
    simpa [FieldSite.ofFields] using hi
  have hsite : (FieldSite.ofFields owner (fs.map Field.toDecl))[i] =
      FieldSite.writeBack ⟨owner, i, (fields.take i).map (·.number), fields[i]⟩ fs[i] := by
    simp only [FieldSite.ofFields, List.getElem_mapIdx, List.map_take, hnumbers, List.getElem_map]
    rfl
  rw [List.get_eq_getElem, List.get_eq_getElem, hsite]
  exact FieldSite.resolve_writeBack hnodup (hat i hi)

/-! ## Enums and messages -/

theorem EnumDecl.toDecl_toType (scope : Text) (d : EnumDecl) : (d.toType scope).toDecl = d := by
  obtain ⟨name, values⟩ := d
  simp only [EnumType.toDecl, EnumDecl.toType, EnumDecl.mk.injEq, true_and]
  exact List.ext_getElem (by simp) fun i _ _ => by simp

theorem EnumDecl.map_toDecl_toType (scope : Text) (ds : List EnumDecl) :
    (ds.map (·.toType scope)).map EnumType.toDecl = ds := by
  rw [List.map_map]
  exact (List.map_congr_left fun d _ => d.toDecl_toType scope).trans (List.map_id ds)

section Messages

variable {ds : List Declared}

mutual

/-- A message that is written back resolves to the message that it is written from. -/
theorem MessageDecl.resolve_toDecl (hnodup : (ds.map Declared.fullName).Nodup) {scope : Text} :
    ∀ {d : MessageDecl} {m : MessageType}, d.resolve (.ofList ds) scope = .ok m →
      m.toDecl.resolve (.ofList ds) scope = .ok m
  | ⟨name, fields, messages, enums⟩, m, h => by
    obtain ⟨fs, ms, hfs, hms, rfl⟩ := MessageDecl.resolve_eq_ok_iff.mp h
    rw [MessageType.toDecl, EnumDecl.map_toDecl_toType]
    exact MessageDecl.resolve_eq_ok_iff.mpr ⟨fs, ms, FieldSite.resolveAll_toDecl hnodup hfs,
      MessageDecl.resolveAll_toDeclAll hnodup hms, rfl⟩

theorem MessageDecl.resolveAll_toDeclAll (hnodup : (ds.map Declared.fullName).Nodup)
    {scope : Text} : ∀ {decls : List MessageDecl} {ms : List MessageType},
      MessageDecl.resolveAll (.ofList ds) scope decls = .ok ms →
        MessageDecl.resolveAll (.ofList ds) scope (MessageType.toDeclAll ms) = .ok ms
  | [], ms, h => by
    cases MessageDecl.resolveAll_eq_ok_iff.mp h
    rfl
  | d :: decls, ms, h => by
    cases MessageDecl.resolveAll_eq_ok_iff.mp h with
    | cons hd hdecls =>
      have hrest := MessageDecl.resolveAll_toDeclAll hnodup
        (MessageDecl.resolveAll_eq_ok_iff.mpr hdecls)
      exact MessageDecl.resolveAll_eq_ok_iff.mpr (List.Forall₂.cons
        (MessageDecl.resolve_toDecl hnodup hd) (MessageDecl.resolveAll_eq_ok_iff.mp hrest))

end

variable {r : Registry}

mutual

theorem MessageDecl.declared_toDecl {scope : Text} :
    ∀ {d : MessageDecl} {m : MessageType}, d.resolve r scope = .ok m →
      m.toDecl.declared scope = d.declared scope
  | ⟨name, fields, messages, enums⟩, m, h => by
    obtain ⟨fs, ms, -, hms, rfl⟩ := MessageDecl.resolve_eq_ok_iff.mp h
    rw [MessageType.toDecl, MessageDecl.declared, MessageDecl.declared,
      EnumDecl.map_toDecl_toType, MessageDecl.declaredAll_toDeclAll hms]

theorem MessageDecl.declaredAll_toDeclAll {scope : Text} :
    ∀ {decls : List MessageDecl} {ms : List MessageType},
      MessageDecl.resolveAll r scope decls = .ok ms →
        MessageDecl.declaredAll scope (MessageType.toDeclAll ms) =
          MessageDecl.declaredAll scope decls
  | [], ms, h => by
    cases MessageDecl.resolveAll_eq_ok_iff.mp h
    rfl
  | d :: decls, ms, h => by
    cases MessageDecl.resolveAll_eq_ok_iff.mp h with
    | cons hd hdecls =>
      rw [MessageType.toDeclAll, MessageDecl.declaredAll, MessageDecl.declaredAll,
        MessageDecl.declared_toDecl hd,
        MessageDecl.declaredAll_toDeclAll (MessageDecl.resolveAll_eq_ok_iff.mpr hdecls)]

end

end Messages

/-! ## The whole schema -/

theorem Schema.declared_toSchema {s : Schema} {r : Registry} {g : Graph}
    (h : s.resolve r = .ok g) : g.toSchema.declared = s.declared := by
  obtain ⟨ms, hms, rfl⟩ := Schema.resolve_eq_ok_iff.mp h
  show ((s.enums.map (·.toType s.package)).map EnumType.toDecl).map _ ++
    MessageDecl.declaredAll s.package (MessageType.toDeclAll ms) = _
  rw [EnumDecl.map_toDecl_toType, MessageDecl.declaredAll_toDeclAll hms]
  rfl

/-- **A built graph can be written back and rebuilt without change.** -/
theorem build_toSchema {s : Schema} {g : Graph} (h : s.build.result = .ok g) :
    g.toSchema.build.result = .ok g := by
  obtain ⟨hreg, hres⟩ := Schema.build_eq_ok_iff.mp h
  obtain ⟨hnodup, -, -⟩ := (register_eq_ok_iff [] s.declared).mp hreg
  rw [Schema.build_eq_ok_iff, Schema.declared_toSchema hres]
  refine ⟨hreg, ?_⟩
  obtain ⟨ms, hms, rfl⟩ := Schema.resolve_eq_ok_iff.mp hres
  refine Schema.resolve_eq_ok_iff.mpr ⟨ms, MessageDecl.resolveAll_toDeclAll hnodup hms, ?_⟩
  show _ = (⟨s.package, s.options, ms,
    ((s.enums.map (·.toType s.package)).map EnumType.toDecl).map (·.toType s.package)⟩ : Graph)
  rw [EnumDecl.map_toDecl_toType]

/-- In particular the graph of the sample schema, which spells tags and references otherwise than the
schema that is written back. -/
theorem sample_rebuilt : ∃ g, Schema.sample.build.result = .ok g ∧
    g.toSchema.sites ≠ Schema.sample.sites ∧ g.toSchema.build.result = .ok g := by
  obtain ⟨g, hbuild, hsites⟩ := Schema.exists_of_buildPasses (s := Schema.sample)
    (t := fun g => decide (g.toSchema.sites ≠ Schema.sample.sites)) (by decide +kernel)
  exact ⟨g, hbuild, of_decide_eq_true hsites, build_toSchema hbuild⟩

end FieldCode
