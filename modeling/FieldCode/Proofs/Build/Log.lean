import FieldCode.Proofs.Build.Validity

/-!
# What the log tells

The log of a build holds one record for each reference that was followed, in the order of the field
sites, and a last record when the graph is done.  So it tells how far a build came.

`Schema.LogsGraph` says what the log of a graph is, in terms of the finished graph.  Of a schema
without a graph there are two sorts.  If its types cannot be registered, nothing is logged.  If they
can, there is a first site that is not valid, the error is about it, and the log goes up to it
(`Schema.StopsAt`).  Whether the site itself left a record depends on the order of the checks within
a field: the reference is followed before the default is read, so only a field whose default is
refused has one.  `build_log` puts the three cases together.

What a declaration refers to is said as in `Schema.Valid`, without the registry, since a schema that
does not build has no graph to say it with.
-/

namespace FieldCode

/-! ## The sites of a log -/

section Visited

variable {r : Registry}

theorem FieldSite.logAll_append {before : List FieldSite}
    (h : ∀ x ∈ before, ∃ f, x.resolve r = .ok f) (after : List FieldSite) :
    FieldSite.logAll r (before ++ after) =
      before.flatMap (FieldSite.log r) ++ FieldSite.logAll r after := by
  induction before with
  | nil => rfl
  | cons x before ih =>
    obtain ⟨⟨f, hf⟩, hbefore⟩ := List.forall_mem_cons.mp h
    rw [List.cons_append, FieldSite.logAll, hf, List.flatMap_cons, List.append_assoc]
    exact congrArg _ (ih hbefore)

theorem FieldSite.logAll_cons_of_error {s : FieldSite} {e : BuildError}
    (h : s.resolve r = .error e) (after : List FieldSite) :
    FieldSite.logAll r (s :: after) = s.log r := by
  rw [FieldSite.logAll, h, List.append_nil]

/-- At a site nothing is logged but the reference that was followed. -/
theorem FieldSite.exists_resolved_of_mem_log {s : FieldSite} {record : LogRecord}
    (h : record ∈ s.log r) : ∃ reference fullName, record = .resolved reference fullName := by
  unfold FieldSite.log at h
  split at h
  · exact ⟨_, _, List.mem_singleton.mp h⟩
  · cases h

end Visited

/-! ## The log of a graph -/

/-- The record of a field that refers to a type, under the text of the reference. -/
def Field.record? (reference : Option Text) (f : Field) : Option LogRecord :=
  f.target.map fun t => .resolved (reference.getD []) t.fullName

/-- The log of a graph: one record for each field that refers to a type, in the order of the fields,
and one for the graph. -/
structure Schema.LogsGraph (s : Schema) (g : Graph) (log : List LogRecord) : Prop where
  /-- The fields that refer to a type are those of a composite kind. -/
  composite : ∀ f ∈ g.allFields, f.target.isSome = true ↔
    f.kind = .known .enum ∨ f.kind = .known .message ∨ f.kind = .known .group
  /-- There is one field for each site. -/
  sites : s.sites.map FieldSite.fullName = g.allFields.map (·.fullName)
  log_eq : log =
    ((s.sites.zip g.allFields).filterMap fun x => x.2.record? x.1.decl.typeName) ++
      [.built g.allMessages.length g.allEnums.length g.package]

theorem FieldSite.log_of_resolve {r : Registry} {s : FieldSite} {f : Field}
    (h : s.resolve r = .ok f) : s.log r = (f.record? s.decl.typeName).toList := by
  obtain ⟨k, t, v, href, -, rfl⟩ := FieldSite.resolve_eq_ok_iff.mp h
  rw [FieldSite.log, href, Field.record?, FieldSite.target_field]
  cases t <;> rfl

theorem FieldSite.flatMap_log_of_resolve {r : Registry} {ss : List FieldSite} {fs : List Field}
    (h : List.Forall₂ (fun s f => s.resolve r = .ok f) ss fs) :
    ss.flatMap (FieldSite.log r) =
      (ss.zip fs).filterMap fun x => x.2.record? x.1.decl.typeName := by
  induction h with
  | nil => rfl
  | @cons s f ss fs hf _ ih =>
    rw [List.flatMap_cons, ih, FieldSite.log_of_resolve hf, List.zip_cons_cons, List.filterMap_cons]
    cases f.record? s.decl.typeName with
    | none => rfl
    | some record => rfl

/-- A field refers to a type exactly if its kind is composite. -/
theorem FieldSite.isSome_target_iff {r : Registry} {s : FieldSite} {f : Field}
    (h : s.resolve r = .ok f) : f.target.isSome = true ↔
      f.kind = .known .enum ∨ f.kind = .known .message ∨ f.kind = .known .group := by
  obtain ⟨k, t, v, href, -, rfl⟩ := FieldSite.resolve_eq_ok_iff.mp h
  obtain ⟨-, -, -, ht⟩ := FieldSite.refer_eq_ok_iff.mp href
  have hkind : k.isComposite = true ↔
      (s.field k t v).kind = .known .enum ∨ (s.field k t v).kind = .known .message ∨
        (s.field k t v).kind = .known .group := by
    cases k <;> simp [Kind.isComposite, FieldSite.field]
  rw [← hkind, FieldSite.target_field]
  cases ht with
  | plain hk => simp [hk]
  | composite hk => simp [hk]

theorem Schema.logsGraph_of_build {s : Schema} {g : Graph} (h : s.build.result = .ok g) :
    s.LogsGraph g s.build.log := by
  have hb := Schema.buildsTo_of_build h
  have hsites := hb.forall₂_sites
  refine ⟨?_, hb.map_fullName_sites, ?_⟩
  · intro f hf
    obtain ⟨site, -, hsite⟩ := exists_mem_of_forall₂ hsites.flip hf
    exact FieldSite.isSome_target_iff hsite
  · have hall : ∀ x ∈ s.sites, ∃ f, x.resolve (.ofList s.declared) = .ok f := by
      intro x hx
      obtain ⟨f, -, hf⟩ := exists_mem_of_forall₂ hsites hx
      exact ⟨f, hf⟩
    have hlog := FieldSite.logAll_append hall []
    rw [List.append_nil, FieldSite.logAll, List.append_nil,
      FieldSite.flatMap_log_of_resolve hsites] at hlog
    rcases s.build_cases with ⟨e, -, hbuild⟩ | ⟨-, ⟨e, -, hbuild⟩ | ⟨g', -, hbuild⟩⟩
    · rw [hbuild] at h
      cases h
    · rw [hbuild] at h
      cases h
    · rw [hbuild, hlog, hb.ofList_declared, List.length_map, hb.package]

/-! ## The log of a schema without a graph -/

/-- What a declaration in a scope leaves in the log when its default is read: one record if it
refers to a type, and nothing if it does not. -/
inductive FieldDecl.Records (s : Schema) (scope : Text) (f : FieldDecl) : List LogRecord → Prop
  | plain {k : Kind} (hkind : Text.lower f.type = Text.lower k.tag)
      (h : f.Refers s scope k none) : Records s scope f []
  | composite {k : Kind} {d : Declared} (hkind : Text.lower f.type = Text.lower k.tag)
      (h : f.Refers s scope k (some d)) :
      Records s scope f [.resolved (f.typeName.getD []) d.fullName]

/-- What a declaration that is refused leaves in the log: what it had left when its default was
refused, and nothing if it was refused before. -/
inductive FieldDecl.RecordsRefused (s : Schema) (scope : Text) (f : FieldDecl) :
    BuildError → List LogRecord → Prop
  | default {field : Text} {fault : DefaultFault} {records : List LogRecord}
      (h : f.Records s scope records) : RecordsRefused s scope f (.badDefault field fault) records
  | earlier {e : BuildError} (h : ∀ field fault, e ≠ .badDefault field fault) :
      RecordsRefused s scope f e []

/-- The build stops at a site: it is the first one that is not valid, the error says what is wrong
with it, and the log goes up to it. -/
structure Schema.StopsAt (s : Schema) (before : List FieldSite) (site : FieldSite)
    (e : BuildError) (log : List LogRecord) : Prop where
  valid : ∀ x ∈ before, x.Valid s
  invalid : ¬ site.Valid s
  fault : ∃ p ∈ s.messageSites, site ∈ p.fieldSites ∧ site.decl.Fault s p e
  logged : ∃ records own,
    List.Forall₂ (fun x r => x.decl.Records s x.owner.fullName r) before records ∧
    site.decl.RecordsRefused s site.owner.fullName e own ∧ log = records.flatten ++ own
  unfinished : ∀ messages enums package, LogRecord.built messages enums package ∉ log

/-- What is found before a default is read is no fault of the default. -/
theorem FieldSite.refer_ne_badDefault {r : Registry} {s : FieldSite} {field : Text}
    {fault : DefaultFault} : s.refer r ≠ .error (.badDefault field fault) := by
  intro h
  cases FieldSite.refer_eq_error_iff.mp h

namespace Schema.TypesValid

variable {s : Schema} {site : FieldSite} {p : MessageSite}

theorem records_log (h : s.TypesValid) (hsite : site ∈ s.sites) {k : Kind} {t : Option Declared}
    (href : site.refer (.ofList s.declared) = .ok (k, t)) :
    site.decl.Records s site.owner.fullName (site.log (.ofList s.declared)) := by
  obtain ⟨p, -, hp⟩ := Schema.mem_sites_iff.mp hsite
  obtain ⟨hk, -, -, ht⟩ := FieldSite.refer_eq_ok_iff.mp href
  have hkind := Kind.ofName?_eq_some_iff.mp hk
  have hrefers : site.decl.Refers s site.owner.fullName k t := by
    rw [MessageSite.owner_of_mem hp]
    exact (FieldSite.target_iff_refers h.distinct hp).mp ht
  rw [FieldSite.log, href]
  cases t with
  | none => exact .plain hkind hrefers
  | some d => exact .composite hkind hrefers

theorem recordsRefused_log (h : s.TypesValid) (hsite : site ∈ s.sites) {e : BuildError}
    (he : site.resolve (.ofList s.declared) = .error e) :
    site.decl.RecordsRefused s site.owner.fullName e (site.log (.ofList s.declared)) := by
  rcases FieldSite.resolve_eq_error_iff.mp he with href | ⟨k, t, href, hdefault⟩
  · rw [FieldSite.log, href]
    exact .earlier fun field fault hbad => FieldSite.refer_ne_badDefault (hbad ▸ href)
  · obtain ⟨text, fault, -, -, rfl⟩ := FieldSite.defaultValue_eq_error_iff.mp hdefault
    exact .default (h.records_log hsite href)

/-- A build of valid types that fails stops at a site. -/
theorem stopsAt (h : s.TypesValid) {e : BuildError} (he : s.build.result = .error e) :
    ∃ before site after, s.sites = before ++ site :: after ∧
      s.StopsAt before site e s.build.log := by
  have hregister := s.typesValid_iff.mp h
  have hresolve : FieldSite.resolveAll (.ofList s.declared) s.sites = .error e := by
    rcases Schema.build_eq_error_iff.mp he with herr | ⟨-, hresolve⟩
    · rw [hregister] at herr
      cases herr
    · exact hresolve
  have hlog : s.build.log = FieldSite.logAll (.ofList s.declared) s.sites := by
    rcases s.build_cases with ⟨e', herr, -⟩ | ⟨-, ⟨e', -, hbuild⟩ | ⟨g, -, hbuild⟩⟩
    · rw [hregister] at herr
      cases herr
    · rw [hbuild]
    · rw [hbuild] at he
      cases he
  obtain ⟨before, site, after, hat, hbefore, herr⟩ :=
    FieldSite.resolveAll_eq_error_iff.mp hresolve
  have hmem : ∀ x ∈ before, x ∈ s.sites := fun x hx => hat ▸ List.mem_append_left _ hx
  have hsite : site ∈ s.sites := hat ▸ List.mem_append_right _ (List.mem_cons_self ..)
  obtain ⟨p, hp, hpsite⟩ := Schema.mem_sites_iff.mp hsite
  rw [hat, FieldSite.logAll_append hbefore, FieldSite.logAll_cons_of_error herr] at hlog
  refine ⟨before, site, after, hat, ?_, ?_, ?_, ?_, ?_⟩
  · intro x hx
    exact (h.exists_resolve_iff (hmem x hx)).mp (hbefore x hx)
  · intro hvalid
    obtain ⟨f, hf⟩ := (h.exists_resolve_iff hsite).mpr hvalid
    rw [hf] at herr
    cases herr
  · exact ⟨p, hp, hpsite, FieldSite.fault_of_resolve_eq_error h.distinct hpsite herr⟩
  · refine ⟨before.map (FieldSite.log (.ofList s.declared)), _, ?_,
      h.recordsRefused_log hsite herr, by rw [hlog, List.flatMap_def]⟩
    rw [List.forall₂_map_right_iff, List.forall₂_same]
    intro x hx
    obtain ⟨f, hf⟩ := hbefore x hx
    obtain ⟨k, t, v, href, -, -⟩ := FieldSite.resolve_eq_ok_iff.mp hf
    exact h.records_log (hmem x hx) href
  · intro messages enums package hbuilt
    rw [hlog, List.mem_append, List.mem_flatMap] at hbuilt
    rcases hbuilt with ⟨x, -, hx⟩ | hown
    · obtain ⟨_, _, heq⟩ := FieldSite.exists_resolved_of_mem_log hx
      cases heq
    · obtain ⟨_, _, heq⟩ := FieldSite.exists_resolved_of_mem_log hown
      cases heq

end Schema.TypesValid

/-- The build of types that are not valid fails on one of them and logs nothing. -/
theorem Schema.build_of_not_typesValid {s : Schema} (h : ¬ s.TypesValid) :
    s.build.log = [] ∧ ∃ e, s.build.result = .error e ∧
      ((∃ name, e = .alreadyDefined name) ∨ ∃ name, e = .emptyEnum name) := by
  rw [s.typesValid_iff] at h
  rcases s.build_cases with ⟨e, hregister, hbuild⟩ | ⟨hregister, -⟩
  · rw [hbuild]
    refine ⟨rfl, e, rfl, ?_⟩
    rcases register_eq_error hregister with ⟨name, he, -⟩ | ⟨d, -, -, he⟩
    · exact Or.inl ⟨name, he⟩
    · exact Or.inr ⟨d.fullName, he⟩
  · exact absurd hregister h

/-- **The log tells what was done.**  If a schema builds, its log has the references of all fields
and the graph.  If its types are not valid, the error is about one of them and the log is empty.
Otherwise the build stops at the first field that is not valid, and the log goes up to it. -/
theorem build_log (s : Schema) :
    (∀ g, s.build.result = .ok g → s.LogsGraph g s.build.log) ∧
      ∀ e, s.build.result = .error e →
        (¬ s.TypesValid ∧ s.Fault e ∧
          ((∃ name, e = .alreadyDefined name) ∨ ∃ name, e = .emptyEnum name) ∧
            s.build.log = []) ∨
        (s.TypesValid ∧ ∃ before site after, s.sites = before ++ site :: after ∧
          s.StopsAt before site e s.build.log) := by
  refine ⟨fun g hg => Schema.logsGraph_of_build hg, fun e he => ?_⟩
  by_cases h : s.TypesValid
  · exact Or.inr ⟨h, h.stopsAt he⟩
  · obtain ⟨hlog, e', he', hkind⟩ := Schema.build_of_not_typesValid h
    rw [he, Except.error.injEq] at he'
    exact Or.inl ⟨h, Schema.fault_of_build_eq_error he, he' ▸ hkind, hlog⟩

/-- A schema with two fields that are not valid: the second, whose default names no value of the
enum, and the third, whose kind is unknown. -/
def Schema.twoFaults : Schema where
  package := "a.b"
  enums := [⟨"Color", [⟨"RED", 0⟩]⟩]
  messages :=
    [{ name := "Outer"
       fields :=
         [{ name := "first", number := 1, type := "enum", typeName := some "Color" },
          { name := "second", number := 2, type := "enum", typeName := some ".a.b.Color",
            default := some "BLUE" },
          { name := "third", number := 3, type := "int" }] }]

/-- In particular the build of this schema stops at its second field, whose reference is logged. -/
theorem twoFaults_stopsAt_second :
    Schema.twoFaults.build.result =
        .error (.badDefault "a.b.Outer.second" (.noMember "a.b.Color" "BLUE")) ∧
      Schema.twoFaults.TypesValid ∧ ∃ before site after,
        Schema.twoFaults.sites = before ++ site :: after ∧
          Schema.twoFaults.StopsAt before site
            (.badDefault "a.b.Outer.second" (.noMember "a.b.Color" "BLUE"))
            [.resolved "Color" "a.b.Color", .resolved ".a.b.Color" "a.b.Color"] := by
  have hlog : Schema.twoFaults.build.log =
      [.resolved "Color" "a.b.Color", .resolved ".a.b.Color" "a.b.Color"] := by
    decide +kernel
  have hresult : Schema.twoFaults.build.result =
      .error (.badDefault "a.b.Outer.second" (.noMember "a.b.Color" "BLUE")) := by
    have hunit : Schema.twoFaults.build.result.map (fun _ => ()) =
        .error (.badDefault "a.b.Outer.second" (.noMember "a.b.Color" "BLUE")) := by
      decide +kernel
    cases hg : Schema.twoFaults.build.result with
    | ok g => simp [hg, Except.map] at hunit
    | error e => simpa [hg, Except.map] using hunit
  rcases (build_log Schema.twoFaults).2 _ hresult with ⟨-, -, -, hempty⟩ | hstops
  · rw [hlog] at hempty
    cases hempty
  · rw [hlog] at hstops
    exact ⟨hresult, hstops⟩

end FieldCode
