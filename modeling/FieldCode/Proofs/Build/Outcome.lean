import FieldCode.Proofs.Build.Sites
import Mathlib.Data.List.Perm.Basic

/-!
# How builds end and what they leave

`FieldSite.resolve_eq_ok_iff` inverts the resolution of one field: all that can be known of a
resolved field is its site, its kind, the type it refers to and its default, and `FieldSite.Target`
says what the two in the middle can be.  For a field that does not resolve,
`FieldSite.resolve_eq_error_iff` says where it stops, and `FieldSite.Unreferred` lists what is wrong
there before the default is looked at.

`Schema.build_cases` says how far a build can come and what it leaves there, and nothing else opens
the build.  `Schema.BuildsTo` collects what a build says of a graph as a whole: its enums and
messages run parallel to the declarations, and the names are distinct.  Later arguments start from
these two.  A first consequence is `Schema.BuildsTo.types_eq`: the types of the graph, read off the
finished tree, are the types that were registered.
-/

namespace FieldCode

/-! ## Following references -/

theorem Registry.mem_of_resolve_ofList {ds : List Declared} {reference scope : Text} {d : Declared}
    (h : (Registry.ofList ds).resolve reference scope = some d) : d ∈ ds := by
  unfold Registry.resolve at h
  split at h
  · exact (mem_of_find?_ofList h).1
  · obtain ⟨_, _, hfind⟩ := List.exists_of_findSome?_eq_some h
    exact (mem_of_find?_ofList hfind).1

namespace FieldSite

variable {r : Registry} {s : FieldSite} {k : Kind} {t : Option Declared}

/-- What a field of a kind refers to: nothing, unless the kind is composite, and then the type of
the right sort that the reference leads to. -/
inductive Target (r : Registry) (s : FieldSite) : Kind → Option Declared → Prop
  | plain {k : Kind} (hk : k.isComposite = false) : Target r s k none
  | composite {k : Kind} {d : Declared} (hk : k.isComposite = true)
      (href : s.decl.typeName.getD [] ≠ [])
      (hd : r.resolve (s.decl.typeName.getD []) s.owner.fullName = some d)
      (hsuits : d.suits k = true) : Target r s k (some d)

/-- A site has a kind and a target exactly if its text names the kind, its number is positive and
new, and the target is what the kind asks for. -/
theorem refer_eq_ok_iff : s.refer r = .ok (k, t) ↔
    Kind.ofName? s.decl.type = some k ∧ 0 < s.decl.number ∧ s.decl.number ∉ s.earlier ∧
      Target r s k t := by
  constructor
  · intro h
    unfold refer at h
    cases hk : Kind.ofName? s.decl.type with
    | none => simp [hk] at h
    | some k' =>
      by_cases hpos : s.decl.number ≤ 0
      · simp [hk, hpos] at h
      by_cases hnew : s.decl.number ∈ s.earlier
      · by_cases hfits : Numeral.Fits s.decl.number <;> simp [hk, hpos, hnew, hfits] at h
      cases hc : k'.isComposite with
      | false =>
        simp only [hk, hpos, hnew, hc, List.contains_eq_mem, decide_false, Bool.false_eq_true,
          if_false, Except.ok.injEq, Prod.mk.injEq] at h
        obtain ⟨rfl, rfl⟩ := h
        exact ⟨rfl, by omega, hnew, .plain hc⟩
      | true =>
        by_cases href : s.decl.typeName.getD [] = []
        · simp [hk, hpos, hnew, hc, href] at h
        cases hd : r.resolve (s.decl.typeName.getD []) s.owner.fullName with
        | none => simp [hk, hpos, hnew, hc, href, hd] at h
        | some d =>
          cases hs : d.suits k' with
          | false => simp [hk, hpos, hnew, hc, href, hd, hs] at h
          | true =>
            simp only [hk, hpos, hnew, hc, href, hd, hs, List.contains_eq_mem, decide_false,
              Bool.false_eq_true, if_false, if_true, Except.ok.injEq, Prod.mk.injEq] at h
            obtain ⟨rfl, rfl⟩ := h
            exact ⟨rfl, by omega, hnew, .composite hc href hd hs⟩
  · rintro ⟨hk, hpos, hnew, ht⟩
    have hpos' : ¬ s.decl.number ≤ 0 := by omega
    unfold refer
    cases ht with
    | plain hc => simp [hk, hpos', hnew, hc]
    | composite hc href hd hs => simp [hk, hpos', hnew, hc, href, hd, hs]

/-- What keeps a site from having a kind and a target, as far as nothing before it does, and the
error that says so. -/
inductive Unreferred (r : Registry) (s : FieldSite) : BuildError → Prop
  | unknownKind (hk : Kind.ofName? s.decl.type = none) :
      Unreferred r s (.unknownKind s.fullName s.decl.type)
  | numberNotPositive {k : Kind} (hk : Kind.ofName? s.decl.type = some k)
      (hpos : s.decl.number ≤ 0) : Unreferred r s (.numberNotPositive s.fullName)
  | numberReused {k : Kind} (hk : Kind.ofName? s.decl.type = some k) (hpos : 0 < s.decl.number)
      (hold : s.decl.number ∈ s.earlier) (hfits : Numeral.Fits s.decl.number) :
      Unreferred r s (.numberReused s.fullName s.decl.number)
  | numberTooLong {k : Kind} (hk : Kind.ofName? s.decl.type = some k) (hpos : 0 < s.decl.number)
      (hold : s.decl.number ∈ s.earlier) (hlong : ¬ Numeral.Fits s.decl.number) :
      Unreferred r s .numberTooLong
  | missingReference {k : Kind} (hk : Kind.ofName? s.decl.type = some k) (hpos : 0 < s.decl.number)
      (hnew : s.decl.number ∉ s.earlier) (hc : k.isComposite = true)
      (href : s.decl.typeName.getD [] = []) : Unreferred r s (.missingReference s.fullName k)
  | unresolved {k : Kind} (hk : Kind.ofName? s.decl.type = some k) (hpos : 0 < s.decl.number)
      (hnew : s.decl.number ∉ s.earlier) (hc : k.isComposite = true)
      (href : s.decl.typeName.getD [] ≠ [])
      (hnone : ∀ d, r.resolve (s.decl.typeName.getD []) s.owner.fullName = some d →
        d.suits k = false) :
      Unreferred r s (.unresolved s.fullName (s.decl.typeName.getD []) k)

/-- A site that has no kind or no target is refused for the first thing that keeps it from them. -/
theorem refer_eq_error_iff {e : BuildError} : s.refer r = .error e ↔ Unreferred r s e := by
  constructor
  · intro h
    unfold refer at h
    cases hk : Kind.ofName? s.decl.type with
    | none =>
      simp only [hk, Except.error.injEq] at h
      exact h ▸ .unknownKind hk
    | some k =>
      by_cases hpos : s.decl.number ≤ 0
      · simp only [hk, hpos, if_true, Except.error.injEq] at h
        exact h ▸ .numberNotPositive hk hpos
      by_cases hold : s.decl.number ∈ s.earlier
      · simp only [hk, hpos, if_false, List.contains_eq_mem, hold, decide_true, if_true] at h
        split at h
        · exact Except.error.inj h ▸ .numberReused hk (by omega) hold ‹_›
        · exact Except.error.inj h ▸ .numberTooLong hk (by omega) hold ‹_›
      cases hc : k.isComposite with
      | false => simp [hk, hpos, hold, hc] at h
      | true =>
        simp only [hk, hpos, if_false, List.contains_eq_mem, hold, decide_false,
          Bool.false_eq_true, hc, if_true] at h
        by_cases href : s.decl.typeName.getD [] = []
        · rw [if_pos href, Except.error.injEq] at h
          exact h ▸ .missingReference hk (by omega) hold hc href
        rw [if_neg href] at h
        have hunresolved := Unreferred.unresolved (r := r) hk (by omega) hold hc href
        cases hd : r.resolve (s.decl.typeName.getD []) s.owner.fullName with
        | none =>
          rw [hd] at h
          exact Except.error.inj h ▸ hunresolved fun d hd' => (nomatch hd.symm.trans hd')
        | some d =>
          cases hs : d.suits k with
          | true => simp [hd, hs] at h
          | false =>
            simp only [hd, hs, Bool.false_eq_true, if_false, Except.error.injEq] at h
            refine h ▸ hunresolved fun d' hd' => ?_
            rw [← Option.some.inj (hd.symm.trans hd'), hs]
  · intro h
    unfold refer
    cases h with
    | unknownKind hk => simp [hk]
    | numberNotPositive hk hpos => simp [hk, hpos]
    | numberReused hk hpos hold hfits => simp [hk, Int.not_le.mpr hpos, hold, hfits]
    | numberTooLong hk hpos hold hlong => simp [hk, Int.not_le.mpr hpos, hold, hlong]
    | missingReference hk hpos hnew hc href => simp [hk, Int.not_le.mpr hpos, hnew, hc, href]
    | unresolved hk hpos hnew hc href hnone =>
      cases hd : r.resolve (s.decl.typeName.getD []) s.owner.fullName with
      | none => simp [hk, Int.not_le.mpr hpos, hnew, hc, href, hd]
      | some d => simp [hk, Int.not_le.mpr hpos, hnew, hc, href, hd, hnone d hd]

/-- A default is implied by the kind, or read from the text that is given. -/
theorem defaultValue_eq_ok_iff {v : Value} : s.defaultValue k t = .ok v ↔
    (s.decl.default = none ∧ v = k.impliedDefault (enumOf t)) ∨
      ∃ text, s.decl.default = some text ∧ k.readDefault text (enumOf t) = .ok v := by
  unfold defaultValue
  cases s.decl.default with
  | none => simp [eq_comm]
  | some text =>
    cases hr : k.readDefault text (enumOf t) <;> simp [hr]

theorem defaultValue_eq_error_iff {e : BuildError} : s.defaultValue k t = .error e ↔
    ∃ text fault, s.decl.default = some text ∧ k.readDefault text (enumOf t) = .error fault ∧
      e = .badDefault s.fullName fault := by
  unfold defaultValue
  cases s.decl.default with
  | none => simp
  | some text =>
    cases hr : k.readDefault text (enumOf t) <;> simp [hr, eq_comm]

/-- The field at a site, given its kind, its target and its default. -/
def field (s : FieldSite) (k : Kind) (t : Option Declared) (v : Value) : Field where
  name := s.decl.name
  fullName := s.fullName
  number := s.decl.number
  kind := .known k
  container := s.owner
  index := s.index
  default := v
  rawDefault := s.decl.default
  propertyName := s.propertyName k t
  isCompliant := s.isCompliant k
  messageType := messageOf t
  enumType := enumOf t

theorem target_field (s : FieldSite) (k : Kind) (t : Option Declared) (v : Value) :
    (s.field k t v).target = t.map Declared.names := by
  cases t with
  | none => rfl
  | some d => cases d <;> rfl

/-- A site resolves exactly if it has a kind and a target and its default is accepted, and they make
up the field. -/
theorem resolve_eq_ok_iff {f : Field} : s.resolve r = .ok f ↔
    ∃ k t v, s.refer r = .ok (k, t) ∧ s.defaultValue k t = .ok v ∧ f = s.field k t v := by
  unfold resolve
  cases href : s.refer r with
  | error e => simp
  | ok p =>
    obtain ⟨k, t⟩ := p
    dsimp only
    cases hv : s.defaultValue k t with
    | error e =>
      simp only [reduceCtorEq, Except.ok.injEq, Prod.mk.injEq, false_iff]
      rintro ⟨k', t', v, ⟨rfl, rfl⟩, hv', -⟩
      rw [hv] at hv'
      cases hv'
    | ok v =>
      simp only [Except.ok.injEq, Prod.mk.injEq]
      constructor
      · intro h
        exact ⟨k, t, v, ⟨rfl, rfl⟩, hv, h.symm⟩
      · rintro ⟨k', t', v', ⟨rfl, rfl⟩, hv', rfl⟩
        rw [hv, Except.ok.injEq] at hv'
        rw [← hv']
        rfl

/-- A site that does not resolve has no kind or no target, or its default is refused. -/
theorem resolve_eq_error_iff {e : BuildError} : s.resolve r = .error e ↔
    s.refer r = .error e ∨ ∃ k t, s.refer r = .ok (k, t) ∧ s.defaultValue k t = .error e := by
  unfold resolve
  cases href : s.refer r with
  | error e' => simp
  | ok p =>
    obtain ⟨k, t⟩ := p
    cases hv : s.defaultValue k t with
    | error e' => simp [hv]
    | ok v => simp [hv]

end FieldSite

/-! ## The graph as a whole -/

/-- The types of a message itself: the message and its enums. -/
def MessageType.ownTypes (m : MessageType) : List Declared :=
  .message m.toTypeName :: m.enums.map .enum

/-- The types of a graph: the enums of the file, then message by message. -/
def Graph.types (g : Graph) : List Declared :=
  g.enums.map .enum ++ g.allMessages.flatMap MessageType.ownTypes

theorem Graph.enum_mem_types {g : Graph} {e : EnumType} :
    .enum e ∈ g.types ↔ e ∈ g.allEnums := by
  simp [Graph.types, Graph.allEnums, MessageType.ownTypes]

theorem Graph.message_mem_types {g : Graph} {t : TypeName} :
    .message t ∈ g.types ↔ ∃ m ∈ g.allMessages, m.toTypeName = t := by
  simp [Graph.types, MessageType.ownTypes, eq_comm]

/-- What a build says of the graph of a schema. -/
structure Schema.BuildsTo (s : Schema) (g : Graph) : Prop where
  package : g.package = s.package
  options : g.options = s.options
  enums : g.enums = s.enums.map (·.toType s.package)
  messages : List.Forall₂ (MessageSite.ResolvesTo (.ofList s.declared)) s.messageSites g.allMessages
  nodup : (s.declared.map Declared.fullName).Nodup
  inhabited : ∀ d ∈ s.declared, d.isEmptyEnum = false

theorem Schema.resolve_eq_ok_iff {s : Schema} {r : Registry} {g : Graph} :
    s.resolve r = .ok g ↔ ∃ ms, MessageDecl.resolveAll r s.package s.messages = .ok ms ∧
      g = ⟨s.package, s.options, ms, s.enums.map (·.toType s.package)⟩ := by
  unfold Schema.resolve
  cases MessageDecl.resolveAll r s.package s.messages with
  | error e => simp [Except.map]
  | ok ms => simp [Except.map, eq_comm]

/-- A build stops while the types are registered, with nothing logged, or at a field site, with what
was logged so far, or it comes to a graph. -/
theorem Schema.build_cases (s : Schema) :
    (∃ e, register [] s.declared = .error e ∧ s.build = ⟨[], .error e⟩) ∨
      register [] s.declared = .ok () ∧
        ((∃ e, s.resolve (.ofList s.declared) = .error e ∧
            s.build = ⟨FieldSite.logAll (.ofList s.declared) s.sites, .error e⟩) ∨
          ∃ g, s.resolve (.ofList s.declared) = .ok g ∧
            s.build = ⟨FieldSite.logAll (.ofList s.declared) s.sites ++
              [.built (Registry.ofList s.declared).messages.length
                (Registry.ofList s.declared).enums.length s.package], .ok g⟩) := by
  unfold Schema.build Schema.registry
  cases hregister : register [] s.declared with
  | error e => exact Or.inl ⟨e, rfl, rfl⟩
  | ok u =>
    refine Or.inr ⟨rfl, ?_⟩
    dsimp only
    cases hresolve : s.resolve (.ofList s.declared) with
    | error e => exact Or.inl ⟨e, rfl, rfl⟩
    | ok g => exact Or.inr ⟨g, rfl, rfl⟩

/-- A build succeeds exactly if the types can be registered and the messages resolve. -/
theorem Schema.build_eq_ok_iff {s : Schema} {g : Graph} :
    s.build.result = .ok g ↔
      register [] s.declared = .ok () ∧ s.resolve (.ofList s.declared) = .ok g := by
  rcases s.build_cases with ⟨e, hregister, hbuild⟩ |
    ⟨hregister, ⟨e, hresolve, hbuild⟩ | ⟨g', hresolve, hbuild⟩⟩
  · simp [hbuild, hregister]
  · simp [hbuild, hresolve]
  · simp [hbuild, hregister, hresolve]

/-- To resolve a schema is to resolve its field sites. -/
theorem Schema.resolveAll_sites (s : Schema) (r : Registry) :
    FieldSite.resolveAll r s.sites = (s.resolve r).map Graph.allFields := by
  rw [Schema.sites, MessageDecl.resolveAll_sitesAll, Schema.resolve]
  cases MessageDecl.resolveAll r s.package s.messages <;> rfl

/-- If the types can be registered and the field sites resolve, there is a graph with their fields. -/
theorem Schema.exists_build_of_forall₂_sites {s : Schema} {fs : List Field}
    (hregister : register [] s.declared = .ok ())
    (h : List.Forall₂ (fun site f => FieldSite.resolve (.ofList s.declared) site = .ok f) s.sites
      fs) : ∃ g, s.build.result = .ok g ∧ g.allFields = fs := by
  have hsites := s.resolveAll_sites (.ofList s.declared)
  rw [FieldSite.resolveAll_eq_ok_iff.mpr h] at hsites
  cases hresolve : s.resolve (.ofList s.declared) with
  | error e => simp [hresolve, Except.map] at hsites
  | ok g =>
    refine ⟨g, Schema.build_eq_ok_iff.mpr ⟨hregister, hresolve⟩, ?_⟩
    simpa [hresolve, Except.map] using hsites.symm

/-- A build that fails does so while the types are registered or while the field sites are
resolved. -/
theorem Schema.build_eq_error_iff {s : Schema} {e : BuildError} : s.build.result = .error e ↔
    register [] s.declared = .error e ∨ register [] s.declared = .ok () ∧
      FieldSite.resolveAll (.ofList s.declared) s.sites = .error e := by
  rw [Schema.resolveAll_sites]
  rcases s.build_cases with ⟨e', hregister, hbuild⟩ |
    ⟨hregister, ⟨e', hresolve, hbuild⟩ | ⟨g, hresolve, hbuild⟩⟩
  · simp [hbuild, hregister]
  · simp [hbuild, hregister, hresolve, Except.map]
  · simp [hbuild, hregister, hresolve, Except.map]

theorem Schema.build_eq_error {s : Schema} {e : BuildError} (h : s.build.result = .error e) :
    register [] s.declared = .error e ∨ register [] s.declared = .ok () ∧
      ∃ p ∈ s.messageSites, ∃ site ∈ p.fieldSites,
        FieldSite.resolve (.ofList s.declared) site = .error e := by
  refine (Schema.build_eq_error_iff.mp h).imp_right fun hfields => ⟨hfields.1, ?_⟩
  obtain ⟨before, site, after, hat, -, herr⟩ := FieldSite.resolveAll_eq_error_iff.mp hfields.2
  have hmem : site ∈ s.sites := hat ▸ List.mem_append_right _ (List.mem_cons_self ..)
  obtain ⟨p, hp, hsite⟩ := Schema.mem_sites_iff.mp hmem
  exact ⟨p, hp, site, hsite, herr⟩

theorem Schema.buildsTo_of_build {s : Schema} {g : Graph} (h : s.build.result = .ok g) :
    s.BuildsTo g := by
  obtain ⟨hreg, hres⟩ := Schema.build_eq_ok_iff.mp h
  obtain ⟨ms, hms, rfl⟩ := Schema.resolve_eq_ok_iff.mp hres
  obtain ⟨hnodup, -, hfull⟩ := (register_eq_ok_iff [] s.declared).mp hreg
  exact ⟨rfl, rfl, rfl, MessageDecl.forall₂_walkAll hms, hnodup, hfull⟩

namespace Schema.BuildsTo

variable {s : Schema} {g : Graph}

theorem types_eq (h : s.BuildsTo g) : g.types = s.declared := by
  have hown : ∀ {ps : List MessageSite} {ms : List MessageType},
      List.Forall₂ (MessageSite.ResolvesTo (.ofList s.declared)) ps ms →
        ms.flatMap MessageType.ownTypes = ps.flatMap MessageSite.declared := by
    intro ps ms hpm
    induction hpm with
    | nil => rfl
    | cons hp _ ih =>
      rw [List.flatMap_cons, List.flatMap_cons, ih, MessageType.ownTypes, hp.names, hp.enums,
        List.map_map]
      rfl
  rw [Graph.types, Schema.declared_eq, hown h.messages, h.enums, List.map_map]
  rfl

theorem ofList_declared (h : s.BuildsTo g) :
    Registry.ofList s.declared = ⟨g.allMessages.map (·.toTypeName), g.allEnums⟩ := by
  rw [← h.types_eq]
  simp [Registry.ofList, Graph.types, Graph.allEnums, MessageType.ownTypes, List.filterMap_append,
    List.filterMap_flatMap, List.filterMap_map, ← List.map_eq_flatMap]

theorem nodup_types (h : s.BuildsTo g) : (g.types.map Declared.fullName).Nodup := by
  rw [h.types_eq]
  exact h.nodup

theorem nodup_typeNames (h : s.BuildsTo g) : (g.typeNames.map (·.fullName)).Nodup := by
  have hperm : (g.types.map Declared.names).Perm g.typeNames := by
    have hown : ∀ m : MessageType,
        m.ownTypes.map Declared.names = m.toTypeName :: m.enums.map (·.toTypeName) := by
      intro m
      simp [MessageType.ownTypes, Declared.names]
    rw [Graph.types, Graph.typeNames, Graph.allEnums, List.map_append, List.map_append,
      List.append_assoc, List.map_map, List.map_flatMap, List.map_flatMap]
    refine List.Perm.append_left _ ?_
    simp only [hown]
    exact (List.map_append_flatMap_perm _ _ _).symm.trans List.perm_append_comm
  have hnodup := (hperm.map TypeName.fullName).nodup_iff.mp
  rw [List.map_map] at hnodup
  exact hnodup h.nodup_types

theorem nodup_allMessages (h : s.BuildsTo g) : (g.allMessages.map (·.fullName)).Nodup := by
  have hnodup := h.nodup_typeNames
  rw [Graph.typeNames, List.map_append, List.map_map, List.map_map] at hnodup
  exact hnodup.of_append_right

theorem exists_site_of_mem (h : s.BuildsTo g) {m : MessageType} (hm : m ∈ g.allMessages) :
    ∃ p ∈ s.messageSites, MessageSite.ResolvesTo (.ofList s.declared) p m := by
  exact exists_mem_of_forall₂ h.messages.flip hm

/-- The fields of the graph are what the field sites resolve to, one by one. -/
theorem forall₂_sites (h : s.BuildsTo g) :
    List.Forall₂ (fun site f => FieldSite.resolve (.ofList s.declared) site = .ok f) s.sites
      g.allFields := by
  rw [Schema.sites_eq, Graph.allFields]
  exact List.rel_flatMap h.messages fun _ _ hp => hp.fields

theorem map_fullName_sites (h : s.BuildsTo g) :
    s.sites.map FieldSite.fullName = g.allFields.map (·.fullName) := by
  refine map_eq_map_of_forall₂ h.forall₂_sites fun site f hf => ?_
  obtain ⟨k, t, v, -, -, rfl⟩ := FieldSite.resolve_eq_ok_iff.mp hf
  rfl

/-- A field of the graph was resolved from a field site, and stands at the index it holds in the
message it holds. -/
theorem exists_fieldSite_of_mem (h : s.BuildsTo g) {f : Field} (hf : f ∈ g.allFields) :
    ∃ m ∈ g.allMessages, ∃ site ∈ s.sites, FieldSite.resolve (.ofList s.declared) site = .ok f ∧
      site.owner = m.toTypeName ∧ m.fields[site.index]? = some f := by
  obtain ⟨m, hm, hfm⟩ := List.mem_flatMap.mp hf
  obtain ⟨p, hp, hpm⟩ := h.exists_site_of_mem hm
  obtain ⟨i, hi, rfl⟩ := List.getElem_of_mem hfm
  have hlen := hpm.fields.length_eq
  have hsite : p.fieldSites[i] ∈ p.fieldSites := List.getElem_mem (by omega)
  have hat := FieldSite.getElem?_ofFields p.names p.decl.fields i
  rw [← MessageSite.fieldSites, List.getElem?_eq_getElem (by omega)] at hat
  obtain ⟨d, -, hd⟩ := Option.map_eq_some_iff.mp hat.symm
  refine ⟨m, hm, p.fieldSites[i], ?_, hpm.fields.get (by omega) hi, ?_, ?_⟩
  · rw [Schema.sites_eq]
    exact List.mem_flatMap.mpr ⟨p, hp, hsite⟩
  · rw [← hd, hpm.names]
  · rw [← hd]
    exact List.getElem?_eq_getElem hi

end Schema.BuildsTo

/-! ## A sample -/

/-- A schema with a field of each family that refers to something: a number, an enum value, a byte
string, and a group that leads back to the message around it. -/
def Schema.sample : Schema where
  package := "a.b"
  enums := [⟨"Color", [⟨"RED", 0⟩, ⟨"BLUE", 7⟩]⟩]
  messages :=
    [{ name := "Outer"
       fields :=
         [{ name := "id", number := 1, type := "SINT32", default := some "-0x10" },
          { name := "color", number := 2, type := "enum", typeName := some "Color",
            default := some "BLUE" },
          { name := "data", number := 3, type := "bytes", default := some "\\x00" }]
       messages :=
         [{ name := "Inner"
            fields := [{ name := "outer", number := 1, type := "Group",
                         typeName := some ".a.b.Outer" }] }] }]

/-- The schema has a graph, and the graph passes a test. -/
def Schema.buildPasses (s : Schema) (test : Graph → Bool) : Bool :=
  match s.build.result with
  | .ok g => test g
  | .error _ => false

theorem Schema.exists_of_buildPasses {s : Schema} {t : Graph → Bool}
    (h : s.buildPasses t = true) : ∃ g, s.build.result = .ok g ∧ t g = true := by
  unfold Schema.buildPasses at h
  cases hg : s.build.result with
  | error e => simp [hg] at h
  | ok g =>
    rw [hg] at h
    exact ⟨g, rfl, h⟩

/-- The sample has a graph, and its byte string is one of the fields. -/
theorem Schema.exists_sample_field : ∃ g f, Schema.sample.build.result = .ok g ∧ f ∈ g.allFields ∧
    f.kind = .known .bytes ∧ f.rawDefault = some (Text.ofString "\\x00") := by
  obtain ⟨g, hbuild, htest⟩ := Schema.exists_of_buildPasses (s := Schema.sample)
    (t := fun g => g.allFields.any fun f =>
      decide (f.kind = .known .bytes ∧ f.rawDefault = some (Text.ofString "\\x00")))
    (by decide +kernel)
  obtain ⟨f, hf, hfound⟩ := List.any_eq_true.mp htest
  exact ⟨g, f, hbuild, hf, of_decide_eq_true hfound⟩

end FieldCode
