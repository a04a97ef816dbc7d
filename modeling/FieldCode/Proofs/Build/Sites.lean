import FieldCode.Proofs.Build.Registration
import Mathlib.Data.List.Forall2

/-!
# Declarations at their places

Registering the types of a schema, collecting its field sites and resolving its messages are three
recursions over one tree.  What they share is said once: `MessageDecl.walk` lists the message
declarations at every depth, each with the scope it stands in, and each of the three is a map over
that list.

* `Schema.declared_eq`, `Schema.sites_eq`: the registered types and the field sites, message by
  message.
* `MessageDecl.forall₂_walkAll`: when the messages of a schema resolve, the walk over the resolved
  tree runs parallel to the walk over the declarations, and each message is what its site resolves
  to.
* `MessageDecl.resolveAll_sitesAll`: to resolve the messages is to resolve the list of their field
  sites.  So when they do not resolve, the first site that fails decides
  (`FieldSite.resolveAll_eq_error_iff`).
-/

namespace FieldCode

/-- A message declaration and the scope that it stands in. -/
structure MessageSite where
  /-- The scope. -/
  scope : Text
  /-- The declaration. -/
  decl : MessageDecl

namespace MessageSite

/-- The names of the message. -/
def names (p : MessageSite) : TypeName :=
  p.decl.names p.scope

/-- The full name of the message, which is the scope of what stands inside it. -/
def fullName (p : MessageSite) : Text :=
  p.names.fullName

/-- The types declared at the site itself: the message and its enums. -/
def declared (p : MessageSite) : List Declared :=
  .message p.names :: p.decl.enums.map fun e => .enum (e.toType p.fullName)

/-- The field sites of the message itself. -/
def fieldSites (p : MessageSite) : List FieldSite :=
  FieldSite.ofFields p.names p.decl.fields

/-- The message is what the site resolves to, the messages inside it aside. -/
structure ResolvesTo (r : Registry) (p : MessageSite) (m : MessageType) : Prop where
  names : m.toTypeName = p.names
  enums : m.enums = p.decl.enums.map (·.toType p.fullName)
  fields : List.Forall₂ (fun s f => FieldSite.resolve r s = .ok f) p.fieldSites m.fields

end MessageSite

mutual

/-- A message declaration and all declarations inside it, each before those inside it. -/
def MessageDecl.walk (scope : Text) : MessageDecl → List MessageSite
  | ⟨name, fields, messages, enums⟩ =>
    ⟨scope, ⟨name, fields, messages, enums⟩⟩ :: MessageDecl.walkAll (qualify scope name) messages

/-- Some message declarations, each with all declarations inside it. -/
def MessageDecl.walkAll (scope : Text) : List MessageDecl → List MessageSite
  | [] => []
  | m :: ms => m.walk scope ++ walkAll scope ms

end

/-- The message declarations of a schema at every depth, each in its scope. -/
def Schema.messageSites (s : Schema) : List MessageSite :=
  MessageDecl.walkAll s.package s.messages

/-! ## The registered types and the field sites -/

mutual

theorem MessageDecl.declared_eq (scope : Text) :
    ∀ d : MessageDecl, d.declared scope = (d.walk scope).flatMap MessageSite.declared
  | ⟨name, fields, messages, enums⟩ => by
    rw [MessageDecl.declared, MessageDecl.walk, List.flatMap_cons,
      ← MessageDecl.declaredAll_eq (qualify scope name) messages]
    rfl

theorem MessageDecl.declaredAll_eq (scope : Text) :
    ∀ ds : List MessageDecl,
      MessageDecl.declaredAll scope ds = (MessageDecl.walkAll scope ds).flatMap MessageSite.declared
  | [] => by rw [MessageDecl.declaredAll, MessageDecl.walkAll, List.flatMap_nil]
  | d :: ds => by
    rw [MessageDecl.declaredAll, MessageDecl.walkAll, List.flatMap_append,
      MessageDecl.declared_eq scope d, MessageDecl.declaredAll_eq scope ds]

end

/-- The types of a schema: the enums of the file, then message by message. -/
theorem Schema.declared_eq (s : Schema) :
    s.declared = s.enums.map (fun e => .enum (e.toType s.package)) ++
      s.messageSites.flatMap MessageSite.declared := by
  rw [Schema.declared, MessageDecl.declaredAll_eq]
  rfl

mutual

theorem MessageDecl.sites_eq (scope : Text) :
    ∀ d : MessageDecl, d.sites scope = (d.walk scope).flatMap MessageSite.fieldSites
  | ⟨name, fields, messages, enums⟩ => by
    rw [MessageDecl.sites, MessageDecl.walk, List.flatMap_cons,
      ← MessageDecl.sitesAll_eq (qualify scope name) messages]
    rfl

theorem MessageDecl.sitesAll_eq (scope : Text) :
    ∀ ds : List MessageDecl,
      MessageDecl.sitesAll scope ds = (MessageDecl.walkAll scope ds).flatMap MessageSite.fieldSites
  | [] => by rw [MessageDecl.sitesAll, MessageDecl.walkAll, List.flatMap_nil]
  | d :: ds => by
    rw [MessageDecl.sitesAll, MessageDecl.walkAll, List.flatMap_append,
      MessageDecl.sites_eq scope d, MessageDecl.sitesAll_eq scope ds]

end

/-- The field sites of a schema, message by message. -/
theorem Schema.sites_eq (s : Schema) : s.sites = s.messageSites.flatMap MessageSite.fieldSites := by
  rw [Schema.sites, MessageDecl.sitesAll_eq]
  rfl

theorem Schema.mem_sites_iff {s : Schema} {site : FieldSite} :
    site ∈ s.sites ↔ ∃ p ∈ s.messageSites, site ∈ p.fieldSites := by
  rw [Schema.sites_eq, List.mem_flatMap]

theorem FieldSite.getElem?_ofFields (owner : TypeName) (fields : List FieldDecl) (i : Nat) :
    (FieldSite.ofFields owner fields)[i]? =
      (fields[i]?).map fun d => ⟨owner, i, (fields.take i).map (·.number), d⟩ := by
  rw [FieldSite.ofFields, List.getElem?_mapIdx]

theorem FieldSite.mem_ofFields {owner : TypeName} {fields : List FieldDecl} {s : FieldSite} :
    s ∈ FieldSite.ofFields owner fields ↔
      ∃ i, fields[i]? = some s.decl ∧ s = ⟨owner, i, (fields.take i).map (·.number), s.decl⟩ := by
  rw [List.mem_iff_getElem?]
  refine exists_congr fun i => ?_
  rw [FieldSite.getElem?_ofFields, Option.map_eq_some_iff]
  constructor
  · rintro ⟨d, hd, rfl⟩
    exact ⟨hd, rfl⟩
  · rintro ⟨hd, hs⟩
    exact ⟨s.decl, hd, hs.symm⟩

theorem MessageSite.owner_of_mem {p : MessageSite} {s : FieldSite} (h : s ∈ p.fieldSites) :
    s.owner = p.names := by
  obtain ⟨i, -, hs⟩ := FieldSite.mem_ofFields.mp h
  rw [hs]

/-- The numbers of some fields are distinct exactly if none has the number of a field before it. -/
theorem nodup_map_iff_forall_notMem_take {α β : Type} (f : α → β) (as : List α) :
    (as.map f).Nodup ↔ ∀ i a, as[i]? = some a → f a ∉ (as.take i).map f := by
  constructor
  · intro h i a ha hmem
    obtain ⟨hi, rfl⟩ := List.getElem?_eq_some_iff.mp ha
    rw [← List.take_append_drop i as, List.map_append, List.nodup_append,
      List.drop_eq_getElem_cons hi, List.map_cons] at h
    exact h.2.2 _ hmem _ (List.mem_cons_self ..) rfl
  · intro h
    refine List.pairwise_iff_getElem.mpr fun i j hi hj hij heq => ?_
    rw [List.length_map] at hi hj
    rw [List.getElem_map, List.getElem_map] at heq
    have hmem : as[i] ∈ as.take j :=
      List.mem_iff_getElem.mpr ⟨i, by rw [List.length_take]; omega, List.getElem_take⟩
    refine h j as[j] (List.getElem?_eq_getElem hj) ?_
    rw [← heq]
    exact List.mem_map_of_mem hmem

theorem exists_mem_of_forall₂ {α β : Type} {R : α → β → Prop} {as : List α} {bs : List β}
    (h : List.Forall₂ R as bs) {a : α} (ha : a ∈ as) : ∃ b ∈ bs, R a b := by
  obtain ⟨i, hi, rfl⟩ := List.getElem_of_mem ha
  have hlen := h.length_eq
  exact ⟨bs[i], List.getElem_mem _, h.get hi (by omega)⟩

theorem map_eq_map_of_forall₂ {α β γ : Type} {R : α → β → Prop} {as : List α} {bs : List β}
    {f : α → γ} {g : β → γ} (h : List.Forall₂ R as bs) (hR : ∀ a b, R a b → f a = g b) :
    as.map f = bs.map g := by
  induction h with
  | nil => rfl
  | cons hab _ ih => rw [List.map_cons, List.map_cons, hR _ _ hab, ih]

/-! ## Resolving sites -/

theorem FieldSite.resolveAll_eq_ok_iff {r : Registry} {ss : List FieldSite} {fs : List Field} :
    FieldSite.resolveAll r ss = .ok fs ↔ List.Forall₂ (fun s f => s.resolve r = .ok f) ss fs := by
  induction ss generalizing fs with
  | nil =>
    rw [FieldSite.resolveAll, List.forall₂_nil_left_iff, Except.ok.injEq, eq_comm]
  | cons s ss ih =>
    rw [FieldSite.resolveAll]
    constructor
    · intro h
      cases hs : s.resolve r with
      | error e => simp [hs] at h
      | ok f =>
        cases hss : FieldSite.resolveAll r ss with
        | error e => simp [hs, hss, Except.map] at h
        | ok gs =>
          simp only [hs, hss, Except.map, Except.ok.injEq] at h
          rw [← h]
          exact List.Forall₂.cons hs (ih.mp hss)
    · intro h
      cases h with
      | cons hf hgs =>
        rw [hf, ih.mpr hgs]
        rfl

/-- Sites are resolved one after the other, up to the first that fails. -/
theorem FieldSite.resolveAll_append (r : Registry) (ss ts : List FieldSite) :
    FieldSite.resolveAll r (ss ++ ts) =
      match FieldSite.resolveAll r ss with
      | .error e => .error e
      | .ok fs => (FieldSite.resolveAll r ts).map (fs ++ ·) := by
  induction ss with
  | nil =>
    rw [List.nil_append, FieldSite.resolveAll]
    cases FieldSite.resolveAll r ts <;> rfl
  | cons s ss ih =>
    rw [List.cons_append, FieldSite.resolveAll, FieldSite.resolveAll]
    cases s.resolve r with
    | error e => rfl
    | ok f =>
      simp only [ih]
      cases FieldSite.resolveAll r ss with
      | error e => rfl
      | ok fs => cases FieldSite.resolveAll r ts <;> rfl

/-- Some sites do not resolve exactly if one of them fails behind others that resolve, and then the
error is that of the first that fails. -/
theorem FieldSite.resolveAll_eq_error_iff {r : Registry} {ss : List FieldSite} {e : BuildError} :
    FieldSite.resolveAll r ss = .error e ↔ ∃ before s after, ss = before ++ s :: after ∧
      (∀ x ∈ before, ∃ f, x.resolve r = .ok f) ∧ s.resolve r = .error e := by
  constructor
  · intro h
    induction ss with
    | nil => simp [FieldSite.resolveAll] at h
    | cons s ss ih =>
      rw [FieldSite.resolveAll] at h
      cases hs : s.resolve r with
      | error e' =>
        simp only [hs, Except.error.injEq] at h
        exact ⟨[], s, ss, rfl, by simp, by rw [hs, h]⟩
      | ok f =>
        cases hss : FieldSite.resolveAll r ss with
        | ok fs => simp [hs, hss, Except.map] at h
        | error e' =>
          simp only [hs, hss, Except.map, Except.error.injEq] at h
          obtain ⟨before, s', after, rfl, hbefore, he⟩ := ih (h ▸ hss)
          exact ⟨s :: before, s', after, rfl, List.forall_mem_cons.mpr ⟨⟨f, hs⟩, hbefore⟩, he⟩
  · rintro ⟨before, s, after, rfl, hbefore, hs⟩
    induction before with
    | nil => simp [FieldSite.resolveAll, hs]
    | cons x before ih =>
      obtain ⟨⟨f, hf⟩, hbefore⟩ := List.forall_mem_cons.mp hbefore
      simp [FieldSite.resolveAll, hf, ih hbefore, Except.map]

/-- A message declaration resolves exactly if its fields and the declarations inside it do. -/
theorem MessageDecl.resolve_eq_ok_iff {r : Registry} {scope name : Text} {fields : List FieldDecl}
    {messages : List MessageDecl} {enums : List EnumDecl} {m : MessageType} :
    MessageDecl.resolve r scope ⟨name, fields, messages, enums⟩ = .ok m ↔ ∃ fs ms,
      FieldSite.resolveAll r (FieldSite.ofFields ⟨name, qualify scope name⟩ fields) = .ok fs ∧
        MessageDecl.resolveAll r (qualify scope name) messages = .ok ms ∧
          m = ⟨⟨name, qualify scope name⟩, fs, ms, enums.map (·.toType (qualify scope name))⟩ := by
  rw [MessageDecl.resolve]
  cases FieldSite.resolveAll r (FieldSite.ofFields ⟨name, qualify scope name⟩ fields) with
  | error e => simp
  | ok fs =>
    cases MessageDecl.resolveAll r (qualify scope name) messages with
    | error e => simp
    | ok ms => simp [eq_comm]

theorem MessageDecl.resolveAll_eq_ok_iff {r : Registry} {scope : Text} {ds : List MessageDecl}
    {ms : List MessageType} : MessageDecl.resolveAll r scope ds = .ok ms ↔
      List.Forall₂ (fun d m => MessageDecl.resolve r scope d = .ok m) ds ms := by
  induction ds generalizing ms with
  | nil =>
    rw [MessageDecl.resolveAll, List.forall₂_nil_left_iff, Except.ok.injEq, eq_comm]
  | cons d ds ih =>
    rw [MessageDecl.resolveAll, List.forall₂_cons_left_iff]
    simp only [← ih]
    cases MessageDecl.resolve r scope d with
    | error e => simp
    | ok m => cases MessageDecl.resolveAll r scope ds <;> simp [Except.map, eq_comm]

mutual

/-- The messages at and inside a declaration that resolves are those that its sites resolve to. -/
theorem MessageDecl.forall₂_walk {r : Registry} {scope : Text} :
    ∀ {d : MessageDecl} {m : MessageType}, d.resolve r scope = .ok m →
      List.Forall₂ (MessageSite.ResolvesTo r) (d.walk scope) m.walk
  | ⟨name, fields, messages, enums⟩, m, h => by
    obtain ⟨fs, ms, hf, hm, rfl⟩ := MessageDecl.resolve_eq_ok_iff.mp h
    rw [MessageDecl.walk, MessageType.walk]
    exact List.Forall₂.cons ⟨rfl, rfl, FieldSite.resolveAll_eq_ok_iff.mp hf⟩
      (MessageDecl.forall₂_walkAll hm)

theorem MessageDecl.forall₂_walkAll {r : Registry} {scope : Text} :
    ∀ {ds : List MessageDecl} {ms : List MessageType}, MessageDecl.resolveAll r scope ds = .ok ms →
      List.Forall₂ (MessageSite.ResolvesTo r) (MessageDecl.walkAll scope ds)
        (MessageType.walkAll ms)
  | [], ms, h => by
    cases MessageDecl.resolveAll_eq_ok_iff.mp h
    rw [MessageDecl.walkAll, MessageType.walkAll]
    exact List.Forall₂.nil
  | d :: ds, ms, h => by
    cases MessageDecl.resolveAll_eq_ok_iff.mp h with
    | cons hd hds =>
      rw [MessageDecl.walkAll, MessageType.walkAll]
      exact List.rel_append (MessageDecl.forall₂_walk hd)
        (MessageDecl.forall₂_walkAll (MessageDecl.resolveAll_eq_ok_iff.mpr hds))

end

mutual

/-- To resolve a message is to resolve its field sites, those of the messages inside it included. -/
theorem MessageDecl.resolveAll_sites (r : Registry) (scope : Text) :
    ∀ d : MessageDecl, FieldSite.resolveAll r (d.sites scope) =
      (d.resolve r scope).map fun m => m.walk.flatMap (·.fields)
  | ⟨name, fields, messages, enums⟩ => by
    rw [MessageDecl.sites, MessageDecl.resolve, FieldSite.resolveAll_append,
      MessageDecl.resolveAll_sitesAll r (qualify scope name) messages]
    cases FieldSite.resolveAll r (FieldSite.ofFields ⟨name, qualify scope name⟩ fields) with
    | error e => rfl
    | ok fs =>
      dsimp only
      cases MessageDecl.resolveAll r (qualify scope name) messages with
      | error e => rfl
      | ok ms => simp [Except.map, MessageType.walk]

theorem MessageDecl.resolveAll_sitesAll (r : Registry) (scope : Text) :
    ∀ ds : List MessageDecl, FieldSite.resolveAll r (MessageDecl.sitesAll scope ds) =
      (MessageDecl.resolveAll r scope ds).map fun ms =>
        (MessageType.walkAll ms).flatMap (·.fields)
  | [] => by
    rw [MessageDecl.sitesAll, MessageDecl.resolveAll, FieldSite.resolveAll]
    simp [Except.map, MessageType.walkAll]
  | d :: ds => by
    rw [MessageDecl.sitesAll, MessageDecl.resolveAll, FieldSite.resolveAll_append,
      MessageDecl.resolveAll_sites r scope d, MessageDecl.resolveAll_sitesAll r scope ds]
    cases d.resolve r scope with
    | error e => rfl
    | ok m =>
      cases MessageDecl.resolveAll r scope ds with
      | error e => rfl
      | ok ms => simp [Except.map, MessageType.walkAll]

end

end FieldCode
