import FieldCode.Proofs.Build.Extension
import FieldCode.Proofs.Build.Validity
import FieldCode.Proofs.Graph.ClassName

/-!
# The order of declarations

`Schema.Reordered` relates two schemas that differ in the order of the messages and the enums, at any
depth.  Fields and enum values are lists whose order means something, and they stay.

What a build takes from a schema does not depend on that order, with two exceptions that cancel: the
types are registered in the order of declaration, and the fields are resolved in it.  Both lists are
only permuted, `Schema.Reordered.declaresAlike`.  Under distinct names a permuted registry answers
every search alike, so each field resolves as it did, and both schemas build or neither does.  The
graphs then hold the same types, one by one (`build_reordered`).
-/

namespace FieldCode

/-! ## Reordered schemas -/

mutual

/-- The message is another one with what it declares inside in some other order, at any depth. -/
inductive MessageDecl.Reordered : MessageDecl → MessageDecl → Prop
  | mk {name : Text} {fields : List FieldDecl} {messages messages' : List MessageDecl}
      {enums enums' : List EnumDecl} (hmessages : ReorderedAll messages messages')
      (henums : enums.Perm enums') :
      Reordered ⟨name, fields, messages, enums⟩ ⟨name, fields, messages', enums'⟩

/-- The messages are others in some other order, each with what it declares inside in some other
order. -/
inductive MessageDecl.ReorderedAll : List MessageDecl → List MessageDecl → Prop
  | nil : ReorderedAll [] []
  | cons {d d' : MessageDecl} {ds ds' : List MessageDecl} (hd : Reordered d d')
      (hds : ReorderedAll ds ds') : ReorderedAll (d :: ds) (d' :: ds')
  | swap (d e : MessageDecl) (ds : List MessageDecl) : ReorderedAll (d :: e :: ds) (e :: d :: ds)
  | trans {ds es fs : List MessageDecl} (h : ReorderedAll ds es) (h' : ReorderedAll es fs) :
      ReorderedAll ds fs

end

/-- The schema is another one with messages and enums in some other order, at any depth. -/
structure Schema.Reordered (s s' : Schema) : Prop where
  package : s'.package = s.package
  options : s'.options = s.options
  messages : MessageDecl.ReorderedAll s.messages s'.messages
  enums : s.enums.Perm s'.enums

mutual

theorem MessageDecl.Reordered.refl : ∀ d : MessageDecl, Reordered d d
  | ⟨_, _, messages, enums⟩ => .mk (MessageDecl.ReorderedAll.refl messages) (List.Perm.refl enums)

theorem MessageDecl.ReorderedAll.refl : ∀ ds : List MessageDecl, ReorderedAll ds ds
  | [] => .nil
  | d :: ds => .cons (MessageDecl.Reordered.refl d) (MessageDecl.ReorderedAll.refl ds)

end

theorem MessageDecl.ReorderedAll.of_perm {ds ds' : List MessageDecl} (h : ds.Perm ds') :
    ReorderedAll ds ds' := by
  induction h with
  | nil => exact .nil
  | cons d _ ih => exact .cons (Reordered.refl d) ih
  | swap d e ds => exact .swap e d ds
  | trans _ _ ih ih' => exact .trans ih ih'

/-! ## What a reordering leaves -/

/-- The two sites stand in one scope and declare a message alike, the order of the enums and what is
inside aside. -/
structure MessageSite.Alike (p p' : MessageSite) : Prop where
  scope : p'.scope = p.scope
  name : p'.decl.name = p.decl.name
  fields : p'.decl.fields = p.decl.fields
  enums : p.decl.enums.Perm p'.decl.enums

namespace MessageSite.Alike

variable {p p' : MessageSite}

theorem names_eq (h : p.Alike p') : p'.names = p.names := by
  rw [MessageSite.names, MessageSite.names, MessageDecl.names, MessageDecl.names, h.scope, h.name]

theorem declared_perm (h : p.Alike p') : p.declared.Perm p'.declared := by
  rw [MessageSite.declared, MessageSite.declared, MessageSite.fullName, MessageSite.fullName,
    h.names_eq]
  exact (h.enums.map _).cons _

end MessageSite.Alike

section Walk

variable {α : Type} {F : MessageSite → List α}

mutual

/-- What is collected from the sites of a message is permuted with the declarations inside it, if at
each site it is permuted with the enums. -/
theorem MessageDecl.Reordered.flatMap_walk_perm (hF : ∀ p p', p.Alike p' → (F p).Perm (F p')) :
    ∀ {d d' : MessageDecl}, Reordered d d' → ∀ scope : Text,
      ((d.walk scope).flatMap F).Perm ((d'.walk scope).flatMap F)
  | ⟨name, fields, messages, enums⟩, ⟨_, _, messages', enums'⟩, .mk hmessages henums, scope => by
    have hhere := hF ⟨scope, ⟨name, fields, messages, enums⟩⟩
      ⟨scope, ⟨name, fields, messages', enums'⟩⟩ ⟨rfl, rfl, rfl, henums⟩
    rw [MessageDecl.walk, MessageDecl.walk, List.flatMap_cons, List.flatMap_cons]
    exact hhere.append (MessageDecl.ReorderedAll.flatMap_walk_perm hF hmessages _)

theorem MessageDecl.ReorderedAll.flatMap_walk_perm (hF : ∀ p p', p.Alike p' → (F p).Perm (F p')) :
    ∀ {ds ds' : List MessageDecl}, ReorderedAll ds ds' → ∀ scope : Text,
      ((MessageDecl.walkAll scope ds).flatMap F).Perm ((MessageDecl.walkAll scope ds').flatMap F)
  | _, _, .nil, _ => List.Perm.refl _
  | _, _, .cons hd hds, scope => by
    rw [MessageDecl.walkAll, MessageDecl.walkAll, List.flatMap_append, List.flatMap_append]
    exact (MessageDecl.Reordered.flatMap_walk_perm hF hd scope).append
      (MessageDecl.ReorderedAll.flatMap_walk_perm hF hds scope)
  | _, _, .swap d e ds, scope => by
    simp only [MessageDecl.walkAll, List.flatMap_append, ← List.append_assoc]
    exact List.perm_append_comm.append_right _
  | _, _, .trans h h', scope =>
    (MessageDecl.ReorderedAll.flatMap_walk_perm hF h scope).trans
      (MessageDecl.ReorderedAll.flatMap_walk_perm hF h' scope)

end

end Walk

/-- Two schemas declare the same types with the same fields, in whatever order. -/
structure Schema.DeclaresAlike (s s' : Schema) : Prop where
  package : s'.package = s.package
  options : s'.options = s.options
  types : s.declared.Perm s'.declared
  messages : (s.messageSites.map fun p => (p.names, p.decl.fields)).Perm
    (s'.messageSites.map fun p => (p.names, p.decl.fields))

/-- A reordered schema declares the same types with the same fields. -/
theorem Schema.Reordered.declaresAlike {s s' : Schema} (h : s.Reordered s') :
    s.DeclaresAlike s' where
  package := h.package
  options := h.options
  types := by
    rw [Schema.declared_eq, Schema.declared_eq, Schema.messageSites, Schema.messageSites, h.package]
    exact (h.enums.map _).append
      (h.messages.flatMap_walk_perm (fun _ _ hp => hp.declared_perm) s.package)
  messages := by
    rw [Schema.messageSites, Schema.messageSites, h.package, List.map_eq_flatMap,
      List.map_eq_flatMap]
    refine h.messages.flatMap_walk_perm (fun p p' hp => ?_) s.package
    rw [hp.names_eq, hp.fields]

/-! ## Registries of the same types -/

/-- References are followed by searching for names and in no other way. -/
theorem Registry.resolve_congr {r r' : Registry} (h : ∀ name, r.find? name = r'.find? name)
    (reference scope : Text) : r.resolve reference scope = r'.resolve reference scope := by
  unfold Registry.resolve
  split <;> simp only [h]

/-- A search does not depend on the order of registration, under distinct names. -/
theorem find?_ofList_eq_of_perm {ds ds' : List Declared} (hnodup : (ds.map Declared.fullName).Nodup)
    (h : ds.Perm ds') (name : Text) :
    (Registry.ofList ds).find? name = (Registry.ofList ds').find? name := by
  have hnodup' := (h.map Declared.fullName).nodup_iff.mp hnodup
  ext d
  rw [find?_ofList_eq_some_iff hnodup, find?_ofList_eq_some_iff hnodup', h.mem_iff]

theorem Registry.isExtendedBy_of_perm {ds ds' : List Declared}
    (hnodup : (ds.map Declared.fullName).Nodup) (h : ds.Perm ds') :
    (Registry.ofList ds).IsExtendedBy (.ofList ds') := fun {reference scope _} hd => by
  rwa [← Registry.resolve_congr (find?_ofList_eq_of_perm hnodup h) reference scope]

theorem register_iff_of_perm {ds ds' : List Declared} (h : ds.Perm ds') :
    register [] ds = .ok () ↔ register [] ds' = .ok () := by
  simp only [register_eq_ok_iff, (h.map Declared.fullName).nodup_iff, h.mem_iff]

/-! ## Builds of the same declarations -/

namespace Schema.DeclaresAlike

variable {s s' : Schema}

theorem symm (h : s.DeclaresAlike s') : s'.DeclaresAlike s :=
  ⟨h.package.symm, h.options.symm, h.types.symm, h.messages.symm⟩

/-- Each message site has a counterpart with the same fields at the same places. -/
theorem exists_site (h : s.DeclaresAlike s') {p' : MessageSite} (hp' : p' ∈ s'.messageSites) :
    ∃ p ∈ s.messageSites, p.names = p'.names ∧ p.fieldSites = p'.fieldSites := by
  obtain ⟨p, hp, heq⟩ := List.mem_map.mp (h.messages.mem_iff.mpr (List.mem_map_of_mem hp'))
  obtain ⟨hnames, hfields⟩ := Prod.mk.inj heq
  refine ⟨p, hp, hnames, ?_⟩
  rw [MessageSite.fieldSites, MessageSite.fieldSites, hnames, hfields]

theorem exists_build (h : s.DeclaresAlike s') (hbuild : ∃ g, s.build.result = .ok g) :
    ∃ g', s'.build.result = .ok g' := by
  obtain ⟨hreg, hall⟩ := s.exists_build_iff.mp hbuild
  have hnodup := ((register_eq_ok_iff [] s.declared).mp hreg).1
  refine s'.exists_build_iff.mpr
    ⟨(register_iff_of_perm h.types).mp hreg, fun p' hp' site hsite => ?_⟩
  obtain ⟨p, hp, -, hsites⟩ := h.exists_site hp'
  obtain ⟨f, hf⟩ := hall p hp site (hsites ▸ hsite)
  exact ⟨f, FieldSite.resolve_of_isExtendedBy (Registry.isExtendedBy_of_perm hnodup h.types) hf⟩

end Schema.DeclaresAlike

/-! ## Graphs with the same types -/

/-- Two graphs have types of the same names, and types of one name are alike in all that is
generated for them: the fields with everything about them, their fragments in every style, the
enum values, and the class. -/
structure Graph.SameTypes (g g' : Graph) : Prop where
  messageNames : ∀ name : Text,
    (∃ m ∈ g.allMessages, m.fullName = name) ↔ ∃ m' ∈ g'.allMessages, m'.fullName = name
  enumNames : ∀ name : Text,
    (∃ e ∈ g.allEnums, e.fullName = name) ↔ ∃ e' ∈ g'.allEnums, e'.fullName = name
  messages : ∀ m ∈ g.allMessages, ∀ m' ∈ g'.allMessages, m'.fullName = m.fullName →
    m'.toTypeName = m.toTypeName ∧ m'.fields = m.fields ∧
      g'.className m'.toTypeName = g.className m.toTypeName ∧
        ∀ style, m'.fields.map (Field.sheet (g'.settings style)) =
          m.fields.map (Field.sheet (g.settings style))
  enums : ∀ e ∈ g.allEnums, ∀ e' ∈ g'.allEnums, e'.fullName = e.fullName →
    e' = e ∧ g'.className e'.toTypeName = g.className e.toTypeName

namespace Schema.DeclaresAlike

variable {s s' : Schema} {g g' : Graph}

theorem exists_message (h : s.DeclaresAlike s') (hg : s.BuildsTo g) (hg' : s'.BuildsTo g')
    {m' : MessageType} (hm' : m' ∈ g'.allMessages) :
    ∃ m ∈ g.allMessages, m.toTypeName = m'.toTypeName ∧ m.fields = m'.fields := by
  obtain ⟨p', hp', hpm'⟩ := hg'.exists_site_of_mem hm'
  obtain ⟨p, hp, hnames, hsites⟩ := h.exists_site hp'
  obtain ⟨m, hm, hpm⟩ := exists_mem_of_forall₂ hg.messages hp
  refine ⟨m, hm, by rw [hpm.names, hpm'.names, hnames], ?_⟩
  have hfields := FieldSite.resolveAll_of_isExtendedBy
    (Registry.isExtendedBy_of_perm hg.nodup h.types) (FieldSite.resolveAll_eq_ok_iff.mpr hpm.fields)
  rw [hsites, FieldSite.resolveAll_eq_ok_iff.mpr hpm'.fields, Except.ok.injEq] at hfields
  exact hfields.symm

theorem mem_allEnums_iff (h : s.DeclaresAlike s') (hg : s.BuildsTo g) (hg' : s'.BuildsTo g')
    {e : EnumType} : e ∈ g.allEnums ↔ e ∈ g'.allEnums := by
  rw [← Graph.enum_mem_types, ← Graph.enum_mem_types, hg.types_eq, hg'.types_eq, h.types.mem_iff]

theorem sameTypes (h : s.DeclaresAlike s') (hg : s.BuildsTo g) (hg' : s'.BuildsTo g') :
    g.SameTypes g' := by
  have hpackage : g'.package = g.package := by rw [hg'.package, hg.package, h.package]
  have hoptions : g'.options = g.options := by rw [hg'.options, hg.options, h.options]
  have hclass := Graph.className_congr hpackage hoptions
  refine ⟨fun name => ⟨?_, ?_⟩, fun name => ?_, ?_, ?_⟩
  · rintro ⟨m, hm, hname⟩
    obtain ⟨m', hm', hnames, -⟩ := h.symm.exists_message hg' hg hm
    exact ⟨m', hm', by rw [hnames, hname]⟩
  · rintro ⟨m', hm', hname⟩
    obtain ⟨m, hm, hnames, -⟩ := h.exists_message hg hg' hm'
    exact ⟨m, hm, by rw [hnames, hname]⟩
  · simp only [h.mem_allEnums_iff hg hg']
  · intro m hm m' hm' heq
    obtain ⟨n, hn, hnames, hfields⟩ := h.exists_message hg hg' hm'
    have hnm : n = m := hg.message_injOn hm hn (by rw [hnames, heq])
    rw [hnm] at hnames hfields
    refine ⟨hnames.symm, hfields.symm, by rw [hclass, hnames], fun style => ?_⟩
    rw [Graph.settings_congr hpackage hoptions, hfields]
  · intro e he e' he' heq
    have he'' : .enum e' ∈ s.declared := by
      rw [← hg.types_eq, Graph.enum_mem_types, h.mem_allEnums_iff hg hg']
      exact he'
    have hsame : Declared.enum e' = .enum e := by
      rw [← Graph.enum_mem_types, hg.types_eq] at he
      exact eq_of_fullName_eq hg.nodup he'' he heq
    rw [Declared.enum.injEq] at hsame
    exact ⟨hsame, by rw [hclass, hsame]⟩

end Schema.DeclaresAlike

/-- **The order in which types are declared does not matter.**  A reordered schema builds exactly if
the schema does, and the two graphs have the same types. -/
theorem build_reordered {s s' : Schema} (h : s.Reordered s') :
    ((∃ g, s.build.result = .ok g) ↔ ∃ g', s'.build.result = .ok g') ∧
      ∀ g g', s.build.result = .ok g → s'.build.result = .ok g' → g.SameTypes g' := by
  have halike := h.declaresAlike
  refine ⟨⟨halike.exists_build, halike.symm.exists_build⟩, fun g g' hg hg' => ?_⟩
  exact halike.sameTypes (Schema.buildsTo_of_build hg) (Schema.buildsTo_of_build hg')

/-- Two messages that refer to what is inside the other one. -/
def Schema.crossed : Schema where
  package := "a"
  enums := [⟨"Color", [⟨"RED", 0⟩]⟩, ⟨"Shape", [⟨"ROUND", 0⟩]⟩]
  messages :=
    [{ name := "Left"
       fields := [{ name := "item", number := 1, type := "message", typeName := some "Right.Item" }]
       enums := [⟨"Size", [⟨"SMALL", 0⟩, ⟨"LARGE", 1⟩]⟩] },
     { name := "Right"
       fields := [{ name := "size", number := 1, type := "enum", typeName := some "Left.Size",
                    default := some "LARGE" }]
       messages := [{ name := "Item" }, { name := "Note" }] }]

/-- The same two messages the other way round, and in one of them what is inside. -/
def Schema.crossedBack : Schema where
  package := "a"
  enums := [⟨"Shape", [⟨"ROUND", 0⟩]⟩, ⟨"Color", [⟨"RED", 0⟩]⟩]
  messages :=
    [{ name := "Right"
       fields := [{ name := "size", number := 1, type := "enum", typeName := some "Left.Size",
                    default := some "LARGE" }]
       messages := [{ name := "Note" }, { name := "Item" }] },
     { name := "Left"
       fields := [{ name := "item", number := 1, type := "message", typeName := some "Right.Item" }]
       enums := [⟨"Size", [⟨"SMALL", 0⟩, ⟨"LARGE", 1⟩]⟩] }]

theorem Schema.crossed_reordered : Schema.crossed.Reordered Schema.crossedBack := by
  refine ⟨rfl, rfl, .trans (.swap _ _ _) ?_, List.Perm.swap _ _ _⟩
  exact .cons (.mk (.swap _ _ _) (List.Perm.refl _)) (MessageDecl.ReorderedAll.refl _)

/-- In particular references forward and back, into messages that change places, are kept. -/
theorem crossed_sameTypes : Schema.crossed.Reordered Schema.crossedBack ∧
    ∃ g g', Schema.crossed.build.result = .ok g ∧ Schema.crossedBack.build.result = .ok g' ∧
      g.SameTypes g' := by
  obtain ⟨hbuilds, hsame⟩ := build_reordered Schema.crossed_reordered
  obtain ⟨g, hg, -⟩ := Schema.exists_of_buildPasses (s := Schema.crossed) (t := fun _ => true)
    (by decide +kernel)
  obtain ⟨g', hg'⟩ := hbuilds.mp ⟨g, hg⟩
  exact ⟨Schema.crossed_reordered, g, g', hg, hg', hsame g g' hg hg'⟩

end FieldCode
