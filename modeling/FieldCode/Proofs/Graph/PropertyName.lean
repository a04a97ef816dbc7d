import FieldCode.Proofs.Graph.ClassName
import FieldCode.Proofs.Text.Case

/-!
# The property name and the identifier

The property name of a field is made while the schema is built, from the declaration and the type
that it refers to.  The identifier is made later, from the field alone.  Both start from the name of
the type for a group and from the name of the field otherwise (`FieldSite.sourceName_field`), so a
derived property name is the identifier with a capital in front (`FieldSite.names_sheet`).

A property name that is asked for goes into the property name of its field and nowhere else.  Two
schemas that differ in such names only, which is that `Schema.withoutPropertyNames` makes them equal,
declare the same types, and each field site refers to the same type and has the same default in both.
So both build if one does, and a field of the one differs from its counterpart in the property name
at most, and only if another one is asked for it (`Schema.exists_renamed_graph`).
-/

namespace FieldCode

/-! ## Two ways to one name -/

/-- The name that an identifier is derived from is the one that the property name is derived from. -/
theorem FieldSite.sourceName_field (s : FieldSite) (k : Kind) (t : Option Declared) (v : Value) :
    (s.field k t v).sourceName = s.baseName k t := by
  cases t with
  | none => cases k <;> rfl
  | some d => cases d <;> cases k <;> rfl

/-- What the fragments of a field say of its names, next to its declaration. -/
structure FieldSite.Names (s : FieldSite) (sheet : Sheet) : Prop where
  /-- A property name is taken as it is asked for. -/
  asked : ∀ p, s.decl.propertyName = some p → p ≠ [] → sheet.propertyName = p
  /-- One that is not asked for is the Pascal form of the identifier, of the same length, and differs
  from it by a capital in front at most. -/
  derived : s.decl.propertyName.getD [] = [] → ∃ name, sheet.name = .ok name ∧
    sheet.propertyName = Text.pascal name ∧ sheet.propertyName.length = name.length ∧
      sheet.propertyName = name.modifyHead Rune.toUpper

theorem FieldSite.names_sheet {r : Registry} {s : FieldSite} {f : Field}
    (h : s.resolve r = .ok f) (settings : Settings) : s.Names (f.sheet settings) := by
  obtain ⟨k, t, v, -, -, rfl⟩ := FieldSite.resolve_eq_ok_iff.mp h
  constructor
  · intro p hp hne
    show s.propertyName k t = p
    rw [FieldSite.propertyName, hp, Option.getD_some, if_neg hne]
  · intro hempty
    have hname : (s.field k t v).identifier = Text.camel (s.baseName k t) := by
      rw [Field.identifier, s.sourceName_field]
    have hproperty : (s.field k t v).propertyName = Text.pascal (s.baseName k t) :=
      if_pos hempty
    have hcapital : (s.field k t v).propertyName =
        (s.field k t v).identifier.modifyHead Rune.toUpper := by
      rw [hname, hproperty, Text.pascal_eq_modifyHead_camel]
    refine ⟨_, rfl, ?_, ?_, hcapital⟩
    · show (s.field k t v).propertyName = Text.pascal (s.field k t v).identifier
      rw [hname, hproperty, Text.pascal_camel]
    · show (s.field k t v).propertyName.length = (s.field k t v).identifier.length
      rw [hcapital, List.length_modifyHead]

/-! ## Schemas without the property names asked for -/

/-- The field without the property name asked for. -/
def FieldDecl.withoutPropertyName (d : FieldDecl) : FieldDecl :=
  { d with propertyName := none }

mutual

/-- The message without the property names asked for. -/
def MessageDecl.withoutPropertyNames : MessageDecl → MessageDecl
  | ⟨name, fields, messages, enums⟩ =>
    ⟨name, fields.map FieldDecl.withoutPropertyName, withoutPropertyNamesAll messages, enums⟩

/-- Some messages without the property names asked for. -/
def MessageDecl.withoutPropertyNamesAll : List MessageDecl → List MessageDecl
  | [] => []
  | d :: ds => d.withoutPropertyNames :: withoutPropertyNamesAll ds

end

/-- The schema without the property names asked for. -/
def Schema.withoutPropertyNames (s : Schema) : Schema :=
  { s with messages := MessageDecl.withoutPropertyNamesAll s.messages }

/-- The field site without the property name asked for. -/
def FieldSite.withoutPropertyName (s : FieldSite) : FieldSite :=
  { s with decl := s.decl.withoutPropertyName }

/-- The message site without the property names asked for. -/
def MessageSite.withoutPropertyNames (p : MessageSite) : MessageSite :=
  ⟨p.scope, p.decl.withoutPropertyNames⟩

theorem MessageSite.declared_withoutPropertyNames (p : MessageSite) :
    p.withoutPropertyNames.declared = p.declared := by
  obtain ⟨scope, name, fields, messages, enums⟩ := p
  rw [MessageSite.withoutPropertyNames, MessageDecl.withoutPropertyNames]
  rfl

theorem FieldSite.ofFields_withoutPropertyName (owner : TypeName) (fields : List FieldDecl) :
    FieldSite.ofFields owner (fields.map FieldDecl.withoutPropertyName) =
      (FieldSite.ofFields owner fields).map FieldSite.withoutPropertyName := by
  have hnumbers : ∀ i, ((fields.map FieldDecl.withoutPropertyName).take i).map (·.number) =
      (fields.take i).map (·.number) := by
    intro i
    rw [← List.map_take, List.map_map]
    rfl
  refine List.ext_getElem? fun i => ?_
  rw [FieldSite.getElem?_ofFields, List.getElem?_map, List.getElem?_map,
    FieldSite.getElem?_ofFields, hnumbers, Option.map_map, Option.map_map]
  rfl

theorem MessageSite.fieldSites_withoutPropertyNames (p : MessageSite) :
    p.withoutPropertyNames.fieldSites = p.fieldSites.map FieldSite.withoutPropertyName := by
  obtain ⟨scope, name, fields, messages, enums⟩ := p
  rw [MessageSite.withoutPropertyNames, MessageDecl.withoutPropertyNames]
  exact FieldSite.ofFields_withoutPropertyName _ fields

mutual

theorem MessageDecl.walk_withoutPropertyNames (scope : Text) :
    ∀ d : MessageDecl, d.withoutPropertyNames.walk scope =
      (d.walk scope).map MessageSite.withoutPropertyNames
  | ⟨name, fields, messages, enums⟩ => by
    rw [MessageDecl.withoutPropertyNames, MessageDecl.walk, MessageDecl.walk, List.map_cons,
      MessageSite.withoutPropertyNames, MessageDecl.withoutPropertyNames,
      MessageDecl.walkAll_withoutPropertyNames (qualify scope name) messages]

theorem MessageDecl.walkAll_withoutPropertyNames (scope : Text) :
    ∀ ds : List MessageDecl, MessageDecl.walkAll scope (MessageDecl.withoutPropertyNamesAll ds) =
      (MessageDecl.walkAll scope ds).map MessageSite.withoutPropertyNames
  | [] => by rw [MessageDecl.withoutPropertyNamesAll, MessageDecl.walkAll, List.map_nil]
  | d :: ds => by
    rw [MessageDecl.withoutPropertyNamesAll, MessageDecl.walkAll, MessageDecl.walkAll,
      List.map_append, MessageDecl.walk_withoutPropertyNames scope d,
      MessageDecl.walkAll_withoutPropertyNames scope ds]

end

theorem Schema.messageSites_withoutPropertyNames (s : Schema) :
    s.withoutPropertyNames.messageSites =
      s.messageSites.map MessageSite.withoutPropertyNames :=
  MessageDecl.walkAll_withoutPropertyNames s.package s.messages

/-- The types that are registered do not depend on property names. -/
theorem Schema.declared_withoutPropertyNames (s : Schema) :
    s.withoutPropertyNames.declared = s.declared := by
  rw [Schema.declared_eq, Schema.declared_eq, Schema.messageSites_withoutPropertyNames,
    List.flatMap_map, funext MessageSite.declared_withoutPropertyNames]
  rfl

theorem Schema.sites_withoutPropertyNames (s : Schema) :
    s.withoutPropertyNames.sites = s.sites.map FieldSite.withoutPropertyName := by
  rw [Schema.sites_eq, Schema.sites_eq, Schema.messageSites_withoutPropertyNames,
    List.flatMap_map, funext MessageSite.fieldSites_withoutPropertyNames, List.map_flatMap]

/-! ## Renamed properties -/

theorem FieldSite.eq_of_withoutPropertyName {s s' : FieldSite}
    (h : s'.withoutPropertyName = s.withoutPropertyName) :
    s' = { s with decl := { s.decl with propertyName := s'.decl.propertyName } } := by
  obtain ⟨owner, index, earlier, ⟨⟩⟩ := s
  obtain ⟨owner', index', earlier', ⟨⟩⟩ := s'
  simpa [FieldSite.withoutPropertyName, FieldDecl.withoutPropertyName] using h

/-- A field at its site, and its counterpart for which another property name may be asked: they are
the same but for the property name, and the same altogether if the same one is asked for. -/
structure FieldSite.Renamed (p p' : FieldSite × Field) : Prop where
  others : p'.2 = { p.2 with propertyName := p'.2.propertyName }
  unasked : p'.1.decl.propertyName = p.1.decl.propertyName → p'.2 = p.2

/-- A renamed field has the same fragments, but for the property name. -/
theorem FieldSite.Renamed.sheet {p p' : FieldSite × Field} (h : FieldSite.Renamed p p')
    (settings : Settings) :
    p'.2.sheet settings = { p.2.sheet settings with propertyName := p'.2.propertyName } := by
  rw [h.others]
  rfl

/-- A site that resolves does so whatever property name is asked for. -/
theorem FieldSite.exists_resolve_renamed {r : Registry} {s s' : FieldSite} {f : Field}
    (hs : s'.withoutPropertyName = s.withoutPropertyName) (h : s.resolve r = .ok f) :
    ∃ f', s'.resolve r = .ok f' ∧ FieldSite.Renamed (s, f) (s', f') := by
  have hsite := FieldSite.eq_of_withoutPropertyName hs
  obtain ⟨k, t, v, href, hv, rfl⟩ := FieldSite.resolve_eq_ok_iff.mp h
  have h' : s'.resolve r = .ok (s'.field k t v) := by
    rw [hsite]
    exact FieldSite.resolve_eq_ok_iff.mpr ⟨k, t, v, href, hv, rfl⟩
  refine ⟨_, h', ?_, fun hasked => ?_⟩
  · rw [hsite]
    rfl
  · rw [hasked] at hsite
    exact congrArg (·.field k t v) hsite

theorem FieldSite.exists_resolveAll_renamed {r : Registry} {ss ss' : List FieldSite}
    {fs : List Field}
    (hs : ss'.map FieldSite.withoutPropertyName = ss.map FieldSite.withoutPropertyName)
    (h : List.Forall₂ (fun s f => FieldSite.resolve r s = .ok f) ss fs) :
    ∃ fs', List.Forall₂ (fun s f => FieldSite.resolve r s = .ok f) ss' fs' ∧
      List.Forall₂ FieldSite.Renamed (ss.zip fs) (ss'.zip fs') := by
  induction h generalizing ss' with
  | nil =>
    rw [List.map_eq_nil_iff.mp hs]
    exact ⟨[], .nil, .nil⟩
  | cons hf _ ih =>
    rw [List.map_cons, List.map_eq_cons_iff] at hs
    obtain ⟨s', ss', rfl, hs, hss⟩ := hs
    obtain ⟨f', hf', hrenamed⟩ := FieldSite.exists_resolve_renamed hs hf
    obtain ⟨fs', hfs', hrest⟩ := ih hss
    exact ⟨f' :: fs', .cons hf' hfs', .cons hrenamed hrest⟩

/-- A schema that builds does so whatever property names are asked for, to the same fields but for
these names. -/
theorem Schema.exists_renamed_graph {s s' : Schema} {g : Graph} (hg : s.build.result = .ok g)
    (h : s'.withoutPropertyNames = s.withoutPropertyNames) :
    ∃ g', s'.build.result = .ok g' ∧
      List.Forall₂ FieldSite.Renamed (s.sites.zip g.allFields) (s'.sites.zip g'.allFields) := by
  have hdeclared : s'.declared = s.declared := by
    rw [← s'.declared_withoutPropertyNames, h, s.declared_withoutPropertyNames]
  have hsites : s'.sites.map FieldSite.withoutPropertyName =
      s.sites.map FieldSite.withoutPropertyName := by
    rw [← s'.sites_withoutPropertyNames, h, s.sites_withoutPropertyNames]
  obtain ⟨fs', hfs', hrenamed⟩ :=
    FieldSite.exists_resolveAll_renamed hsites (Schema.buildsTo_of_build hg).forall₂_sites
  have hregister := (Schema.build_eq_ok_iff.mp hg).1
  rw [← hdeclared] at hregister hfs'
  obtain ⟨g', hg', rfl⟩ := Schema.exists_build_of_forall₂_sites hregister hfs'
  exact ⟨g', hg', hrenamed⟩

/-- **Property name and identifier agree.**  In the graph of a schema, a property name that is not
asked for is the Pascal form of the identifier of its field, as long as it and the same but for a
capital in front.  And whatever property names are asked for instead, the schema still builds; no
fragment of a field changes but its property name, and that only if another one is asked for it. -/
theorem property_name_follows_identifier {s : Schema} {g : Graph} (h : s.build.result = .ok g) :
    (∀ style, List.Forall₂ (fun site f => site.Names (f.sheet (g.settings style))) s.sites
        g.allFields) ∧
      ∀ s' : Schema, s'.withoutPropertyNames = s.withoutPropertyNames →
        ∃ g', s'.build.result = .ok g' ∧ ∀ style, List.Forall₂
          (fun p p' => p'.2.sheet (g'.settings style) =
              { p.2.sheet (g.settings style) with propertyName := p'.2.propertyName } ∧
            (p'.1.decl.propertyName = p.1.decl.propertyName →
              p'.2.sheet (g'.settings style) = p.2.sheet (g.settings style)))
          (s.sites.zip g.allFields) (s'.sites.zip g'.allFields) := by
  have hb := Schema.buildsTo_of_build h
  refine ⟨fun style => hb.forall₂_sites.imp fun _ _ hf => FieldSite.names_sheet hf _,
    fun s' hs' => ?_⟩
  obtain ⟨g', hg', hrenamed⟩ := Schema.exists_renamed_graph h hs'
  have hb' := Schema.buildsTo_of_build hg'
  have hpackage : g'.package = g.package := by
    rw [hb'.package, hb.package]
    exact (congrArg Schema.package hs' :)
  have hoptions : g'.options = g.options := by
    rw [hb'.options, hb.options]
    exact (congrArg Schema.options hs' :)
  refine ⟨g', hg', fun style => hrenamed.imp fun p p' hp => ?_⟩
  rw [Graph.settings_congr hpackage hoptions]
  exact ⟨hp.sheet _, fun hasked => by rw [hp.unasked hasked]⟩

/-- The sample schema with property names asked for, one of them empty. -/
def Schema.sampleRenamed : Schema where
  package := "a.b"
  enums := [⟨"Color", [⟨"RED", 0⟩, ⟨"BLUE", 7⟩]⟩]
  messages :=
    [{ name := "Outer"
       fields :=
         [{ name := "id", number := 1, type := "SINT32", default := some "-0x10",
            propertyName := some "Key" },
          { name := "color", number := 2, type := "enum", typeName := some "Color",
            default := some "BLUE", propertyName := some "" },
          { name := "data", number := 3, type := "bytes", default := some "\\x00" }]
       messages :=
         [{ name := "Inner"
            fields := [{ name := "outer", number := 1, type := "Group",
                         typeName := some ".a.b.Outer", propertyName := some "Parent" }] }] }]

/-- In particular the names of the sample schema agree, that of its group included, and asking for
others changes nothing else. -/
theorem sample_property_names : ∃ g g', Schema.sample.build.result = .ok g ∧
    Schema.sampleRenamed.withoutPropertyNames = Schema.sample.withoutPropertyNames ∧
      Schema.sampleRenamed.build.result = .ok g' ∧ ∀ style,
        List.Forall₂ (fun site f => site.Names (f.sheet (g.settings style))) Schema.sample.sites
            g.allFields ∧
          List.Forall₂
            (fun p p' => p'.2.sheet (g'.settings style) =
                { p.2.sheet (g.settings style) with propertyName := p'.2.propertyName } ∧
              (p'.1.decl.propertyName = p.1.decl.propertyName →
                p'.2.sheet (g'.settings style) = p.2.sheet (g.settings style)))
            (Schema.sample.sites.zip g.allFields) (Schema.sampleRenamed.sites.zip g'.allFields) := by
  obtain ⟨g, hg, -⟩ := Schema.exists_of_buildPasses (s := Schema.sample) (t := fun _ => true)
    (by decide +kernel)
  have hsame : Schema.sampleRenamed.withoutPropertyNames = Schema.sample.withoutPropertyNames := rfl
  obtain ⟨hnames, hrenamed⟩ := property_name_follows_identifier hg
  obtain ⟨g', hg', hsheets⟩ := hrenamed _ hsame
  exact ⟨g, g', hg, hsame, hg', fun style => ⟨hnames style, hsheets style⟩⟩

end FieldCode
