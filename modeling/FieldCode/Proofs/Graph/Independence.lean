import FieldCode.Proofs.Graph.ClassName

/-!
# Fields do not influence one another

Two schemas can declare the same messages and enums and differ in fields only, which is that
`Schema.withoutFields` makes them equal.  A declaration that stands at the same place of the same
message in both then resolves to the same field, with the same fragments, if both schemas build
(`fields_independent`).

There are two ways in which a field could feel the others.  It is resolved against the registry, and
the registry holds types only, so it does not know of fields (`Schema.declared_withoutFields`).  And
its site carries the numbers of the fields before it, but these decide only whether there is a field
at all, and not which one (`FieldSite.resolve_of_earlier`).  That a build keeps nothing else from one
field to the next is `Schema.run_eq_build`, in which the tables, the pending messages and the numbers
seen are a state.
-/

namespace FieldCode

/-! ## Schemas without their fields -/

mutual

/-- The message without its fields and without those of the messages inside it. -/
def MessageDecl.withoutFields : MessageDecl → MessageDecl
  | ⟨name, _, messages, enums⟩ => ⟨name, [], withoutFieldsAll messages, enums⟩

/-- Some messages without fields. -/
def MessageDecl.withoutFieldsAll : List MessageDecl → List MessageDecl
  | [] => []
  | d :: ds => d.withoutFields :: withoutFieldsAll ds

end

/-- The schema without the fields of its messages. -/
def Schema.withoutFields (s : Schema) : Schema :=
  { s with messages := MessageDecl.withoutFieldsAll s.messages }

mutual

theorem MessageDecl.declared_withoutFields (scope : Text) :
    ∀ d : MessageDecl, d.withoutFields.declared scope = d.declared scope
  | ⟨name, fields, messages, enums⟩ => by
    rw [MessageDecl.withoutFields, MessageDecl.declared, MessageDecl.declared,
      MessageDecl.declaredAll_withoutFieldsAll (qualify scope name) messages]

theorem MessageDecl.declaredAll_withoutFieldsAll (scope : Text) :
    ∀ ds : List MessageDecl, MessageDecl.declaredAll scope (MessageDecl.withoutFieldsAll ds) =
      MessageDecl.declaredAll scope ds
  | [] => rfl
  | d :: ds => by
    rw [MessageDecl.withoutFieldsAll, MessageDecl.declaredAll, MessageDecl.declaredAll,
      MessageDecl.declared_withoutFields scope d,
      MessageDecl.declaredAll_withoutFieldsAll scope ds]

end

/-- The types that are registered do not depend on fields. -/
theorem Schema.declared_withoutFields (s : Schema) : s.withoutFields.declared = s.declared := by
  show _ ++ MessageDecl.declaredAll s.package (MessageDecl.withoutFieldsAll s.messages) = _
  rw [MessageDecl.declaredAll_withoutFieldsAll]
  rfl

/-! ## Earlier fields -/

/-- A field depends on the numbers before it for nothing but its own number being new. -/
theorem FieldSite.resolve_of_earlier {r : Registry} {owner : TypeName} {index : Nat}
    {earlier earlier' : List Int} {d : FieldDecl} {f : Field}
    (h : FieldSite.resolve r ⟨owner, index, earlier, d⟩ = .ok f) (hnew : d.number ∉ earlier') :
    FieldSite.resolve r ⟨owner, index, earlier', d⟩ = .ok f := by
  obtain ⟨k, t, v, href, hv, rfl⟩ := FieldSite.resolve_eq_ok_iff.mp h
  obtain ⟨hk, hpos, -, ht⟩ := FieldSite.refer_eq_ok_iff.mp href
  have ht' : FieldSite.Target r ⟨owner, index, earlier', d⟩ k t := by
    cases ht with
    | plain hc => exact .plain hc
    | composite hc hne hd hsuits => exact .composite hc hne hd hsuits
  have href' : FieldSite.refer r ⟨owner, index, earlier', d⟩ = .ok (k, t) :=
    FieldSite.refer_eq_ok_iff.mpr ⟨hk, hpos, hnew, ht'⟩
  exact FieldSite.resolve_eq_ok_iff.mpr ⟨k, t, v, href', hv, rfl⟩

/-- Two sites that differ in the numbers before them resolve to one field, if both resolve. -/
theorem FieldSite.resolve_unique {r : Registry} {owner : TypeName} {index : Nat}
    {earlier earlier' : List Int} {d : FieldDecl} {f f' : Field}
    (h : FieldSite.resolve r ⟨owner, index, earlier, d⟩ = .ok f)
    (h' : FieldSite.resolve r ⟨owner, index, earlier', d⟩ = .ok f') : f' = f := by
  obtain ⟨k, t, v, href, -, -⟩ := FieldSite.resolve_eq_ok_iff.mp h'
  obtain ⟨-, -, hnew, -⟩ := FieldSite.refer_eq_ok_iff.mp href
  rw [FieldSite.resolve_of_earlier h hnew, Except.ok.injEq] at h'
  exact h'.symm

/-! ## Places -/

/-- A field is declared at a place of the message with a full name. -/
def Schema.DeclaresAt (s : Schema) (owner : Text) (i : Nat) (d : FieldDecl) : Prop :=
  ∃ p ∈ s.messageSites, p.fullName = owner ∧ p.decl.fields[i]? = some d

/-- A field stands at a place of the message with a full name. -/
def Graph.ListsAt (g : Graph) (owner : Text) (i : Nat) (f : Field) : Prop :=
  ∃ m ∈ g.allMessages, m.fullName = owner ∧ m.fields[i]? = some f

/-- At the place of a declaration stands one field, the one that it resolves to there. -/
theorem Schema.BuildsTo.listsAt_iff {s : Schema} {g : Graph} (h : s.BuildsTo g) {owner : Text}
    {i : Nat} {d : FieldDecl} (hd : s.DeclaresAt owner i d) :
    ∃ names earlier f, .message names ∈ s.declared ∧ names.fullName = owner ∧
      FieldSite.resolve (.ofList s.declared) ⟨names, i, earlier, d⟩ = .ok f ∧
        ∀ f', g.ListsAt owner i f' ↔ f' = f := by
  obtain ⟨p, hp, howner, hat⟩ := hd
  obtain ⟨m, hm, hpm⟩ := exists_mem_of_forall₂ h.messages hp
  have hname : m.fullName = owner := (congrArg TypeName.fullName hpm.names).trans howner
  have hsite : p.fieldSites[i]? = some ⟨p.names, i, (p.decl.fields.take i).map (·.number), d⟩ := by
    rw [MessageSite.fieldSites, FieldSite.getElem?_ofFields, hat]
    rfl
  obtain ⟨hi, hget⟩ := List.getElem?_eq_some_iff.mp hsite
  have hi' : i < m.fields.length := hpm.fields.length_eq ▸ hi
  have hresolve := hpm.fields.get hi hi'
  rw [List.get_eq_getElem, hget] at hresolve
  have hdeclared : .message p.names ∈ s.declared := by
    rw [Schema.declared_eq]
    exact List.mem_append_right _
      (List.mem_flatMap.mpr ⟨p, hp, by rw [MessageSite.declared]; exact List.mem_cons_self ..⟩)
  refine ⟨p.names, _, m.fields[i], hdeclared, howner, hresolve, fun f' => ⟨?_, ?_⟩⟩
  · rintro ⟨m', hm', hname', hat'⟩
    rw [h.message_injOn hm hm' (hname'.trans hname.symm), List.getElem?_eq_getElem hi'] at hat'
    exact (Option.some.inj hat').symm
  · rintro rfl
    exact ⟨m, hm, hname, List.getElem?_eq_getElem hi'⟩

/-! ## The same place in two schemas -/

/-- **Fields do not influence one another.**  If two schemas build that differ in their fields only,
and a declaration stands at the same place of the same message in both, one and the same field stands
there in both graphs, and its fragments are the same in every style. -/
theorem fields_independent {s s' : Schema} {g g' : Graph} (h : s'.withoutFields = s.withoutFields)
    (hg : s.build.result = .ok g) (hg' : s'.build.result = .ok g') {owner : Text} {i : Nat}
    {d : FieldDecl} (hd : s.DeclaresAt owner i d) (hd' : s'.DeclaresAt owner i d) :
    ∃ f, (∀ f', g.ListsAt owner i f' ↔ f' = f) ∧ (∀ f', g'.ListsAt owner i f' ↔ f' = f) ∧
      ∀ style, f.sheet (g'.settings style) = f.sheet (g.settings style) := by
  have hb := Schema.buildsTo_of_build hg
  have hb' := Schema.buildsTo_of_build hg'
  have hdeclared : s'.declared = s.declared := by
    rw [← s'.declared_withoutFields, h, s.declared_withoutFields]
  obtain ⟨names, earlier, f, hmem, hname, hf, hlists⟩ := hb.listsAt_iff hd
  obtain ⟨names', earlier', f', hmem', hname', hf', hlists'⟩ := hb'.listsAt_iff hd'
  rw [hdeclared] at hmem' hf'
  have hnames : names' = names :=
    Declared.message.inj (eq_of_fullName_eq hb.nodup hmem' hmem (hname'.trans hname.symm))
  rw [hnames] at hf'
  have hsame : f' = f := FieldSite.resolve_unique hf hf'
  have hpackage : g'.package = g.package := by
    rw [hb'.package, hb.package]
    simpa [Schema.withoutFields] using congrArg Schema.package h
  have hoptions : g'.options = g.options := by
    rw [hb'.options, hb.options]
    simpa [Schema.withoutFields] using congrArg Schema.options h
  refine ⟨f, hlists, hsame ▸ hlists', fun style => ?_⟩
  rw [Graph.settings_congr hpackage hoptions]

/-- The enum field of the sample schema. -/
def FieldDecl.sampleColor : FieldDecl where
  name := "color"
  number := 2
  type := "enum"
  typeName := some "Color"
  default := some "BLUE"

/-- The sample schema with other fields, this one apart. -/
def Schema.sampleRefielded : Schema where
  package := "a.b"
  enums := [⟨"Color", [⟨"RED", 0⟩, ⟨"BLUE", 7⟩]⟩]
  messages :=
    [{ name := "Outer"
       fields :=
         [{ name := "color", number := 9, type := "Enum", typeName := some ".a.b.Color" },
          .sampleColor]
       messages :=
         [{ name := "Inner"
            fields := [{ name := "data", number := 2, type := "bytes", default := some "\\xff" },
                       { name := "outer", number := 1, type := "uint64" }] }] }]

/-- In particular the enum field of the sample schema does not feel another one before it, although
that has its name and refers to its enum. -/
theorem sample_color_independent : ∃ g g' f,
    Schema.sampleRefielded.withoutFields = Schema.sample.withoutFields ∧
      Schema.sample.build.result = .ok g ∧ Schema.sampleRefielded.build.result = .ok g' ∧
        Schema.sample.DeclaresAt "a.b.Outer" 1 .sampleColor ∧
          Schema.sampleRefielded.DeclaresAt "a.b.Outer" 1 .sampleColor ∧
            (∀ f', g.ListsAt "a.b.Outer" 1 f' ↔ f' = f) ∧
              (∀ f', g'.ListsAt "a.b.Outer" 1 f' ↔ f' = f) ∧
                ∀ style, f.sheet (g'.settings style) = f.sheet (g.settings style) := by
  obtain ⟨g, hg, -⟩ := Schema.exists_of_buildPasses (s := Schema.sample) (t := fun _ => true)
    (by decide +kernel)
  obtain ⟨g', hg', -⟩ := Schema.exists_of_buildPasses (s := Schema.sampleRefielded)
    (t := fun _ => true) (by decide +kernel)
  have hsame : Schema.sampleRefielded.withoutFields = Schema.sample.withoutFields := rfl
  have hd : Schema.sample.DeclaresAt "a.b.Outer" 1 .sampleColor :=
    ⟨_, List.mem_cons_self .., rfl, rfl⟩
  have hd' : Schema.sampleRefielded.DeclaresAt "a.b.Outer" 1 .sampleColor :=
    ⟨_, List.mem_cons_self .., rfl, rfl⟩
  obtain ⟨f, hf⟩ := fields_independent hsame hg hg' hd hd'
  exact ⟨g, g', f, hsame, hg, hg', hd, hd', hf⟩

end FieldCode
