import FieldCode.Proofs.Document.AsRead
import FieldCode.Proofs.Graph.WellTyped

/-!
# What is generated from a schema that was read

In what is generated from a schema that was read from a file no halves of surrogate pairs meet, with
one exception.  Names are put together around dots, and class names and defaults around other marks, so
that halves at the ends of two names stay apart.  Only in the null check the qualifier of the library
and the name of its function stand side by side, and there halves can meet (`RuntimeNames.HalvesMeet`).

* `Graph.AsRead` says of a graph what is needed of it, and `Schema.BuildsTo.asRead` is the way from
  the schema.
* `Graph.AsRead.sheet`: the fragments of the fields, the null check apart.
* `Field.isJoined_nullCheck`: the null check.
-/

namespace FieldCode

/-! ## Names -/

theorem isJoined_qualify {scope name : Text} (hscope : scope.IsJoined) (hname : name.IsJoined) :
    (qualify scope name).IsJoined := by
  unfold qualify
  split_ifs
  · exact hname
  · simp [hscope, hname]

/-- No halves meet in the names of the type and of its values. -/
def Declared.AsRead : Declared → Prop
  | enum e => e.fullName.IsJoined ∧ ∀ v ∈ e.members, v.name.IsJoined
  | message m => m.fullName.IsJoined

theorem EnumDecl.AsRead.toType {d : EnumDecl} (h : d.AsRead) {scope : Text}
    (hscope : scope.IsJoined) : (Declared.enum (d.toType scope)).AsRead := by
  refine ⟨isJoined_qualify hscope h.name, fun v hv => ?_⟩
  obtain ⟨i, hi, rfl⟩ := List.mem_mapIdx.mp hv
  exact h.values _ (List.getElem_mem hi)

/-- No halves meet in the scope of the site and in its declaration. -/
structure MessageSite.AsRead (p : MessageSite) : Prop where
  scope : p.scope.IsJoined
  decl : p.decl.AsRead

theorem MessageDecl.AsRead.name {d : MessageDecl} (h : d.AsRead) : d.name.IsJoined := by
  cases h
  assumption

theorem MessageDecl.AsRead.fields {d : MessageDecl} (h : d.AsRead) : ∀ f ∈ d.fields, f.AsRead := by
  cases h
  assumption

theorem MessageDecl.AsRead.messages {d : MessageDecl} (h : d.AsRead) :
    ∀ m ∈ d.messages, m.AsRead := by
  cases h
  assumption

theorem MessageDecl.AsRead.enums {d : MessageDecl} (h : d.AsRead) : ∀ e ∈ d.enums, e.AsRead := by
  cases h
  assumption

theorem MessageSite.AsRead.fullName {p : MessageSite} (h : p.AsRead) : p.fullName.IsJoined :=
  isJoined_qualify h.scope h.decl.name

mutual

theorem MessageDecl.asRead_of_mem_walk : ∀ (d : MessageDecl) {scope : Text}, scope.IsJoined →
    d.AsRead → ∀ p ∈ d.walk scope, p.AsRead
  | ⟨name, fields, messages, enums⟩, scope, hscope, h => by
    rw [MessageDecl.walk]
    exact List.forall_mem_cons.mpr ⟨⟨hscope, h⟩,
      MessageDecl.asRead_of_mem_walkAll messages (isJoined_qualify hscope h.name) h.messages⟩

theorem MessageDecl.asRead_of_mem_walkAll : ∀ (ds : List MessageDecl) {scope : Text},
    scope.IsJoined → (∀ d ∈ ds, d.AsRead) → ∀ p ∈ MessageDecl.walkAll scope ds, p.AsRead
  | [], _, _, _ => by
    rw [MessageDecl.walkAll]
    exact List.forall_mem_nil _
  | d :: ds, _, hscope, h => by
    obtain ⟨hd, hds⟩ := List.forall_mem_cons.mp h
    rw [MessageDecl.walkAll]
    exact List.forall_mem_append.mpr ⟨MessageDecl.asRead_of_mem_walk d hscope hd,
      MessageDecl.asRead_of_mem_walkAll ds hscope hds⟩

end

namespace Schema.AsRead

variable {s : Schema}

theorem messageSites (h : s.AsRead) : ∀ p ∈ s.messageSites, p.AsRead :=
  MessageDecl.asRead_of_mem_walkAll s.messages h.package h.messages

theorem declared (h : s.AsRead) : ∀ d ∈ s.declared, d.AsRead := by
  rw [Schema.declared_eq, List.forall_mem_append]
  refine ⟨?_, ?_⟩
  · intro d hd
    obtain ⟨e, he, rfl⟩ := List.mem_map.mp hd
    exact (h.enums e he).toType h.package
  · intro d hd
    obtain ⟨p, hp, hd⟩ := List.mem_flatMap.mp hd
    have hsite := h.messageSites p hp
    rcases List.mem_cons.mp hd with rfl | hd
    · exact hsite.fullName
    · obtain ⟨e, he, rfl⟩ := List.mem_map.mp hd
      exact (hsite.decl.enums e he).toType hsite.fullName

end Schema.AsRead

/-! ## The graph -/

/-- No halves meet in the names of the field, and its number is short. -/
structure Field.AsRead (f : Field) : Prop where
  fullName : f.fullName.IsJoined
  propertyName : f.propertyName.IsJoined
  number : Numeral.Fits f.number
  container : f.container.fullName.IsJoined

/-- No halves meet in the names of the graph, and the numbers of its fields are short. -/
structure Graph.AsRead (g : Graph) : Prop where
  rootNamespace : g.options.rootNamespace.IsJoined
  umbrella : g.options.umbrella.IsJoined
  types : ∀ d ∈ g.types, d.AsRead
  fields : ∀ f ∈ g.allFields, f.AsRead

theorem Text.lacksHigh_joinWords (opens : Bool) (t : Text) : (Text.joinWords opens t).LacksHigh := by
  fun_induction Text.joinWords opens t <;> simp_all

theorem Text.lacksHigh_camel (t : Text) : (Text.camel t).LacksHigh := by
  unfold Text.camel
  split
  · split_ifs
    · exact Text.lacksHigh_char_cons.mpr (Text.lacksHigh_joinWords false _)
    · exact Text.lacksHigh_joinWords false _
  · exact Text.lacksHigh_joinWords false _

theorem Schema.BuildsTo.asRead {s : Schema} {g : Graph} (h : s.BuildsTo g) (hs : s.AsRead) :
    g.AsRead := by
  refine ⟨h.options ▸ hs.rootNamespace, h.options ▸ hs.umbrella, h.types_eq ▸ hs.declared, ?_⟩
  intro f hf
  obtain ⟨m, hm, hfm⟩ := List.mem_flatMap.mp hf
  obtain ⟨p, hp, hpm⟩ := h.exists_site_of_mem hm
  obtain ⟨site, hsite, hresolve⟩ := exists_mem_of_forall₂ hpm.fields.flip hfm
  obtain ⟨k, t, v, -, -, rfl⟩ := FieldSite.resolve_eq_ok_iff.mp hresolve
  have hp := hs.messageSites p hp
  obtain ⟨i, hi, -⟩ := FieldSite.mem_ofFields.mp hsite
  have hdecl := hp.decl.fields _ (List.mem_of_getElem? hi)
  have howner : site.owner.fullName.IsJoined := by
    rw [MessageSite.owner_of_mem hsite]
    exact hp.fullName
  refine ⟨?_, ?_, hdecl.number, howner⟩
  · show (site.owner.fullName ++ "." ++ site.decl.name).IsJoined
    simp [howner, hdecl.name]
  · show (site.propertyName k t).IsJoined
    unfold FieldSite.propertyName
    extract_lets asked
    split_ifs
    · exact (Text.lacksHigh_joinWords _ _).isJoined
    · cases hasked : site.decl.propertyName with
      | none => simp [asked, hasked]
      | some t => simpa [asked, hasked] using hdecl.propertyName t hasked

/-! ## Class names -/

/-- What stands first in a name stands first behind the opening of classes, unless it is a dot. -/
theorem head?_nestTypes (name : Text) :
    ∀ r ∈ (nestTypes name).head?, r = .char '.' ∨ r ∈ name.head? := by
  cases name with
  | nil => exact fun r hr => absurd hr (Option.not_mem_none r)
  | cons r name =>
    rw [nestTypes, List.flatMap_cons]
    split_ifs with hdot
    · rintro _ ⟨⟩
      exact Or.inl rfl
    · rintro _ ⟨⟩
      exact Or.inr rfl

theorem isJoined_nestTypes {name : Text} (h : name.IsJoined) : (nestTypes name).IsJoined := by
  induction name with
  | nil => exact Text.isJoined_nil
  | cons r name ih =>
    rw [Text.IsJoined, List.isChain_cons] at h
    have hname := ih h.2
    rw [nestTypes, List.flatMap_cons]
    split_ifs with hdot
    · exact Text.isJoined_ofString_append.mpr hname
    · refine List.isChain_cons.mpr ⟨fun r' hr' hmeet => ?_, hname⟩
      rcases head?_nestTypes name r' hr' with rfl | hr'
      · exact Rune.not_isLow_char '.' hmeet.2
      · exact h.1 r' hr' hmeet

theorem isJoined_relativeName (package : Text) {name : Text} (h : name.IsJoined) :
    (relativeName package name).IsJoined := by
  unfold relativeName
  split_ifs
  · exact h
  · exact h.infix (List.drop_suffix _ name).isInfix

namespace Graph.AsRead

variable {g : Graph}

theorem isJoined_className (h : g.AsRead) {t : TypeName} (ht : t.fullName.IsJoined) :
    (g.className t).IsJoined := by
  have hname := isJoined_nestTypes (isJoined_relativeName g.package ht)
  have hnamespace := h.rootNamespace
  have humbrella := h.umbrella
  unfold Graph.className classNameOf FileOptions.classScope
  extract_lets outer inner
  have hinner : inner.IsJoined := by
    unfold inner
    split_ifs with hnested houter
    · simp [outer, hnamespace, humbrella]
    · simp [not_not.mp houter, humbrella]
    · exact hnamespace
  split_ifs with hempty
  · simp [hinner, hname]
  · simp [not_not.mp hempty, hname]

theorem of_mem_allEnums (h : g.AsRead) {e : EnumType} (he : e ∈ g.allEnums) :
    (Declared.enum e).AsRead :=
  h.types _ (Graph.enum_mem_types.mpr he)

theorem of_mem_allMessages (h : g.AsRead) {m : MessageType} (hm : m ∈ g.allMessages) :
    m.fullName.IsJoined :=
  h.types _ (Graph.message_mem_types.mpr ⟨m, hm, rfl⟩)

end Graph.AsRead

/-! ## Literals -/

namespace Suffixes

theorem mem_of_lookup? {tag : KindTag} {table : List (KindTag × Text)} {suffix : Text}
    (h : lookup? tag table = some suffix) : suffix ∈ table.map (·.2) := by
  induction table with
  | nil => cases h
  | cons entry table ih =>
    rw [lookup?] at h
    split_ifs at h
    · exact List.mem_cons.mpr (Or.inl (Option.some.inj h).symm)
    · exact List.mem_cons_of_mem _ (ih h)

theorem lacksHigh_standard_append {tag : KindTag} {text : List Char} {t : Text}
    (h : standard.append tag text = .ok t) : t.LacksHigh := by
  have hsuffixes : ∀ suffix ∈ standard.table.map (·.2), suffix.LacksHigh := by
    simp [standard]
  unfold Suffixes.append at h
  split at h
  · rename_i suffix hsuffix
    rw [← Except.ok.inj h, Text.lacksHigh_append]
    exact ⟨Text.lacksHigh_ofChars text, hsuffixes suffix (mem_of_lookup? hsuffix)⟩
  · cases h

theorem lacksHigh_standard_literal {tag : KindTag} {n : Number} {t : Text}
    (h : standard.literal tag n = .ok t) : t.LacksHigh := by
  have hfloating : ∀ {single x}, standard.floatingLiteral single x = .ok t → t.LacksHigh := by
    intro single x h
    unfold floatingLiteral at h
    extract_lets tag at h
    split at h
    · rw [← Except.ok.inj h]
      cases single <;> simp [floatingName]
    · rename_i negative _
      rw [← Except.ok.inj h]
      cases single <;> cases negative <;> simp [floatingName]
    · exact lacksHigh_standard_append h
  unfold literal at h
  split at h
  · obtain ⟨x, -, h⟩ := bind_eq_ok_iff.mp h
    exact hfloating h
  · obtain ⟨x, -, h⟩ := bind_eq_ok_iff.mp h
    exact hfloating h
  · obtain ⟨x, -, h⟩ := bind_eq_ok_iff.mp h
    exact lacksHigh_standard_append h

end Suffixes

theorem Text.lacksHigh_literal {t : Text} (h : Text.allPlain t = true) :
    (Text.literal t).LacksHigh := by
  have hplain : ∀ r ∈ t, ¬ r.IsHigh := by
    intro r hr
    have hr := List.all_eq_true.mp h r hr
    cases r with
    | char c => exact Rune.not_isHigh_char c
    | half n => cases hr
  have hrunes : Text.LacksHigh (t.flatMap Text.literalRune) := by
    intro r hr
    obtain ⟨r', hr', hr⟩ := List.mem_flatMap.mp hr
    unfold Text.literalRune at hr
    split_ifs at hr
    · rcases List.mem_cons.mp hr with rfl | hr
      · exact Rune.not_isHigh_char _
      · exact List.mem_singleton.mp hr ▸ hplain r' hr'
    · exact List.mem_singleton.mp hr ▸ hplain r' hr'
  rw [Text.literal, List.cons_append, Text.lacksHigh_char_cons, Text.lacksHigh_append]
  exact ⟨hrunes, by simp⟩

/-! ## Fragments -/

/-- A first half at the end of the qualifier meets a second one at the start of the null check. -/
def RuntimeNames.HalvesMeet (r : RuntimeNames) : Prop :=
  ∃ a ∈ r.qualifier.getLast?, ∃ b ∈ r.nullCheck.head?, a.IsHigh ∧ b.IsLow

/-- No halves meet in the texts on the sheet, the null check apart, and its numbers are short. -/
structure Sheet.AsRead (s : Sheet) : Prop where
  propertyName : s.propertyName.IsJoined
  name : ∀ {t}, s.name = .ok t → t.IsJoined
  number : Numeral.Fits s.number
  type : ∀ {t}, s.type = .ok t → t.IsJoined
  typeName : ∀ {t}, s.typeName = .ok t → t.IsJoined
  default : ∀ {t}, s.default = .ok t → t.IsJoined
  encodedSize : ∀ {size}, s.encodedSize = .ok size → Numeral.Fits (sizeCode size)
  compliance : ∀ {t}, s.compliance = .ok t → t.IsJoined

namespace Graph.AsRead

variable {g : Graph} {names : RuntimeNames} {f : Field} {k : Kind}

theorem isJoined_typeName (h : g.AsRead) (hnames : names.AsRead) (hf : f.WellTyped g k) {t : Text}
    (ht : f.typeName (g.settings { runtime := names }) = .ok t) : t.IsJoined := by
  have hmessage : k = .message ∨ k = .group → t.IsJoined := by
    intro hk
    obtain ⟨hkind, m, hm⟩ := hf.exists_messageType hk
    obtain ⟨m', hm', rfl⟩ := hf.message_mem m hm
    rw [Field.typeName_message hkind hm] at ht
    exact Except.ok.inj ht ▸ h.isJoined_className (h.of_mem_allMessages hm')
  cases k with
  | enum =>
    obtain ⟨e, he⟩ := Option.isSome_iff_exists.mp (hf.enumType.mpr rfl)
    rw [Field.typeName_enum hf.kind he] at ht
    exact Except.ok.inj ht ▸ h.isJoined_className (h.of_mem_allEnums (hf.enum_mem e he)).1
  | message => exact hmessage (Or.inl rfl)
  | group => exact hmessage (Or.inr rfl)
  | bytes =>
    rw [Field.typeName_bytes hf.kind] at ht
    exact Except.ok.inj ht ▸ Text.isJoined_append_ofString.mpr hnames.qualifier
  | _ =>
    rw [Field.typeName, Field.kind?_of_kind hf.kind] at ht
    exact Except.ok.inj ht ▸ Text.isJoined_ofString _

theorem isJoined_reference (h : g.AsRead) (hf : f.AsRead) {cast t : Text} (hcast : cast.IsJoined)
    (ht : f.reference (g.settings { runtime := names }) cast = .ok t) : t.IsJoined := by
  have hclass : (g.className f.container).IsJoined := h.isJoined_className hf.container
  obtain ⟨owner, howner, rfl⟩ := map_eq_ok_iff.mp ht
  cases howner
  have hindex : (Text.ofInt f.index ++ Text.ofString "].DefaultValue").IsJoined := by
    simp [Text.ofInt]
  simp [hcast, hclass, hindex]

theorem isJoined_numericDefault {t : Text}
    (ht : f.numericDefault (g.settings { runtime := names }) = .ok t) : t.IsJoined := by
  unfold Field.numericDefault at ht
  extract_lets literal at ht
  have hliteral : ∀ n, literal n = .ok t → t.IsJoined := by
    intro n hn
    unfold literal at hn
    split at hn
    · exact Except.ok.inj hn ▸ (Suffixes.lacksHigh_standard_literal ‹_›).isJoined
    · cases hn
  split at ht
  · exact hliteral _ ht
  · exact hliteral _ ht
  · cases ht

theorem isJoined_enumDefault (h : g.AsRead) (hnames : names.AsRead) (hk : f.WellTyped g .enum)
    {t : Text} (ht : f.enumDefault (g.settings { runtime := names }) = .ok t) : t.IsJoined := by
  obtain ⟨e, m, he, hm, hmem⟩ := hk.default
  rw [Field.enumDefault, hm] at ht
  obtain ⟨type, htype, rfl⟩ := map_eq_ok_iff.mp ht
  have hmember := (h.of_mem_allEnums (hk.enum_mem e he)).2 m hmem
  simp [h.isJoined_typeName hnames hk htype, hmember]

theorem isJoined_defaultText (h : g.AsRead) (hnames : names.AsRead) (hf : f.AsRead)
    (hk : f.WellTyped g k) {t : Text}
    (ht : f.defaultText (g.settings { runtime := names }) = .ok t) : t.IsJoined := by
  have htypeName : ∀ {type}, f.typeName (g.settings { runtime := names }) = .ok type →
      type.IsJoined := fun htype => h.isJoined_typeName hnames hk htype
  rw [Field.defaultText, Field.kind?_of_kind hk.kind] at ht
  dsimp only at ht
  split at ht
  · exact isJoined_numericDefault ht
  · unfold Field.boolDefault at ht
    split at ht
    · exact Except.ok.inj ht ▸ Text.isJoined_ofString _
    · exact Except.ok.inj ht ▸ Text.isJoined_ofString _
    · cases ht
  · unfold Field.textDefault at ht
    extract_lets text at ht
    split_ifs at ht with hplain
    · exact Except.ok.inj ht ▸ (Text.lacksHigh_literal hplain).isJoined
    · exact h.isJoined_reference hf (Text.isJoined_ofString _) ht
  · unfold Field.bytesDefault at ht
    split at ht
    · cases ht
    · split at ht
      · exact Except.ok.inj ht ▸ Text.isJoined_append_ofString.mpr (htypeName ‹_›)
      · exact h.isJoined_reference hf (htypeName ‹_›) ht
  · rename_i hfamily
    have henum : k = .enum := by
      cases k <;> first | rfl | cases hfamily
    subst henum
    exact h.isJoined_enumDefault hnames hk ht
  · obtain ⟨type, htype, rfl⟩ := map_eq_ok_iff.mp ht
    exact Text.isJoined_append_ofString.mpr (htypeName htype)

/-- **No halves meet in the fragments of a field**, its null check apart. -/
theorem sheet (h : g.AsRead) (hnames : names.AsRead) (hf : f ∈ g.allFields)
    (hk : f.WellTyped g k) : (f.sheet (g.settings { runtime := names })).AsRead where
  propertyName := (h.fields f hf).propertyName
  name := fun ht => Except.ok.inj ht ▸ (Text.lacksHigh_camel f.sourceName).isJoined
  number := (h.fields f hf).number
  type := by
    intro t ht
    have htag : f.tagText = .ok k.tag := by rw [Field.tagText, hk.kind]
    rw [← Except.ok.inj (htag.symm.trans ht)]
    cases k <;> exact Text.isJoined_ofString _
  typeName := h.isJoined_typeName hnames hk
  default := h.isJoined_defaultText hnames (h.fields f hf) hk
  encodedSize := by
    intro size hsize
    have hfixed : f.encodedSize = .ok k.fixedSize? := by
      rw [Field.encodedSize, Field.kind?_of_kind hk.kind]
      rfl
    rw [← Except.ok.inj (hfixed.symm.trans hsize), Numeral.fits_iff]
    refine lt_of_lt_of_le (b := 10) ?_ (Nat.le_self_pow (by decide) 10)
    cases k <;> decide
  compliance := by
    intro t ht
    have ht : f.complianceMark (g.settings { runtime := names }) = .ok t := ht
    unfold Field.complianceMark at ht
    split_ifs at ht
    · exact Except.ok.inj ht ▸ Text.isJoined_nil
    · obtain ⟨marks, -, rfl⟩ := map_eq_ok_iff.mp ht
      have hcompliance : names.compliance.IsJoined := hnames.compliance
      cases marks <;> simp [Graph.settings, hcompliance]

end Graph.AsRead

/-- **No halves meet in a null check** unless they do between the qualifier and the function. -/
theorem Field.isJoined_nullCheck {g : Graph} {names : RuntimeNames} (hnames : names.AsRead)
    (hmeet : ¬ names.HalvesMeet) {f : Field} {t : Text}
    (ht : f.nullCheck (g.settings { runtime := names }) = .ok t) : t.IsJoined := by
  have hqualified : (names.qualifier ++ names.nullCheck).IsJoined := by
    refine Text.isJoined_append_iff.mpr ⟨hnames.qualifier, hnames.nullCheck, ?_⟩
    exact fun a ha b hb hab => hmeet ⟨a, ha, b, hb, hab⟩
  obtain ⟨nullable, -, rfl⟩ := map_eq_ok_iff.mp ht
  cases nullable with
  | false => exact Text.isJoined_nil
  | true =>
    show (names.qualifier ++ names.nullCheck ++ Text.ofString "(" ++ Text.ofString "value" ++
      Text.ofString ", \"" ++ Text.ofString "value" ++ Text.ofString "\");").IsJoined
    generalize names.qualifier ++ names.nullCheck = function at hqualified
    simp [hqualified]

end FieldCode
