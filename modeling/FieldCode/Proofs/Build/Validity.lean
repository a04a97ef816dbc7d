import FieldCode.Proofs.Build.Outcome

/-!
# Which schemas build

`Schema.Valid` says what a schema has to be like, in terms of its declarations alone: the registry,
the scope list and the order of the checks do not occur in it.  What a reference means is said by
`Schema.RefersTo`, a relation on names and scopes, and `Registry.resolve_ofList_eq_some_iff` shows
that the search in the registry decides it.

A schema builds exactly if it is valid, and the error of one that does not build names something
that is wrong with it (`build_iff_valid`).  `Schema.Fault` lists what can be wrong, each with the
error that says so.  All but one of these errors are refusals; `Schema.StopsAtLongNumber` says when the
one that is not comes about.
-/

namespace FieldCode

/-! ## What a reference means -/

/-- The declaration is the first one named by a relative reference on the way out from a scope. -/
inductive Schema.Nearest (s : Schema) (reference : Text) : Text → Declared → Prop
  | here {scope : Text} {d : Declared} (hd : d ∈ s.declared)
      (hname : d.fullName = qualify scope reference) : Nearest s reference scope d
  | outside {scope : Text} {d : Declared} (hscope : scope ≠ [])
      (hnone : ∀ e ∈ s.declared, e.fullName ≠ qualify scope reference)
      (h : Nearest s reference (Scope.enclosing scope) d) : Nearest s reference scope d

/-- The declaration is what a reference used in a scope means: behind a leading dot the one with
that full name, and otherwise the nearest one. -/
inductive Schema.RefersTo (s : Schema) (scope : Text) : Text → Declared → Prop
  | absolute {name : Text} {d : Declared} (hd : d ∈ s.declared) (hname : d.fullName = name) :
      RefersTo s scope (.char '.' :: name) d
  | relative {reference : Text} {d : Declared} (hdot : reference.head? ≠ some (.char '.'))
      (h : s.Nearest reference scope d) : RefersTo s scope reference d

/-- The search through the scopes finds the nearest declaration. -/
theorem Registry.findSome?_outward_eq_some_iff {s : Schema}
    (hnodup : (s.declared.map Declared.fullName).Nodup) {reference scope : Text} {d : Declared} :
    ((Scope.outward scope).findSome? fun p =>
        (Registry.ofList s.declared).find? (qualify p reference)) =
      some d ↔ s.Nearest reference scope d := by
  fun_induction Scope.outward scope with
  | case1 =>
    rw [List.findSome?_cons]
    constructor
    · intro h
      cases hf : (Registry.ofList s.declared).find? (qualify [] reference) with
      | none => rw [hf] at h; cases h
      | some e =>
        rw [hf, Option.some.injEq] at h
        obtain ⟨hd, hname⟩ := mem_of_find?_ofList (h ▸ hf)
        exact .here hd hname
    · intro h
      cases h with
      | here hd hname => rw [(find?_ofList_eq_some_iff hnodup).mpr ⟨hd, hname⟩]
      | outside hscope => exact absurd rfl hscope
  | case2 scope hscope ih =>
    rw [List.findSome?_cons]
    cases hf : (Registry.ofList s.declared).find? (qualify scope reference) with
    | some e =>
      obtain ⟨he, hename⟩ := mem_of_find?_ofList hf
      simp only [Option.some.injEq]
      constructor
      · rintro rfl
        exact .here he hename
      · intro h
        cases h with
        | here hd hname => exact eq_of_fullName_eq hnodup he hd (hename.trans hname.symm)
        | outside _ hnone => exact absurd hename (hnone e he)
    | none =>
      have hnone := find?_ofList_eq_none_iff.mp hf
      simp only [ih]
      constructor
      · exact .outside hscope hnone
      · intro h
        cases h with
        | here hd hname => exact absurd hname (hnone d hd)
        | outside _ _ h => exact h

/-- In a registry of distinct names a reference leads to what it means. -/
theorem Registry.resolve_ofList_eq_some_iff {s : Schema}
    (hnodup : (s.declared.map Declared.fullName).Nodup) {reference scope : Text} {d : Declared} :
    (Registry.ofList s.declared).resolve reference scope = some d ↔
      s.RefersTo scope reference d := by
  unfold Registry.resolve
  split
  · rename_i name
    rw [find?_ofList_eq_some_iff hnodup]
    constructor
    · rintro ⟨hd, hname⟩
      exact .absolute hd hname
    · intro h
      cases h with
      | absolute hd hname => exact ⟨hd, hname⟩
      | relative hdot => exact absurd rfl hdot
  · rename_i hdot
    rw [Registry.findSome?_outward_eq_some_iff hnodup]
    constructor
    · intro h
      refine .relative ?_ h
      intro hhead
      obtain ⟨name, hname⟩ := List.head?_eq_some_iff.mp hhead
      exact hdot name hname
    · intro h
      cases h with
      | absolute => exact absurd rfl (hdot _)
      | relative _ h => exact h

/-! ## Valid schemas -/

/-- What a field of a kind refers to: an enum, a message, or nothing, as the kind asks for. -/
inductive FieldDecl.Refers (s : Schema) (scope : Text) (f : FieldDecl) :
    Kind → Option Declared → Prop
  | plain {k : Kind} (hk : k.isComposite = false) : Refers s scope f k none
  | enum {reference : Text} {e : EnumType} (hname : f.typeName = some reference)
      (hne : reference ≠ []) (h : s.RefersTo scope reference (.enum e)) :
      Refers s scope f .enum (some (.enum e))
  | message {k : Kind} {reference : Text} {m : TypeName} (hk : k = .message ∨ k = .group)
      (hname : f.typeName = some reference) (hne : reference ≠ [])
      (h : s.RefersTo scope reference (.message m)) : Refers s scope f k (some (.message m))

/-- A field in a scope is as a field of a kind has to be, its number being new aside. -/
structure FieldDecl.ValidAs (s : Schema) (scope : Text) (f : FieldDecl) (k : Kind)
    (t : Option Declared) : Prop where
  kind : Text.lower f.type = Text.lower k.tag
  positive : 0 < f.number
  target : f.Refers s scope k t
  default : ∀ text, f.default = some text → k ≠ .message ∧ k ≠ .group ∧
    ∃ v, k.readDefault text (FieldSite.enumOf t) = .ok v

/-- What a schema has to be like. -/
structure Schema.Valid (s : Schema) : Prop where
  distinct : (s.declared.map Declared.fullName).Nodup
  inhabited : (∀ e ∈ s.enums, e.values ≠ []) ∧
    ∀ p ∈ s.messageSites, ∀ e ∈ p.decl.enums, e.values ≠ []
  numbers : ∀ p ∈ s.messageSites, (p.decl.fields.map (·.number)).Nodup
  fields : ∀ p ∈ s.messageSites, ∀ f ∈ p.decl.fields, ∃ k t, f.ValidAs s p.fullName k t

/-- The types of a schema can be registered: their full names are distinct, and no enum is empty. -/
structure Schema.TypesValid (s : Schema) : Prop where
  distinct : (s.declared.map Declared.fullName).Nodup
  inhabited : (∀ e ∈ s.enums, e.values ≠ []) ∧
    ∀ p ∈ s.messageSites, ∀ e ∈ p.decl.enums, e.values ≠ []

/-- The field at a site is valid, and its number is new. -/
def FieldSite.Valid (s : Schema) (site : FieldSite) : Prop :=
  site.decl.number ∉ site.earlier ∧ ∃ k t, site.decl.ValidAs s site.owner.fullName k t

/-- What can be wrong with a field of a message, and the error that says so. -/
inductive FieldDecl.Fault (s : Schema) (p : MessageSite) (f : FieldDecl) : BuildError → Prop
  | unknownKind (h : ∀ k : Kind, Text.lower f.type ≠ Text.lower k.tag) :
      Fault s p f (.unknownKind (p.fullName ++ "." ++ f.name) f.type)
  | numberNotPositive (h : f.number ≤ 0) :
    Fault s p f (.numberNotPositive (p.fullName ++ "." ++ f.name))
  | numberReused {before after : List FieldDecl} (hat : p.decl.fields = before ++ f :: after)
      (h : f.number ∈ before.map (·.number)) (hfits : Numeral.Fits f.number) :
      Fault s p f (.numberReused (p.fullName ++ "." ++ f.name) f.number)
  | numberTooLong {before after : List FieldDecl} (hat : p.decl.fields = before ++ f :: after)
      (h : f.number ∈ before.map (·.number)) (hlong : ¬ Numeral.Fits f.number) :
      Fault s p f .numberTooLong
  | missingReference {k : Kind} (hkind : Text.lower f.type = Text.lower k.tag)
      (hk : k.isComposite = true) (h : f.typeName.getD [] = []) :
      Fault s p f (.missingReference (p.fullName ++ "." ++ f.name) k)
  | unresolved {k : Kind} {reference : Text} (hkind : Text.lower f.type = Text.lower k.tag)
      (hk : k.isComposite = true) (hname : f.typeName = some reference)
      (h : ∀ t, ¬ f.Refers s p.fullName k t) :
      Fault s p f (.unresolved (p.fullName ++ "." ++ f.name) reference k)
  | badDefault {k : Kind} {t : Option Declared} {text : Text} {fault : DefaultFault}
      (hkind : Text.lower f.type = Text.lower k.tag) (ht : f.Refers s p.fullName k t)
      (htext : f.default = some text) (h : k.readDefault text (FieldSite.enumOf t) = .error fault) :
      Fault s p f (.badDefault (p.fullName ++ "." ++ f.name) fault)

/-- The first field that is not valid repeats the number of an earlier field of its message, and the
number is too long to be written. -/
def Schema.StopsAtLongNumber (s : Schema) : Prop :=
  s.TypesValid ∧ ∃ before site after, s.sites = before ++ site :: after ∧
    (∀ x ∈ before, x.Valid s) ∧ (∃ k : Kind, Text.lower site.decl.type = Text.lower k.tag) ∧
      0 < site.decl.number ∧ site.decl.number ∈ site.earlier ∧ ¬ Numeral.Fits site.decl.number

/-- What can be wrong with a schema, and the error that says so. -/
inductive Schema.Fault (s : Schema) : BuildError → Prop
  | alreadyDefined {name : Text} (h : List.Duplicate name (s.declared.map Declared.fullName)) :
      Fault s (.alreadyDefined name)
  | emptyEnum {e : EnumType} (he : .enum e ∈ s.declared) (h : e.members = []) :
      Fault s (.emptyEnum e.fullName)
  | field {p : MessageSite} {f : FieldDecl} {e : BuildError} (hp : p ∈ s.messageSites)
      (hf : f ∈ p.decl.fields) (h : f.Fault s p e) : Fault s e

/-! ## Kinds by name -/

theorem Kind.ofName?_tag (k : Kind) : Kind.ofName? k.tag = some k := by
  cases k <;> decide +kernel

/-- A text names a kind exactly if it is the tag of the kind but for upper and lower case. -/
theorem Kind.ofName?_eq_some_iff {name : Text} {k : Kind} :
    Kind.ofName? name = some k ↔ Text.lower name = Text.lower k.tag := by
  constructor
  · intro h
    have hfound := List.find?_some (p := fun k : Kind => Text.lower k.tag == Text.lower name) h
    exact (eq_of_beq hfound).symm
  · intro h
    rw [← Kind.ofName?_tag k, Kind.ofName?, Kind.ofName?, h]

theorem Kind.ofName?_eq_none_iff {name : Text} :
    Kind.ofName? name = none ↔ ∀ k : Kind, Text.lower name ≠ Text.lower k.tag := by
  rw [Option.eq_none_iff_forall_ne_some]
  exact forall_congr' fun k => not_congr Kind.ofName?_eq_some_iff

/-! ## Sites of valid fields -/

/-- At a site of a message the target of the field is what its declaration refers to. -/
theorem FieldSite.target_iff_refers {s : Schema} (hnodup : (s.declared.map Declared.fullName).Nodup)
    {p : MessageSite} {site : FieldSite} (hsite : site ∈ p.fieldSites) {k : Kind}
    {t : Option Declared} :
    FieldSite.Target (.ofList s.declared) site k t ↔ site.decl.Refers s p.fullName k t := by
  have howner : site.owner.fullName = p.fullName :=
    congrArg TypeName.fullName (MessageSite.owner_of_mem hsite)
  constructor
  · intro h
    cases h with
    | plain hk => exact .plain hk
    | @composite d hk href hd hsuits =>
      rw [Registry.resolve_ofList_eq_some_iff hnodup, howner] at hd
      cases hname : site.decl.typeName with
      | none => rw [hname] at href; exact absurd rfl href
      | some reference =>
        rw [hname, Option.getD_some] at href hd
        cases d with
        | enum e =>
          have hke : k = .enum := by simpa [Declared.suits] using hsuits
          rw [hke]
          exact .enum hname href hd
        | message m =>
          refine .message ?_ hname href hd
          cases k <;> simp_all [Declared.suits, Kind.isComposite]
  · intro h
    cases h with
    | plain hk => exact .plain hk
    | enum hname hne h =>
      refine .composite rfl ?_ ?_ rfl
      · rwa [hname, Option.getD_some]
      · rwa [hname, Option.getD_some, Registry.resolve_ofList_eq_some_iff hnodup, howner]
    | message hk hname hne h =>
      refine .composite ?_ ?_ ?_ ?_
      · rcases hk with rfl | rfl <;> rfl
      · rwa [hname, Option.getD_some]
      · rwa [hname, Option.getD_some, Registry.resolve_ofList_eq_some_iff hnodup, howner]
      · rcases hk with rfl | rfl <;> rfl

/-- A default is accepted at a site exactly if its text, where there is one, is accepted for the
kind. -/
theorem FieldSite.exists_defaultValue_iff {s : FieldSite} {k : Kind} {t : Option Declared} :
    (∃ v, s.defaultValue k t = .ok v) ↔ ∀ text, s.decl.default = some text →
      k ≠ .message ∧ k ≠ .group ∧ ∃ v, k.readDefault text (FieldSite.enumOf t) = .ok v := by
  constructor
  · rintro ⟨v, hv⟩ text htext
    rcases FieldSite.defaultValue_eq_ok_iff.mp hv with ⟨hnone, -⟩ | ⟨text', htext', hread⟩
    · rw [hnone] at htext
      cases htext
    · rw [htext, Option.some.injEq] at htext'
      rw [← htext'] at hread
      refine ⟨?_, ?_, v, hread⟩
      · rintro rfl
        cases hread
      · rintro rfl
        cases hread
  · intro h
    cases htext : s.decl.default with
    | none => exact ⟨_, FieldSite.defaultValue_eq_ok_iff.mpr (Or.inl ⟨htext, rfl⟩)⟩
    | some text =>
      obtain ⟨-, -, v, hv⟩ := h text htext
      exact ⟨v, FieldSite.defaultValue_eq_ok_iff.mpr (Or.inr ⟨text, htext, hv⟩)⟩

/-- A site resolves exactly if its number is new and its declaration is valid. -/
theorem FieldSite.exists_resolve_iff {s : Schema}
    (hnodup : (s.declared.map Declared.fullName).Nodup)
    {p : MessageSite} {site : FieldSite} (hsite : site ∈ p.fieldSites) :
    (∃ f, site.resolve (.ofList s.declared) = .ok f) ↔
      site.decl.number ∉ site.earlier ∧ ∃ k t, site.decl.ValidAs s p.fullName k t := by
  constructor
  · rintro ⟨f, hf⟩
    obtain ⟨k, t, v, href, hv, -⟩ := FieldSite.resolve_eq_ok_iff.mp hf
    obtain ⟨hk, hpos, hnew, ht⟩ := FieldSite.refer_eq_ok_iff.mp href
    exact ⟨hnew, k, t, Kind.ofName?_eq_some_iff.mp hk, hpos,
      (FieldSite.target_iff_refers hnodup hsite).mp ht,
      FieldSite.exists_defaultValue_iff.mp ⟨v, hv⟩⟩
  · rintro ⟨hnew, k, t, hk, hpos, ht, hdefault⟩
    obtain ⟨v, hv⟩ := FieldSite.exists_defaultValue_iff.mpr hdefault
    have href := FieldSite.refer_eq_ok_iff.mpr ⟨Kind.ofName?_eq_some_iff.mpr hk, hpos, hnew,
      (FieldSite.target_iff_refers hnodup hsite).mpr ht⟩
    exact ⟨_, FieldSite.resolve_eq_ok_iff.mpr ⟨k, t, v, href, hv, rfl⟩⟩

/-! ## Faults of sites -/

theorem FieldSite.fault_of_refer_eq_error {s : Schema}
    (hnodup : (s.declared.map Declared.fullName).Nodup) {p : MessageSite} {site : FieldSite}
    (hsite : site ∈ p.fieldSites) {e : BuildError}
    (h : site.refer (.ofList s.declared) = .error e) :
    site.decl.Fault s p e := by
  obtain ⟨i, hdecl, hplace⟩ := FieldSite.mem_ofFields.mp hsite
  have hname : site.fullName = p.fullName ++ "." ++ site.decl.name := by
    rw [hplace]
    rfl
  have hsplit : p.decl.fields =
      p.decl.fields.take i ++ site.decl :: p.decl.fields.drop (i + 1) := by
    obtain ⟨hi, hat⟩ := List.getElem?_eq_some_iff.mp hdecl
    rw [← hat, ← List.drop_eq_getElem_cons hi, List.take_append_drop]
  cases FieldSite.refer_eq_error_iff.mp h with
  | unknownKind hk =>
    rw [hname]
    exact .unknownKind (Kind.ofName?_eq_none_iff.mp hk)
  | numberNotPositive hk hpos =>
    rw [hname]
    exact .numberNotPositive hpos
  | numberReused hk hpos hold hfits =>
    rw [hname]
    rw [hplace] at hold
    exact .numberReused hsplit hold hfits
  | numberTooLong hk hpos hold hlong =>
    rw [hplace] at hold
    exact .numberTooLong hsplit hold hlong
  | missingReference hk hpos hnew hc href =>
    rw [hname]
    exact .missingReference (Kind.ofName?_eq_some_iff.mp hk) hc href
  | unresolved hk hpos hnew hc href hnone =>
    cases hreference : site.decl.typeName with
    | none => rw [hreference] at href; exact absurd rfl href
    | some reference =>
      rw [hname, Option.getD_some]
      refine .unresolved (Kind.ofName?_eq_some_iff.mp hk) hc hreference fun t ht => ?_
      -- a target would be a type of the right sort
      cases (FieldSite.target_iff_refers hnodup hsite).mpr ht with
      | plain hc' => rw [hc] at hc'; cases hc'
      | composite hc' href' hd hsuits => rw [hnone _ hd] at hsuits; cases hsuits

/-- What is said of a site that does not resolve is wrong with its declaration. -/
theorem FieldSite.fault_of_resolve_eq_error {s : Schema}
    (hnodup : (s.declared.map Declared.fullName).Nodup) {p : MessageSite} {site : FieldSite}
    (hsite : site ∈ p.fieldSites) {e : BuildError}
    (h : site.resolve (.ofList s.declared) = .error e) :
    site.decl.Fault s p e := by
  have hname : site.fullName = p.fullName ++ "." ++ site.decl.name := by
    rw [FieldSite.fullName, MessageSite.owner_of_mem hsite]
    rfl
  rcases FieldSite.resolve_eq_error_iff.mp h with href | ⟨k, t, href, hdefault⟩
  · exact FieldSite.fault_of_refer_eq_error hnodup hsite href
  · obtain ⟨hk, -, -, ht⟩ := FieldSite.refer_eq_ok_iff.mp href
    obtain ⟨text, fault, htext, hread, rfl⟩ := FieldSite.defaultValue_eq_error_iff.mp hdefault
    rw [hname]
    exact .badDefault (Kind.ofName?_eq_some_iff.mp hk)
      ((FieldSite.target_iff_refers hnodup hsite).mp ht) htext hread

/-! ## The whole schema -/

theorem EnumDecl.isEmptyEnum_toType (scope : Text) (d : EnumDecl) :
    (Declared.enum (d.toType scope)).isEmptyEnum = false ↔ d.values ≠ [] := by
  cases hv : d.values <;> simp [Declared.isEmptyEnum, EnumDecl.toType, hv]

theorem Schema.forall_isEmptyEnum_iff (s : Schema) :
    (∀ d ∈ s.declared, d.isEmptyEnum = false) ↔
      (∀ e ∈ s.enums, e.values ≠ []) ∧ ∀ p ∈ s.messageSites, ∀ e ∈ p.decl.enums, e.values ≠ [] := by
  rw [Schema.declared_eq, List.forall_mem_append, List.forall_mem_map]
  refine and_congr (forall₂_congr fun e _ => EnumDecl.isEmptyEnum_toType _ e) ?_
  constructor
  · intro h p hp e he
    refine (EnumDecl.isEmptyEnum_toType p.fullName e).mp (h _ (List.mem_flatMap.mpr ⟨p, hp, ?_⟩))
    exact List.mem_cons_of_mem _ (List.mem_map_of_mem he)
  · intro h d hd
    obtain ⟨p, hp, hd⟩ := List.mem_flatMap.mp hd
    rcases List.mem_cons.mp hd with rfl | hd
    · rfl
    · obtain ⟨e, he, rfl⟩ := List.mem_map.mp hd
      exact (EnumDecl.isEmptyEnum_toType p.fullName e).mpr (h p hp e he)

theorem Schema.typesValid_iff (s : Schema) : s.TypesValid ↔ register [] s.declared = .ok () := by
  rw [register_eq_ok_iff, s.forall_isEmptyEnum_iff]
  constructor
  · intro h
    exact ⟨h.distinct, fun d _ => List.not_mem_nil, h.inhabited⟩
  · rintro ⟨hnodup, -, hfull⟩
    exact ⟨hnodup, hfull⟩

/-- A schema builds exactly if its types can be registered and each of its field sites resolves. -/
theorem Schema.exists_build_iff (s : Schema) : (∃ g, s.build.result = .ok g) ↔
    register [] s.declared = .ok () ∧
      ∀ p ∈ s.messageSites, ∀ site ∈ p.fieldSites,
        ∃ f, FieldSite.resolve (.ofList s.declared) site = .ok f := by
  constructor
  · rintro ⟨g, h⟩
    refine ⟨(Schema.build_eq_ok_iff.mp h).1, fun p hp site hsite => ?_⟩
    obtain ⟨m, -, hm⟩ := exists_mem_of_forall₂ (Schema.buildsTo_of_build h).messages hp
    obtain ⟨f, -, hf⟩ := exists_mem_of_forall₂ hm.fields hsite
    exact ⟨f, hf⟩
  · rintro ⟨hreg, hall⟩
    cases h : s.build.result with
    | ok g => exact ⟨g, rfl⟩
    | error e =>
      rcases Schema.build_eq_error h with herr | ⟨-, p, hp, site, hsite, herr⟩
      · rw [hreg] at herr
        cases herr
      · obtain ⟨f, hf⟩ := hall p hp site hsite
        rw [hf] at herr
        cases herr

/-- Each field site of a message has a new number exactly if the numbers are distinct. -/
theorem MessageSite.forall_notMem_earlier_iff (p : MessageSite) :
    (∀ site ∈ p.fieldSites, site.decl.number ∉ site.earlier) ↔
      (p.decl.fields.map (·.number)).Nodup := by
  rw [nodup_map_iff_forall_notMem_take]
  constructor
  · intro h i d hd
    refine h ⟨p.names, i, (p.decl.fields.take i).map (·.number), d⟩ ?_
    exact FieldSite.mem_ofFields.mpr ⟨i, hd, rfl⟩
  · intro h site hsite
    obtain ⟨i, hd, hplace⟩ := FieldSite.mem_ofFields.mp hsite
    have hnew := h i site.decl hd
    rw [hplace]
    exact hnew

/-- A schema is valid exactly if its types can be registered and all its field sites resolve. -/
theorem Schema.valid_iff (s : Schema) : s.Valid ↔ register [] s.declared = .ok () ∧
    ∀ p ∈ s.messageSites, ∀ site ∈ p.fieldSites,
      ∃ f, FieldSite.resolve (.ofList s.declared) site = .ok f := by
  rw [← s.typesValid_iff]
  constructor
  · rintro ⟨hnodup, hfull, hnumbers, hfields⟩
    refine ⟨⟨hnodup, hfull⟩, fun p hp site hsite => ?_⟩
    obtain ⟨i, hd, -⟩ := FieldSite.mem_ofFields.mp hsite
    exact (FieldSite.exists_resolve_iff hnodup hsite).mpr
      ⟨p.forall_notMem_earlier_iff.mpr (hnumbers p hp) site hsite,
        hfields p hp site.decl (List.mem_of_getElem? hd)⟩
  · rintro ⟨⟨hnodup, hfull⟩, hall⟩
    have hsites := fun p hp site hsite =>
      (FieldSite.exists_resolve_iff hnodup hsite).mp (hall p hp site hsite)
    refine ⟨hnodup, hfull, fun p hp => ?_, fun p hp f hf => ?_⟩
    · exact p.forall_notMem_earlier_iff.mp fun site hsite => (hsites p hp site hsite).1
    · obtain ⟨i, hi⟩ := List.mem_iff_getElem?.mp hf
      exact (hsites p hp ⟨p.names, i, (p.decl.fields.take i).map (·.number), f⟩
        (FieldSite.mem_ofFields.mpr ⟨i, hi, rfl⟩)).2

theorem Schema.exists_build_iff_valid (s : Schema) : (∃ g, s.build.result = .ok g) ↔ s.Valid :=
  s.exists_build_iff.trans s.valid_iff.symm

/-- The error of a schema that does not build says what is wrong with it. -/
theorem Schema.fault_of_build_eq_error {s : Schema} {e : BuildError}
    (h : s.build.result = .error e) : s.Fault e := by
  rcases Schema.build_eq_error h with herr | ⟨hreg, p, hp, site, hsite, herr⟩
  · rcases register_eq_error herr with ⟨n, rfl, ⟨hnil, -⟩ | hdup⟩ | ⟨d, hd, hempty, rfl⟩
    · exact absurd hnil List.not_mem_nil
    · exact .alreadyDefined hdup
    · cases d with
      | message m => cases hempty
      | enum t => exact .emptyEnum hd (List.isEmpty_iff.mp hempty)
  · have hnodup := ((register_eq_ok_iff [] s.declared).mp hreg).1
    obtain ⟨i, hd, -⟩ := FieldSite.mem_ofFields.mp hsite
    exact .field hp (List.mem_of_getElem? hd)
      (FieldSite.fault_of_resolve_eq_error hnodup hsite herr)

theorem Schema.TypesValid.exists_resolve_iff {s : Schema} {site : FieldSite} (h : s.TypesValid)
    (hsite : site ∈ s.sites) :
    (∃ f, site.resolve (.ofList s.declared) = .ok f) ↔ site.Valid s := by
  obtain ⟨p, -, hp⟩ := Schema.mem_sites_iff.mp hsite
  rw [FieldSite.exists_resolve_iff h.distinct hp, FieldSite.Valid, MessageSite.owner_of_mem hp]
  rfl

/-! ## Failures that are no refusals -/

/-- A site fails without being refused exactly if its number is an earlier one and is too long. -/
theorem FieldSite.resolve_eq_numberTooLong_iff {r : Registry} {s : FieldSite} :
    s.resolve r = .error .numberTooLong ↔
      (∃ k : Kind, Text.lower s.decl.type = Text.lower k.tag) ∧ 0 < s.decl.number ∧
        s.decl.number ∈ s.earlier ∧ ¬ Numeral.Fits s.decl.number := by
  rw [FieldSite.resolve_eq_error_iff]
  constructor
  · rintro (href | ⟨k, t, -, hdefault⟩)
    · cases FieldSite.refer_eq_error_iff.mp href with
      | numberTooLong hk hpos hold hlong =>
        exact ⟨⟨_, Kind.ofName?_eq_some_iff.mp hk⟩, hpos, hold, hlong⟩
    · obtain ⟨_, _, -, -, he⟩ := FieldSite.defaultValue_eq_error_iff.mp hdefault
      cases he
  · rintro ⟨⟨k, hk⟩, hpos, hold, hlong⟩
    exact Or.inl (FieldSite.refer_eq_error_iff.mpr
      (.numberTooLong (Kind.ofName?_eq_some_iff.mpr hk) hpos hold hlong))

/-- The build fails without a refusal exactly if it stops at a number that is too long. -/
theorem Schema.build_eq_numberTooLong_iff (s : Schema) :
    s.build.result = .error .numberTooLong ↔ s.StopsAtLongNumber := by
  rw [Schema.build_eq_error_iff, ← s.typesValid_iff]
  constructor
  · rintro (herr | ⟨htypes, herr⟩)
    · rcases register_eq_error herr with ⟨_, he, -⟩ | ⟨_, -, -, he⟩
      · cases he
      · cases he
    · obtain ⟨before, site, after, hat, hbefore, herr⟩ :=
        FieldSite.resolveAll_eq_error_iff.mp herr
      refine ⟨htypes, before, site, after, hat, fun x hx => ?_,
        FieldSite.resolve_eq_numberTooLong_iff.mp herr⟩
      exact (htypes.exists_resolve_iff (hat ▸ List.mem_append_left _ hx)).mp (hbefore x hx)
  · rintro ⟨htypes, before, site, after, hat, hbefore, hsite⟩
    refine Or.inr ⟨htypes, FieldSite.resolveAll_eq_error_iff.mpr ⟨before, site, after, hat,
      fun x hx => ?_, FieldSite.resolve_eq_numberTooLong_iff.mpr hsite⟩⟩
    exact (htypes.exists_resolve_iff (hat ▸ List.mem_append_left _ hx)).mpr (hbefore x hx)

theorem BuildError.isRefusal_eq_false_iff {e : BuildError} :
    e.isRefusal = false ↔ e = .numberTooLong := by
  cases e <;> simp [BuildError.isRefusal]

/-- **A schema builds exactly if it is valid.**  For one that is not valid the error says what is wrong
with it.  It is a refusal, unless the first field that is not valid repeats a number that is too long
to be written. -/
theorem build_iff_valid (s : Schema) :
    ((∃ g, s.build.result = .ok g) ↔ s.Valid) ∧
      (s.Valid ∨ ∃ e, s.build.result = .error e ∧ s.Fault e ∧
        (e.isRefusal = false ↔ s.StopsAtLongNumber)) := by
  refine ⟨s.exists_build_iff_valid, ?_⟩
  cases h : s.build.result with
  | ok g => exact Or.inl (s.exists_build_iff_valid.mp ⟨g, h⟩)
  | error e =>
    refine Or.inr ⟨e, rfl, Schema.fault_of_build_eq_error h, ?_⟩
    rw [BuildError.isRefusal_eq_false_iff, ← s.build_eq_numberTooLong_iff, h, Except.error.injEq]

/-- A message with two fields of one number, which has one digit too many to be written. -/
def Schema.longNumbers : Schema where
  messages :=
    [{ name := "M"
       fields :=
         [{ name := "a", number := Nat.pow 10 4300, type := "int32" },
          { name := "b", number := Nat.pow 10 4300, type := "int32" }] }]

/-- The number that is used twice is not valid, and yet the schema is not refused for it. -/
theorem longNumbers_not_refused :
    ¬ Schema.longNumbers.Valid ∧ Schema.longNumbers.build.result = .error .numberTooLong ∧
      BuildError.numberTooLong.isRefusal = false := by
  have hbuild : Schema.longNumbers.build.result = .error .numberTooLong := by
    rw [Schema.build_eq_error_iff]
    exact Or.inr ⟨by decide +kernel, by decide +kernel⟩
  refine ⟨fun hvalid => ?_, hbuild, rfl⟩
  obtain ⟨g, hg⟩ := Schema.longNumbers.exists_build_iff_valid.mpr hvalid
  rw [hbuild] at hg
  cases hg

end FieldCode
