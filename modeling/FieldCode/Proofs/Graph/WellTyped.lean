import FieldCode.Fragment
import FieldCode.Proofs.Build.Outcome
import FieldCode.Proofs.Number.Default
import FieldCode.Proofs.Number.Literal

/-!
# Fields of a built graph are well typed

A `Field` is loose: its kind, its default and its types need not go together.  `Field.WellTyped`
says when they do, kind by kind, and the two halves of the module say what that is for.

* `Schema.BuildsTo.wellTyped`: a build makes no other fields.
* `Field.WellTyped.sheet_complete`: every fragment of such a field can be written, whatever the
  suffixes, the names of the runtime library and the way classes are named.

Both are put together in `fields_wellTyped_and_renderable`.
-/

namespace FieldCode

/-! ## Well-typed fields -/

/-- The integers that a kind can hold: those of two's complement or of an unsigned number, in 32 or
64 bits. -/
def Kind.Represents (n : Int) : Kind → Prop
  | .int32 | .sint32 | .sfixed32 => -2 ^ 31 ≤ n ∧ n < 2 ^ 31
  | .int64 | .sint64 | .sfixed64 => -2 ^ 63 ≤ n ∧ n < 2 ^ 63
  | .uint32 | .fixed32 => 0 ≤ n ∧ n < 2 ^ 32
  | .uint64 | .fixed64 => 0 ≤ n ∧ n < 2 ^ 64
  | _ => False

/-- The default of a field goes with a kind. -/
def Field.HoldsDefaultOf (f : Field) : Kind → Prop
  | .float | .double => ∃ x, f.default = .double x
  | .bool => ∃ b, f.default = .bool b
  | .string => f.default = .text (f.rawDefault.getD [])
  | .bytes => ∃ bs, f.default = .bytes bs
  | .enum => ∃ e m, f.enumType = some e ∧ f.default = .member m ∧ m ∈ e.members
  | .message | .group => f.default = .none ∧ f.rawDefault = none
  | k => ∃ n, f.default = .int n ∧ k.Represents n

/-- The kind, the default and the types of a field go together, and the types are types of the
graph. -/
structure Field.WellTyped (g : Graph) (f : Field) (k : Kind) : Prop where
  kind : f.kind = .known k
  default : f.HoldsDefaultOf k
  enumType : f.enumType.isSome = true ↔ k = .enum
  messageType : f.messageType.isSome = true ↔ k = .message ∨ k = .group
  enum_mem : ∀ e, f.enumType = some e → e ∈ g.allEnums
  message_mem : ∀ t, f.messageType = some t → ∃ m ∈ g.allMessages, m.toTypeName = t

/-- Every fragment on a sheet could be written. -/
structure Sheet.Complete (s : Sheet) : Prop where
  name : ∃ text, s.name = .ok text
  type : ∃ text, s.type = .ok text
  typeName : ∃ text, s.typeName = .ok text
  default : ∃ text, s.default = .ok text
  encodedSize : ∃ size, s.encodedSize = .ok size
  nullable : ∃ b, s.nullable = .ok b
  nullCheck : ∃ text, s.nullCheck = .ok text
  compliance : ∃ text, s.compliance = .ok text

/-! ## A build makes well-typed fields -/

theorem Kind.represents_of_inRange {k : Kind} (hk : k.isNumeric = true) (hf : k.isFloating = false)
    {n : Int} (h : k.inRange n = true) : k.Represents n := by
  cases k <;> first
    | exact absurd hk (by decide)
    | exact absurd hf (by decide)
    | (simp only [Kind.inRange, Kind.integerRange?, Bool.and_eq_true, decide_eq_true_eq] at h
       simp only [Kind.Represents]
       omega)

namespace FieldSite

variable {r : Registry} {s : FieldSite} {k : Kind} {t : Option Declared} {v : Value}

theorem enumOf_eq_some_iff {e : EnumType} : enumOf t = some e ↔ t = some (.enum e) := by
  rcases t with _ | (_ | _) <;> simp [enumOf]

theorem messageOf_eq_some_iff {n : TypeName} : messageOf t = some n ↔ t = some (.message n) := by
  rcases t with _ | (_ | _) <;> simp [messageOf]

theorem Target.exists_enum (h : Target r s .enum t) :
    ∃ e, t = some (.enum e) ∧
      r.resolve (s.decl.typeName.getD []) s.owner.fullName = some (.enum e) := by
  cases h with
  | plain hc => cases hc
  | @composite d hc href hd hs =>
    cases d with
    | enum e => exact ⟨e, rfl, hd⟩
    | message m => cases hs

theorem Target.isSome_enumOf_iff (h : Target r s k t) : (enumOf t).isSome = true ↔ k = .enum := by
  constructor
  · intro hsome
    obtain ⟨e, he⟩ := Option.isSome_iff_exists.mp hsome
    rw [enumOf_eq_some_iff] at he
    subst he
    cases h with
    | composite hc href hd hs => exact eq_of_beq hs
  · rintro rfl
    obtain ⟨e, rfl, -⟩ := h.exists_enum
    rfl

theorem Target.isSome_messageOf_iff (h : Target r s k t) :
    (messageOf t).isSome = true ↔ k = .message ∨ k = .group := by
  cases h with
  | plain hc =>
    refine ⟨fun h => (nomatch h), ?_⟩
    rintro (rfl | rfl) <;> cases hc
  | @composite d hc href hd hs =>
    cases d with
    | enum e =>
      obtain rfl := eq_of_beq hs
      exact ⟨fun h => (nomatch h), fun h => h.elim (nomatch ·) (nomatch ·)⟩
    | message m =>
      refine ⟨fun _ => ?_, fun _ => rfl⟩
      cases k <;> simp_all [Declared.suits, Kind.isComposite]

/-! The default of a field, explicit or implied, for each sort of kinds. -/

theorem exists_double_of_defaultValue (hv : s.defaultValue k t = .ok v) (hf : k.isFloating = true) :
    ∃ x, v = .double x := by
  have hk := Kind.isNumeric_of_isFloating hf
  have hfam : k.family = .numeric := by simpa [Kind.isNumeric] using hk
  rcases defaultValue_eq_ok_iff.mp hv with ⟨-, hv⟩ | ⟨text, -, hv⟩
  · exact ⟨_, by rw [hv, Kind.impliedDefault, hfam, hf]; rfl⟩
  · rw [Kind.readDefault_numeric hk] at hv
    obtain ⟨x, -, hx⟩ := Kind.readNumber_floating hf hv
    exact ⟨x, hx⟩

theorem exists_int_of_defaultValue (hv : s.defaultValue k t = .ok v) (hk : k.isNumeric = true)
    (hf : k.isFloating = false) : ∃ n, v = .int n ∧ k.Represents n := by
  have hfam : k.family = .numeric := by simpa [Kind.isNumeric] using hk
  rcases defaultValue_eq_ok_iff.mp hv with ⟨-, hv⟩ | ⟨text, -, hv⟩
  · refine ⟨0, by rw [hv, Kind.impliedDefault, hfam, hf]; rfl, ?_⟩
    exact Kind.represents_of_inRange hk hf (by cases k <;> rfl)
  · rw [Kind.readDefault_numeric hk] at hv
    obtain ⟨n, hn, hrange⟩ := Kind.readNumber_integer hf hv
    exact ⟨n, hn, Kind.represents_of_inRange hk hf hrange⟩

theorem eq_none_of_defaultValue (hv : s.defaultValue k t = .ok v) (hk : k = .message ∨ k = .group) :
    v = .none ∧ s.decl.default = none := by
  rcases defaultValue_eq_ok_iff.mp hv with ⟨hnone, hv⟩ | ⟨text, -, hv⟩
  · exact ⟨by rcases hk with rfl | rfl <;> exact hv, hnone⟩
  · rcases hk with rfl | rfl <;> cases hv

/-- An enum field has a value of its enum: the one that is named, or the first. -/
theorem exists_member_of_defaultValue {e : EnumType}
    (hv : s.defaultValue .enum (some (.enum e)) = .ok v) (hfull : e.members ≠ []) :
    ∃ m ∈ e.members, v = .member m := by
  rcases defaultValue_eq_ok_iff.mp hv with ⟨-, hv⟩ | ⟨text, -, hv⟩
  · obtain ⟨m, rest, hm⟩ := List.exists_cons_of_ne_nil hfull
    refine ⟨m, by rw [hm]; exact List.mem_cons_self .., ?_⟩
    rw [hv, enumOf, Kind.impliedDefault]
    simp [Kind.family, hm]
  · unfold Kind.readDefault at hv
    dsimp only [Kind.family, enumOf] at hv
    cases hm : e.find? text with
    | none => simp [hm] at hv
    | some m =>
      rw [hm] at hv
      exact ⟨m, List.mem_of_find?_eq_some hm, (Except.ok.inj hv).symm⟩

theorem holdsDefaultOf (ht : Target r s k t) (hv : s.defaultValue k t = .ok v)
    (hfull : ∀ e, t = some (.enum e) → e.members ≠ []) : (s.field k t v).HoldsDefaultOf k := by
  cases k with
  | float => exact exists_double_of_defaultValue hv rfl
  | double => exact exists_double_of_defaultValue hv rfl
  | bool =>
    rcases defaultValue_eq_ok_iff.mp hv with ⟨-, hv⟩ | ⟨text, -, hv⟩
    · exact ⟨false, hv⟩
    · unfold Kind.readDefault at hv
      dsimp only [Kind.family] at hv
      split_ifs at hv
      · exact ⟨true, (Except.ok.inj hv).symm⟩
      · exact ⟨false, (Except.ok.inj hv).symm⟩
  | string =>
    rcases defaultValue_eq_ok_iff.mp hv with ⟨hd, hv⟩ | ⟨text, hd, hv⟩
    · show v = .text (s.decl.default.getD [])
      rw [hd, hv]
      rfl
    · show v = .text (s.decl.default.getD [])
      rw [hd, ← Except.ok.inj hv]
      rfl
  | bytes =>
    rcases defaultValue_eq_ok_iff.mp hv with ⟨-, hv⟩ | ⟨text, -, hv⟩
    · exact ⟨[], hv⟩
    · unfold Kind.readDefault at hv
      dsimp only [Kind.family] at hv
      split at hv
      · exact ⟨_, (Except.ok.inj hv).symm⟩
      · cases hv
  | enum =>
    obtain ⟨e, rfl, -⟩ := ht.exists_enum
    obtain ⟨m, hmem, hm⟩ := exists_member_of_defaultValue hv (hfull e rfl)
    exact ⟨e, m, rfl, hm, hmem⟩
  | message => exact eq_none_of_defaultValue hv (Or.inl rfl)
  | group => exact eq_none_of_defaultValue hv (Or.inr rfl)
  | _ => exact exists_int_of_defaultValue hv rfl rfl

end FieldSite

/-- Every field of a built graph is well typed. -/
theorem Schema.BuildsTo.wellTyped {s : Schema} {g : Graph} (h : s.BuildsTo g) {f : Field}
    (hf : f ∈ g.allFields) : ∃ k, f.WellTyped g k := by
  obtain ⟨m, -, site, -, hsite, -, -⟩ := h.exists_fieldSite_of_mem hf
  obtain ⟨k, t, v, href, hv, rfl⟩ := FieldSite.resolve_eq_ok_iff.mp hsite
  obtain ⟨-, -, -, ht⟩ := FieldSite.refer_eq_ok_iff.mp href
  have hmem : ∀ d, t = some d → d ∈ g.types := by
    intro d hd
    rw [hd] at ht
    cases ht with
    | composite hc hr hd' hs =>
      rw [h.types_eq]
      exact Registry.mem_of_resolve_ofList hd'
  have hfull : ∀ e, t = some (.enum e) → e.members ≠ [] := by
    intro e he hnil
    have hempty := h.inhabited (.enum e) (h.types_eq ▸ hmem _ he)
    simp [Declared.isEmptyEnum, hnil] at hempty
  refine ⟨k, rfl, FieldSite.holdsDefaultOf ht hv hfull, ht.isSome_enumOf_iff,
    ht.isSome_messageOf_iff, ?_, ?_⟩
  · intro e he
    exact Graph.enum_mem_types.mp (hmem _ (FieldSite.enumOf_eq_some_iff.mp he))
  · intro n hn
    exact Graph.message_mem_types.mp (hmem _ (FieldSite.messageOf_eq_some_iff.mp hn))

/-! ## The fragments of a well-typed field -/

namespace Field

variable {g : Graph} {f : Field} {k : Kind} {style : Style}

theorem kind?_of_kind (h : f.kind = .known k) : f.kind? = .ok k := by
  rw [kind?, h, KindTag.kind]

theorem typeName_string (h : f.kind = .known .string) (s : Settings) :
    f.typeName s = .ok "string" := by
  rw [typeName, kind?_of_kind h]
  rfl

theorem typeName_bytes (h : f.kind = .known .bytes) (s : Settings) :
    f.typeName s = .ok (s.runtime.qualified "ByteString") := by
  rw [typeName, kind?_of_kind h]
  rfl

theorem typeName_enum (h : f.kind = .known .enum) {e : EnumType} (he : f.enumType = some e) :
    f.typeName (g.settings style) = .ok (style.namer.getD g.className e.toTypeName) := by
  rw [typeName, kind?_of_kind h]
  simp only [he]
  rfl

theorem typeName_message (h : f.kind = .known .message ∨ f.kind = .known .group) {t : TypeName}
    (ht : f.messageType = some t) :
    f.typeName (g.settings style) = .ok (style.namer.getD g.className t) := by
  rcases h with h | h
  · rw [typeName, kind?_of_kind h]
    simp only [Kind.typeName?, ht]
    rfl
  · rw [typeName, kind?_of_kind h]
    simp only [Kind.typeName?, ht]
    rfl

/-- The default of an enum field is the value within the class of the enum. -/
theorem defaultText_enum (h : f.kind = .known .enum) {e : EnumType} (he : f.enumType = some e)
    {m : EnumMember} (hm : f.default = .member m) : f.defaultText (g.settings style) =
      .ok (style.namer.getD g.className e.toTypeName ++ "." ++ m.name) := by
  rw [defaultText, kind?_of_kind h]
  simp only [Kind.family, enumDefault, hm, typeName_enum h he]
  rfl

theorem defaultText_message (h : f.kind = .known .message ∨ f.kind = .known .group) {t : TypeName}
    (ht : f.messageType = some t) : f.defaultText (g.settings style) =
      .ok (style.namer.getD g.className t ++ ".DefaultInstance") := by
  have htype : f.typeName (g.settings style) = .ok (style.namer.getD g.className t) :=
    typeName_message h ht
  rcases h with h | h
  · rw [defaultText, kind?_of_kind h]
    simp only [Kind.family, htype]
    rfl
  · rw [defaultText, kind?_of_kind h]
    simp only [Kind.family, htype]
    rfl

theorem WellTyped.exists_messageType (h : f.WellTyped g k) (hk : k = .message ∨ k = .group) :
    (f.kind = .known .message ∨ f.kind = .known .group) ∧ ∃ t, f.messageType = some t := by
  refine ⟨?_, Option.isSome_iff_exists.mp (h.messageType.mpr hk)⟩
  rcases hk with rfl | rfl
  · exact Or.inl h.kind
  · exact Or.inr h.kind

theorem WellTyped.exists_typeName (h : f.WellTyped g k) (style : Style) :
    ∃ text, f.typeName (g.settings style) = .ok text := by
  have hmessage : k = .message ∨ k = .group → ∃ text, f.typeName (g.settings style) = .ok text := by
    intro hk
    obtain ⟨hkind, t, ht⟩ := h.exists_messageType hk
    exact ⟨_, typeName_message hkind ht⟩
  cases k with
  | enum =>
    obtain ⟨e, he⟩ := Option.isSome_iff_exists.mp (h.enumType.mpr rfl)
    exact ⟨_, typeName_enum h.kind he⟩
  | message => exact hmessage (Or.inl rfl)
  | group => exact hmessage (Or.inr rfl)
  | _ =>
    rw [typeName, kind?_of_kind h.kind]
    exact ⟨_, rfl⟩

theorem numericDefault_eq_ok {n : Number} {text : Text} (hd : f.default = n.toValue)
    (hn : style.suffixes.literal f.kind n = .ok text) :
    f.numericDefault (g.settings style) = .ok text := by
  have hn' : (g.settings style).suffixes.literal f.kind n = .ok text := hn
  unfold numericDefault
  cases n <;> simp only [hd, Number.toValue, hn']

theorem exists_numericDefault_of_int (hkind : f.kind = .known k) (hk : k.isNumeric = true)
    (hf : k.isFloating = false) {n : Int} (hn : f.default = .int n) :
    ∃ text, f.numericDefault (g.settings style) = .ok text := by
  obtain ⟨text, ht⟩ := style.suffixes.exists_literal_int hk hf n
  exact ⟨text, numericDefault_eq_ok (n := .int n) hn (hkind ▸ ht)⟩

theorem exists_numericDefault_of_double (hkind : f.kind = .known k) (hf : k.isFloating = true)
    {x : Double} (hx : f.default = .double x) :
    ∃ text, f.numericDefault (g.settings style) = .ok text := by
  obtain ⟨text, ht⟩ := style.suffixes.exists_literal_double hf x
  exact ⟨text, numericDefault_eq_ok (n := .double x) hx (hkind ▸ ht)⟩

theorem WellTyped.exists_defaultText (h : f.WellTyped g k) (style : Style) :
    ∃ text, f.defaultText (g.settings style) = .ok text := by
  have hdefault := h.default
  have hmessage : k = .message ∨ k = .group →
      ∃ text, f.defaultText (g.settings style) = .ok text := by
    intro hk
    obtain ⟨hkind, t, ht⟩ := h.exists_messageType hk
    exact ⟨_, defaultText_message hkind ht⟩
  cases k with
  | enum =>
    obtain ⟨e, m, he, hm, -⟩ := hdefault
    exact ⟨_, defaultText_enum h.kind he hm⟩
  | message => exact hmessage (Or.inl rfl)
  | group => exact hmessage (Or.inr rfl)
  | float =>
    obtain ⟨x, hx⟩ := hdefault
    rw [defaultText, kind?_of_kind h.kind]
    exact exists_numericDefault_of_double h.kind rfl hx
  | double =>
    obtain ⟨x, hx⟩ := hdefault
    rw [defaultText, kind?_of_kind h.kind]
    exact exists_numericDefault_of_double h.kind rfl hx
  | bool =>
    obtain ⟨b, hb⟩ := hdefault
    rw [defaultText, kind?_of_kind h.kind]
    simp only [Kind.family, boolDefault, hb]
    cases b <;> exact ⟨_, rfl⟩
  | string =>
    rw [defaultText, kind?_of_kind h.kind]
    simp only [Kind.family, textDefault]
    split_ifs
    · exact ⟨_, rfl⟩
    · exact ⟨_, rfl⟩
  | bytes =>
    rw [defaultText, kind?_of_kind h.kind]
    simp only [Kind.family, bytesDefault, typeName_bytes h.kind]
    split
    · exact ⟨_, rfl⟩
    · exact ⟨_, rfl⟩
  | _ =>
    obtain ⟨n, hn, -⟩ := hdefault
    rw [defaultText, kind?_of_kind h.kind]
    exact exists_numericDefault_of_int h.kind rfl rfl hn

/-- Every fragment of a well-typed field can be written. -/
theorem WellTyped.sheet_complete (h : f.WellTyped g k) (style : Style) :
    (f.sheet (g.settings style)).Complete := by
  have hkind := kind?_of_kind h.kind
  have hnullable : f.isNullable = .ok k.isReference := by rw [isNullable, hkind]; rfl
  refine ⟨⟨_, rfl⟩, ⟨k.tag, ?_⟩, h.exists_typeName style, h.exists_defaultText style,
    ⟨k.fixedSize?, ?_⟩, ⟨_, hnullable⟩, ?_, ?_⟩
  · show f.tagText = .ok k.tag
    rw [tagText, h.kind]
  · show f.encodedSize = .ok k.fixedSize?
    rw [encodedSize, hkind]
    rfl
  · show ∃ text, f.nullCheck (g.settings style) = .ok text
    rw [nullCheck, hnullable]
    exact ⟨_, rfl⟩
  · show ∃ text, f.complianceMark (g.settings style) = .ok text
    unfold complianceMark
    split_ifs
    · exact ⟨_, rfl⟩
    · exact ⟨_, rfl⟩

end Field

/-- **The fields of a built graph are well typed, and all their fragments can be written**, whatever
the suffixes, the names of the runtime library and the way classes are named. -/
theorem fields_wellTyped_and_renderable {s : Schema} {g : Graph} (h : s.build.result = .ok g)
    {f : Field} (hf : f ∈ g.allFields) :
    ∃ k, f.WellTyped g k ∧ ∀ style : Style, (f.sheet (g.settings style)).Complete := by
  obtain ⟨k, hk⟩ := (Schema.buildsTo_of_build h).wellTyped hf
  exact ⟨k, hk, hk.sheet_complete⟩

/-- In particular those of the byte string in the sample schema. -/
theorem sample_field_renderable : ∃ g f, Schema.sample.build.result = .ok g ∧ f ∈ g.allFields ∧
    ∃ k, f.WellTyped g k ∧ ∀ style : Style, (f.sheet (g.settings style)).Complete := by
  obtain ⟨g, f, hbuild, hf, -⟩ := Schema.exists_sample_field
  exact ⟨g, f, hbuild, hf, fields_wellTyped_and_renderable hbuild hf⟩

end FieldCode
