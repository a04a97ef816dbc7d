import FieldCode.Proofs.Graph.ClassName
import FieldCode.Proofs.Graph.WellTyped
import FieldCode.Proofs.Number.Layout

/-!
# Rendered defaults point at the right thing

Three kinds of default text name something declared elsewhere: a reference names a class and a place
in it, the default of an enum field names a class and a value, and that of a message field names a
class. For the fields of a built graph, each name leads back to exactly one thing, and that is the
one meant.

The places are right because a field stands at the index it carries
(`Schema.BuildsTo.exists_place`), the classes because class names tell types apart, and the values
because an enum field takes its default from the value that its name finds first
(`FieldSite.find?_of_defaultValue`).  That nothing else looks like a reference is a matter of first
characters.
-/

namespace FieldCode

/-! ## References -/

/-- The expression that reads a default back: a cast, the class, and the field's place in it. -/
def referenceText (cast owner : Text) (index : Int) : Text :=
  "(" ++ cast ++ ") " ++ owner ++ ".Descriptor.Fields[" ++ Text.ofInt index ++ "].DefaultValue"

/-- Texts with one mark are split alike if the mark does not come again. -/
theorem append_cons_inj_of_notMem_right {α : Type} {as as' bs bs' : List α} {mark : α}
    (hbs : mark ∉ bs) (hbs' : mark ∉ bs') (h : as ++ mark :: bs = as' ++ mark :: bs') :
    as = as' ∧ bs = bs' := by
  have hshort : ∀ {cs bs bs' : List α}, mark ∉ bs → mark :: bs = cs ++ mark :: bs' →
      cs = [] ∧ bs = bs' := by
    intro cs bs bs' hbs heq
    cases cs with
    | nil => exact ⟨rfl, (List.cons.inj heq).2⟩
    | cons c cs =>
      have hmem : mark ∈ cs ++ mark :: bs' := List.mem_append_right _ (List.mem_cons_self ..)
      exact absurd ((List.cons.inj heq).2 ▸ hmem) hbs
  rcases List.append_eq_append_iff.mp h with ⟨cs, rfl, hcs⟩ | ⟨cs, rfl, hcs⟩
  · obtain ⟨rfl, rfl⟩ := hshort hbs hcs
    exact ⟨(List.append_nil as).symm, rfl⟩
  · obtain ⟨rfl, rfl⟩ := hshort hbs' hcs
    exact ⟨List.append_nil as', rfl⟩

theorem bracket_notMem_ofInt (n : Int) : Rune.char '[' ∉ Text.ofInt n := by
  intro hmem
  obtain ⟨c, hc, heq⟩ := List.mem_map.mp hmem
  have hchar := integerText_subset n hc
  rw [Rune.char.inj heq] at hchar
  exact absurd hchar (by decide)

/-- A reference behind a known cast shows its class and its place. -/
theorem referenceText_inj {cast owner owner' : Text} {i i' : Int}
    (h : referenceText cast owner i = referenceText cast owner' i') : owner = owner' ∧ i = i' := by
  have hsplit : ∀ owner i, referenceText cast owner i =
      ("(" ++ cast ++ ") " : Text) ++ ((owner ++ ".Descriptor.Fields" : Text) ++
        .char '[' :: Text.ofInt i) ++ "].DefaultValue" := by
    intro owner i
    simp only [referenceText, List.append_assoc]
    rfl
  rw [hsplit, hsplit] at h
  obtain ⟨howner, hindex⟩ := append_cons_inj_of_notMem_right (bracket_notMem_ofInt i)
    (bracket_notMem_ofInt i') (List.append_cancel_left (List.append_cancel_right h))
  exact ⟨List.append_cancel_right howner, Text.ofInt_injective hindex⟩

/-- The default of the field is read back through the description of its class: it is a byte string
that was given, or a text that is not plain. -/
def Field.ReadsDefaultBack (f : Field) : Prop :=
  f.kind = .known .bytes ∧ f.rawDefault.isSome = true ∨
    f.kind = .known .string ∧ Text.allPlain (f.rawDefault.getD []) = false

namespace Field

variable {g : Graph} {f : Field} {k : Kind} {style : Style}

theorem reference_eq (style : Style) (f : Field) (cast : Text) :
    f.reference (g.settings style) cast =
      .ok (referenceText cast (style.namer.getD g.className f.container) f.index) :=
  rfl

theorem ReadsDefaultBack.exists_defaultText (h : f.ReadsDefaultBack) (s : Settings) :
    ∃ cast, f.typeName s = .ok cast ∧ f.defaultText s = f.reference s cast := by
  rcases h with ⟨hk, hraw⟩ | ⟨hk, hplain⟩
  · refine ⟨_, typeName_bytes hk s, ?_⟩
    obtain ⟨raw, hraw⟩ := Option.isSome_iff_exists.mp hraw
    rw [defaultText, kind?_of_kind hk]
    simp only [Kind.family, bytesDefault, typeName_bytes hk s, hraw]
  · refine ⟨_, typeName_string hk s, ?_⟩
    rw [defaultText, kind?_of_kind hk]
    simp only [Kind.family, textDefault, hplain, Bool.false_eq_true, if_false]

/-! ## What is no reference -/

theorem exists_literal_of_numericDefault {s : Settings} {text : Text}
    (h : f.numericDefault s = .ok text) : ∃ n, s.suffixes.literal f.kind n = .ok text := by
  unfold numericDefault at h
  cases hd : f.default with
  | int n =>
    cases hn : s.suffixes.literal f.kind (.int n) with
    | error e => simp [hd, hn] at h
    | ok text' => exact ⟨.int n, by simpa [hd, hn] using h⟩
  | double x =>
    cases hx : s.suffixes.literal f.kind (.double x) with
    | error e => simp [hd, hx] at h
    | ok text' => exact ⟨.double x, by simpa [hd, hx] using h⟩
  | _ => simp [hd] at h

/-- A type name that refers to a class does not begin with a bracket, and neither does what
continues it. -/
theorem head?_className_append (g : Graph) (t : TypeName) (rest : Text) :
    (g.className t ++ rest).head? ≠ some (.char '(') := by
  show some (Rune.char 'g') ≠ _
  decide

theorem WellTyped.readsDefaultBack (h : f.WellTyped g k) (hstyle : style.namer = none)
    {cast owner : Text} {i : Int} (htype : f.typeName (g.settings style) = .ok cast)
    (htext : f.defaultText (g.settings style) = .ok (referenceText cast owner i)) :
    f.ReadsDefaultBack := by
  have hhead : (referenceText cast owner i).head? = some (.char '(') := rfl
  have hmessage : k = .message ∨ k = .group → f.ReadsDefaultBack := by
    intro hk
    obtain ⟨hkind, t, ht⟩ := h.exists_messageType hk
    rw [defaultText_message hkind ht, hstyle, Except.ok.injEq] at htext
    exact absurd hhead (htext ▸ head?_className_append g t _)
  cases k with
  | bool =>
    obtain ⟨b, hb⟩ := h.default
    rw [defaultText, kind?_of_kind h.kind] at htext
    simp only [Kind.family, boolDefault, hb] at htext
    cases b <;> exact absurd (Except.ok.inj htext ▸ hhead) (by decide)
  | string =>
    refine Or.inr ⟨h.kind, ?_⟩
    by_contra hplain
    rw [Bool.not_eq_false] at hplain
    rw [defaultText, kind?_of_kind h.kind] at htext
    simp only [Kind.family, textDefault, hplain, if_true] at htext
    rw [← Except.ok.inj htext] at hhead
    exact absurd (Option.some.inj hhead) (by decide)
  | bytes =>
    refine Or.inl ⟨h.kind, ?_⟩
    by_contra hraw
    rw [Option.not_isSome_iff_eq_none] at hraw
    rw [defaultText, kind?_of_kind h.kind] at htext
    simp only [Kind.family, bytesDefault, htype, hraw] at htext
    -- the constant for no bytes ends in another letter than a reference
    have hlast := congrArg List.getLast? (Except.ok.inj htext)
    rw [referenceText, List.getLast?_append, List.getLast?_append] at hlast
    replace hlast : some (Rune.char 'y') = some (Rune.char 'e') := hlast
    exact absurd hlast (by decide)
  | enum =>
    obtain ⟨e, m, he, hm, -⟩ := h.default
    rw [defaultText_enum h.kind he hm, hstyle, Except.ok.injEq] at htext
    rw [Option.getD_none, List.append_assoc] at htext
    exact absurd hhead (htext ▸ head?_className_append g e.toTypeName _)
  | message => exact hmessage (Or.inl rfl)
  | group => exact hmessage (Or.inr rfl)
  | _ =>
    rw [defaultText, kind?_of_kind h.kind] at htext
    obtain ⟨n, hn⟩ := exists_literal_of_numericDefault htext
    rw [h.kind] at hn
    exact absurd hhead (Suffixes.head?_literal hn)

end Field

/-! ## Places and values in a built graph -/

theorem EnumType.find?_name {e : EnumType} {text : Text} {m : EnumMember}
    (h : e.find? text = some m) :
    e.find? m.name = some m := by
  have hfind := h
  rw [EnumType.find?] at hfind
  have hname : m.name = text := by simpa using List.find?_some hfind
  rw [hname, h]

theorem EnumType.find?_of_head? {e : EnumType} {m : EnumMember} (h : e.members.head? = some m) :
    e.find? m.name = some m := by
  obtain ⟨rest, hmembers⟩ := List.head?_eq_some_iff.mp h
  rw [EnumType.find?, hmembers, List.find?_cons_of_pos]
  exact beq_self_eq_true m.name

/-- The default of an enum field is what its own name finds first. -/
theorem FieldSite.find?_of_defaultValue {r : Registry} {s : FieldSite} {t : Option Declared}
    {v : Value}
    (ht : FieldSite.Target r s .enum t) (hv : s.defaultValue .enum t = .ok v) {m : EnumMember}
    (hm : v = .member m) : ∃ e, t = some (.enum e) ∧ e.find? m.name = some m := by
  obtain ⟨e, rfl, -⟩ := ht.exists_enum
  refine ⟨e, rfl, ?_⟩
  rcases defaultValue_eq_ok_iff.mp hv with ⟨-, hv⟩ | ⟨text, -, hv⟩
  · rw [hm, Kind.impliedDefault] at hv
    simp only [Kind.family, enumOf, Option.bind_some] at hv
    cases hhead : e.members.head? with
    | none => simp [hhead] at hv
    | some m' =>
      rw [hhead] at hv
      obtain rfl := Value.member.inj hv
      exact EnumType.find?_of_head? hhead
  · unfold Kind.readDefault at hv
    dsimp only [Kind.family, enumOf] at hv
    cases hfind : e.find? text with
    | none => simp [hfind] at hv
    | some m' =>
      rw [hfind, hm] at hv
      obtain rfl := Value.member.inj (Except.ok.inj hv)
      exact EnumType.find?_name hfind

namespace Schema.BuildsTo

variable {s : Schema} {g : Graph} {f : Field}

/-- A field stands in the message that it names, at the index that it carries. -/
theorem exists_place (h : s.BuildsTo g) (hf : f ∈ g.allFields) : ∃ m ∈ g.allMessages, ∃ i : Nat,
    f.container = m.toTypeName ∧ f.index = i ∧ m.fields[i]? = some f := by
  obtain ⟨m, hm, site, -, hsite, howner, hat⟩ := h.exists_fieldSite_of_mem hf
  obtain ⟨k, t, v, -, -, rfl⟩ := FieldSite.resolve_eq_ok_iff.mp hsite
  exact ⟨m, hm, site.index, howner, rfl, hat⟩

/-- An enum field has an enum and a value of it, the first of that name. -/
theorem exists_enum_default (h : s.BuildsTo g) (hf : f ∈ g.allFields) (hk : f.kind = .known .enum) :
    ∃ e m, f.enumType = some e ∧ f.default = .member m ∧ e.find? m.name = some m := by
  obtain ⟨k, hwell⟩ := h.wellTyped hf
  obtain rfl : k = .enum := KindTag.known.inj (hwell.kind.symm.trans hk)
  obtain ⟨-, m, -, hm, -⟩ := hwell.default
  obtain ⟨-, -, site, -, hsite, -, -⟩ := h.exists_fieldSite_of_mem hf
  obtain ⟨k, t, v, href, hv, rfl⟩ := FieldSite.resolve_eq_ok_iff.mp hsite
  obtain ⟨-, -, -, ht⟩ := FieldSite.refer_eq_ok_iff.mp href
  obtain rfl : k = .enum := KindTag.known.inj hk
  obtain ⟨e, rfl, hfind⟩ := FieldSite.find?_of_defaultValue ht hv hm
  exact ⟨e, m, rfl, hm, hfind⟩

/-- A reference leads to one message, in which the field stands at the place it names. -/
theorem message_of_reference (h : s.BuildsTo g) (hf : f ∈ g.allFields) {style : Style}
    (hstyle : style.namer = none) {cast owner : Text} {i : Int}
    (hread : f.ReadsDefaultBack) (htype : f.typeName (g.settings style) = .ok cast)
    (htext : f.defaultText (g.settings style) = .ok (referenceText cast owner i)) :
    ∃ m, g.allMessages.filter (fun m => g.className m.toTypeName = owner) = [m] ∧ 0 ≤ i ∧
      m.fields[i.toNat]? = some f := by
  obtain ⟨cast', htype', href⟩ := hread.exists_defaultText (g.settings style)
  obtain ⟨m, hm, j, hcontainer, hindex, hat⟩ := h.exists_place hf
  rw [htype, Except.ok.injEq] at htype'
  rw [href, Field.reference_eq, hstyle, ← htype', Except.ok.injEq] at htext
  obtain ⟨rfl, rfl⟩ := referenceText_inj htext
  rw [Option.getD_none, hcontainer, hindex]
  exact ⟨m, h.filter_messages hm, Int.natCast_nonneg j, hat⟩

end Schema.BuildsTo

/-- What the default text of a field names is found, once, where the name says. -/
structure Field.PointsAtDeclarations (g : Graph) (s : Settings) (f : Field) : Prop where
  /-- The text is a reference just for the defaults that are read back. -/
  reference_iff : (∃ cast owner i, f.typeName s = .ok cast ∧
    f.defaultText s = .ok (referenceText cast owner i)) ↔ f.ReadsDefaultBack
  /-- A reference names one message and the place of the field in it. -/
  reference : ∀ cast owner i, f.typeName s = .ok cast →
    f.defaultText s = .ok (referenceText cast owner i) →
      ∃ m, g.allMessages.filter (fun m => g.className m.toTypeName = owner) = [m] ∧ 0 ≤ i ∧
        m.fields[i.toNat]? = some f
  /-- The default of an enum field names one type, its enum, and the value its name finds first. -/
  enum : f.kind = .known .enum → ∃ owner e m, f.enumType = some e ∧ f.default = .member m ∧
    f.defaultText s = .ok (owner ++ "." ++ m.name) ∧
      g.types.filter (fun d => g.classOf d = owner) = [.enum e] ∧ e.find? m.name = some m
  /-- The default of a message or group field names one type, its message. -/
  message : f.kind = .known .message ∨ f.kind = .known .group → ∃ owner t, f.messageType = some t ∧
    f.defaultText s = .ok (owner ++ ".DefaultInstance") ∧
      g.types.filter (fun d => g.classOf d = owner) = [.message t]

/-- **The default texts of a built graph point at the right things**, if classes are named by full
names. -/
theorem defaults_point_at_declarations {s : Schema} {g : Graph} (h : s.build.result = .ok g)
    {f : Field} (hf : f ∈ g.allFields) {style : Style} (hstyle : style.namer = none) :
    f.PointsAtDeclarations g (g.settings style) := by
  have hbuilds := Schema.buildsTo_of_build h
  obtain ⟨k, hwell⟩ := hbuilds.wellTyped hf
  refine ⟨⟨?_, ?_⟩, ?_, ?_, ?_⟩
  · rintro ⟨cast, owner, i, htype, htext⟩
    exact hwell.readsDefaultBack hstyle htype htext
  · intro hread
    obtain ⟨cast, htype, href⟩ := hread.exists_defaultText (g.settings style)
    exact ⟨cast, _, _, htype, href⟩
  · intro cast owner i htype htext
    exact hbuilds.message_of_reference hf hstyle (hwell.readsDefaultBack hstyle htype htext) htype
      htext
  · intro hk
    obtain ⟨e, m, he, hm, hfind⟩ := hbuilds.exists_enum_default hf hk
    have hmem : .enum e ∈ g.types := Graph.enum_mem_types.mpr (hwell.enum_mem e he)
    refine ⟨g.className e.toTypeName, e, m, he, hm, ?_, hbuilds.filter_types hmem, hfind⟩
    rw [Field.defaultText_enum hk he hm, hstyle]
    rfl
  · intro hk
    have hsome : k = .message ∨ k = .group := by
      rw [hwell.kind] at hk
      exact hk.imp KindTag.known.inj KindTag.known.inj
    obtain ⟨t, ht⟩ := Option.isSome_iff_exists.mp (hwell.messageType.mpr hsome)
    have hmem : .message t ∈ g.types := Graph.message_mem_types.mpr (hwell.message_mem t ht)
    refine ⟨g.className t, t, ht, ?_, hbuilds.filter_types hmem⟩
    rw [Field.defaultText_message hk ht, hstyle]
    rfl

/-- In particular that of the byte string in the sample schema, which is read back. -/
theorem sample_default_points_at_declarations : ∃ g f, Schema.sample.build.result = .ok g ∧
    f ∈ g.allFields ∧ f.ReadsDefaultBack ∧ f.PointsAtDeclarations g (g.settings {}) := by
  obtain ⟨g, f, hbuild, hf, hkind, hraw⟩ := Schema.exists_sample_field
  have hread : f.ReadsDefaultBack := Or.inl ⟨hkind, by rw [hraw]; rfl⟩
  exact ⟨g, f, hbuild, hf, hread, defaults_point_at_declarations hbuild hf rfl⟩

end FieldCode
