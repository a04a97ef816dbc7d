import FieldCode.Proofs.Json.AsRead

/-!
# Schemas that were read

A schema file is read, decoded, and found complete before it is a schema, and what holds of the values
that a reader makes holds of such a schema: in its names no halves of surrogate pairs meet, and the
numbers of its fields have no more digits than a numeral may have.

* `EnumDecl.AsRead`, `MessageDecl.AsRead` and `Schema.AsRead` say so of declarations, as far as it
  shows in what is generated from them.
* `SchemaDoc.asRead_of_decode` and `RuntimeNamesDoc.asRead_of_decode` are the way from a JSON value.
-/

namespace FieldCode

/-! ## Declarations -/

/-- No halves meet in the names of the enum. -/
structure EnumDecl.AsRead (d : EnumDecl) : Prop where
  name : d.name.IsJoined
  values : ∀ v ∈ d.values, v.name.IsJoined

/-- No halves meet in the names of the field, and its number is short. -/
structure FieldDecl.AsRead (d : FieldDecl) : Prop where
  name : d.name.IsJoined
  number : Numeral.Fits d.number
  propertyName : ∀ t ∈ d.propertyName, t.IsJoined

/-- No halves meet in the names of the message and of what is inside it, and its numbers are short. -/
inductive MessageDecl.AsRead : MessageDecl → Prop
  | mk {d : MessageDecl} (name : d.name.IsJoined) (fields : ∀ f ∈ d.fields, f.AsRead)
      (messages : ∀ m ∈ d.messages, AsRead m) (enums : ∀ e ∈ d.enums, e.AsRead) : AsRead d

/-- No halves meet in the names of the schema, and its numbers are short. -/
structure Schema.AsRead (s : Schema) : Prop where
  package : s.package.IsJoined
  rootNamespace : s.options.rootNamespace.IsJoined
  umbrella : s.options.umbrella.IsJoined
  messages : ∀ m ∈ s.messages, m.AsRead
  enums : ∀ e ∈ s.enums, e.AsRead

/-- No halves meet in any one of the names of the library. -/
structure RuntimeNames.AsRead (r : RuntimeNames) : Prop where
  qualifier : r.qualifier.IsJoined
  nullCheck : r.nullCheck.IsJoined
  compliance : r.compliance.IsJoined

/-! ## Entries -/

section Entries

variable {ms : List (Text × Json)} (hms : ∀ m ∈ ms, m.2.AsRead) {key : Text}

include hms

theorem Json.AsRead.of_get? {j : Json} (h : Json.get? key ms = some j) : j.AsRead := by
  obtain ⟨m, hm, rfl⟩ := Json.exists_mem_of_get? h
  exact hms m hm

theorem isJoined_of_mem_textEntry {default : Option Text} (hdefault : ∀ t ∈ default, t.IsJoined) :
    ∀ t ∈ textEntry key default ms, t.IsJoined := by
  intro t ht
  unfold textEntry at ht
  split at ht
  · exact (Json.AsRead.of_get? hms ‹_›).isJoined_of_asText ht
  · exact hdefault t ht

theorem isJoined_of_mem_textEntry_some {default : Text} (hdefault : default.IsJoined) :
    ∀ t ∈ textEntry key (some default) ms, t.IsJoined := by
  refine isJoined_of_mem_textEntry hms ?_
  rintro _ ⟨⟩
  exact hdefault

theorem isJoined_of_mem_textRequired {o : Option Text} (h : textRequired key ms = .ok o) :
    ∀ t ∈ o, t.IsJoined := by
  unfold textRequired at h
  split at h
  · cases h
    intro t ht
    exact (Json.AsRead.of_get? hms ‹_›).isJoined_of_asText ht
  · cases h

theorem fits_of_wholeRequired {n : Int} (h : wholeRequired key ms = .ok (some (.int n))) :
    Numeral.Fits n := by
  unfold wholeRequired at h
  split at h
  · exact (Json.AsRead.of_get? hms ‹_›).fits_of_asWhole h
  · cases h

end Entries

namespace Json.AsRead

theorem of_asRecord {j : Json} (hj : j.AsRead) {ms : List (Text × Json)}
    (h : j.asRecord = .ok ms) : ∀ m ∈ ms, m.2.AsRead := by
  cases hj with
  | object hms =>
    cases h
    exact hms
  | _ => cases h

theorem of_asItems {j : Json} (hj : j.AsRead) {items : List Json}
    (h : j.asItems = .ok (some items)) : ∀ i ∈ items, i.AsRead := by
  cases hj with
  | array hitems =>
    cases h
    exact hitems
  | text =>
    rw [Json.asItems] at h
    split_ifs at h
    cases h
    exact List.forall_mem_nil _
  | object =>
    rw [Json.asItems] at h
    split_ifs at h
    cases h
    exact List.forall_mem_nil _
  | _ => cases h

end Json.AsRead

/-! ## Lists -/

section Lists

variable {α : Type} {decode : Json → Except DecodeFault α}

theorem exists_mem_of_decodeAll {js : List Json} {as : List α}
    (h : decodeAll decode js = .ok as) : ∀ a ∈ as, ∃ j ∈ js, decode j = .ok a := by
  induction js generalizing as with
  | nil =>
    cases h
    exact List.forall_mem_nil _
  | cons j js ih =>
    rw [decodeAll] at h
    split at h
    · cases h
    · obtain ⟨as, has, rfl⟩ := map_eq_ok_iff.mp h
      refine List.forall_mem_cons.mpr ⟨⟨j, List.mem_cons_self .., ‹_›⟩, fun a ha => ?_⟩
      obtain ⟨i, hi, hdecode⟩ := ih has a ha
      exact ⟨i, List.mem_cons_of_mem _ hi, hdecode⟩

theorem exists_of_decodeList {j : Json} {o : Option (List α)} (h : decodeList decode j = .ok o) :
    ∀ as ∈ o, ∀ a ∈ as, ∃ items, j.asItems = .ok (some items) ∧ ∃ i ∈ items, decode i = .ok a := by
  unfold decodeList at h
  split at h
  · cases h
  · cases h
    exact fun _ h => absurd h (Option.not_mem_none _)
  · obtain ⟨as, has, rfl⟩ := map_eq_ok_iff.mp h
    rintro _ ⟨⟩ a ha
    exact ⟨_, ‹_›, exists_mem_of_decodeAll has a ha⟩

variable {ms : List (Text × Json)} {key : Text} {o : Option (List α)}

theorem exists_of_listEntry (h : listEntry decode key ms = .ok o) : ∀ as ∈ o, ∀ a ∈ as, ∃ j items,
    Json.get? key ms = some j ∧ j.asItems = .ok (some items) ∧ ∃ i ∈ items, decode i = .ok a := by
  unfold listEntry at h
  split at h
  · intro as has a ha
    obtain ⟨items, hitems, hfrom⟩ := exists_of_decodeList h as has a ha
    exact ⟨_, items, ‹_›, hitems, hfrom⟩
  · cases h
    rintro _ ⟨⟩
    exact List.forall_mem_nil _

/-- An entry without a default holds what one with a default would hold. -/
theorem listEntry_of_listRequired (h : listRequired decode key ms = .ok o) :
    listEntry decode key ms = .ok o := by
  unfold listRequired at h
  rw [listEntry]
  split at h
  · exact h
  · cases h

variable {P : α → Prop} (hdecode : ∀ {j : Json} {a : α}, j.AsRead → decode j = .ok a → P a)
  (hms : ∀ m ∈ ms, m.2.AsRead)

include hdecode hms

theorem forall_of_listEntry (h : listEntry decode key ms = .ok o) : ∀ as ∈ o, ∀ a ∈ as, P a := by
  intro as has a ha
  obtain ⟨j, items, hj, hitems, i, hi, ha⟩ := exists_of_listEntry h as has a ha
  exact hdecode ((Json.AsRead.of_get? hms hj).of_asItems hitems i hi) ha

theorem forall_of_listRequired (h : listRequired decode key ms = .ok o) :
    ∀ as ∈ o, ∀ a ∈ as, P a :=
  forall_of_listEntry hdecode hms (listEntry_of_listRequired h)

end Lists

theorem exists_mem_of_completeAll {α β : Type} {f : α → Option β} {as : List α} {bs : List β}
    (h : completeAll f as = some bs) : ∀ b ∈ bs, ∃ a ∈ as, f a = some b := by
  induction as generalizing bs with
  | nil =>
    cases h
    exact List.forall_mem_nil _
  | cons a as ih =>
    rw [completeAll] at h
    split at h
    · cases h
      refine List.forall_mem_cons.mpr ⟨⟨a, List.mem_cons_self .., ‹_›⟩, fun b hb => ?_⟩
      obtain ⟨a', ha', hb'⟩ := ih ‹_› b hb
      exact ⟨a', List.mem_cons_of_mem _ ha', hb'⟩
    · cases h

/-- What holds of whatever is complete in a list holds of all of the list that is complete. -/
theorem forall_of_completeAll {α β : Type} {f : α → Option β} {P : β → Prop} {o : Option (List α)}
    (h : ∀ as ∈ o, ∀ a ∈ as, ∀ b, f a = some b → P b) {as : List α} (ho : o = some as)
    {bs : List β} (hbs : completeAll f as = some bs) : ∀ b ∈ bs, P b := by
  intro b hb
  obtain ⟨a, ha, hcomplete⟩ := exists_mem_of_completeAll hbs b hb
  exact h as ho a ha b hcomplete

/-! ## Records -/

theorem RuntimeNamesDoc.asRead_of_decode {j : Json} (hj : j.AsRead) {d : RuntimeNamesDoc}
    (h : RuntimeNamesDoc.decode j = .ok d) : d.names.AsRead := by
  obtain ⟨ms, hms, rfl⟩ := map_eq_ok_iff.mp h
  have hshown : ∀ {o : Option Text}, (∀ t ∈ o, t.IsJoined) → (shownText o).IsJoined := by
    intro o ho
    cases o with
    | none => exact Text.isJoined_ofString "None"
    | some t => exact ho t rfl
  have hentry : ∀ key s, (shownText (textEntry key (some (Text.ofString s)) ms)).IsJoined :=
    fun _ s =>
      hshown (isJoined_of_mem_textEntry_some (hj.of_asRecord hms) (Text.isJoined_ofString s))
  exact ⟨hentry _ _, hentry _ _, hentry _ _⟩

theorem EnumValueDoc.isJoined_of_decode {j : Json} (hj : j.AsRead) {d : EnumValueDoc}
    (h : EnumValueDoc.decode j = .ok d) {v : EnumValueDecl} (hv : d.complete? = some v) :
    v.name.IsJoined := by
  obtain ⟨ms, hms, h⟩ := bind_eq_ok_iff.mp h
  obtain ⟨name, hname, h⟩ := bind_eq_ok_iff.mp h
  obtain ⟨number, hnumber, h⟩ := bind_eq_ok_iff.mp h
  cases h
  unfold EnumValueDoc.complete? at hv
  split at hv
  · cases hv
    rename_i heq
    cases heq
    exact isJoined_of_mem_textRequired (hj.of_asRecord hms) hname _ rfl
  · cases hv

theorem EnumDoc.asRead_of_decode {j : Json} (hj : j.AsRead) {d : EnumDoc}
    (h : EnumDoc.decode j = .ok d) {e : EnumDecl} (he : d.complete? = some e) : e.AsRead := by
  obtain ⟨ms, hms, h⟩ := bind_eq_ok_iff.mp h
  obtain ⟨name, hname, h⟩ := bind_eq_ok_iff.mp h
  obtain ⟨values, hvalues, h⟩ := bind_eq_ok_iff.mp h
  cases h
  have hmembers := hj.of_asRecord hms
  unfold EnumDoc.complete? at he
  split at he
  · rename_i name values heq
    cases heq
    obtain ⟨vs, hvs, rfl⟩ := Option.map_eq_some_iff.mp he
    refine ⟨isJoined_of_mem_textRequired hmembers hname _ rfl, ?_⟩
    exact forall_of_completeAll (forall_of_listRequired
      (fun hj h v hv => EnumValueDoc.isJoined_of_decode hj h hv) hmembers hvalues) rfl hvs
  · cases he

theorem FieldDoc.asRead_of_decode {j : Json} (hj : j.AsRead) {d : FieldDoc}
    (h : FieldDoc.decode j = .ok d) {f : FieldDecl} (hf : d.complete? = some f) : f.AsRead := by
  obtain ⟨ms, hms, h⟩ := bind_eq_ok_iff.mp h
  obtain ⟨name, hname, h⟩ := bind_eq_ok_iff.mp h
  obtain ⟨number, hnumber, h⟩ := bind_eq_ok_iff.mp h
  obtain ⟨type, htype, h⟩ := bind_eq_ok_iff.mp h
  cases h
  have hmembers := hj.of_asRecord hms
  unfold FieldDoc.complete? at hf
  split at hf
  · rename_i heq
    cases heq
    cases hf
    exact ⟨isJoined_of_mem_textRequired hmembers hname _ rfl,
      fits_of_wholeRequired hmembers hnumber,
      isJoined_of_mem_textEntry hmembers fun t ht => absurd ht (Option.not_mem_none t)⟩
  · cases hf

theorem FileOptionsDoc.isJoined_of_decode {j : Json} (hj : j.AsRead) {d : FileOptionsDoc}
    (h : FileOptionsDoc.decode j = .ok d) {o : FileOptions} (ho : d.complete? = some o) :
    o.rootNamespace.IsJoined ∧ o.umbrella.IsJoined := by
  obtain ⟨ms, hms, rfl⟩ := map_eq_ok_iff.mp h
  have hmembers := hj.of_asRecord hms
  unfold FileOptionsDoc.complete? at ho
  split at ho
  · rename_i heq
    cases ho
    simp only [FileOptionsDoc.mk.injEq] at heq
    exact ⟨isJoined_of_mem_textEntry_some hmembers Text.isJoined_nil _ heq.1,
      isJoined_of_mem_textEntry_some hmembers Text.isJoined_nil _ heq.2.1⟩
  · cases ho

/-! ## Messages -/

theorem MessageDoc.exists_of_decodeWithin {room : Nat} {ms : List (Text × Json)} {d : MessageDoc}
    (h : MessageDoc.decodeWithin room (.object ms) = .ok d) :
    textRequired "name" ms = .ok d.name ∧ listEntry FieldDoc.decode "fields" ms = .ok d.fields ∧
      MessageDoc.decodeInner (room - 1) ms = .ok d.messages ∧
        listEntry EnumDoc.decode "enums" ms = .ok d.enums := by
  rw [MessageDoc.decodeWithin] at h
  split_ifs at h
  split at h
  · cases h
  · cases h
  · split at h
    · cases h
    · obtain ⟨enums, henums, rfl⟩ := map_eq_ok_iff.mp h
      exact ⟨‹_›, ‹_›, ‹_›, henums⟩

theorem MessageDoc.exists_of_complete? {d : MessageDoc} {m : MessageDecl}
    (h : d.complete? = some m) : ∃ fields enums, d.name = some m.name ∧ d.fields = some fields ∧
      completeAll FieldDoc.complete? fields = some m.fields ∧
        MessageDoc.completeInner? d.messages = some m.messages ∧ d.enums = some enums ∧
          completeAll EnumDoc.complete? enums = some m.enums := by
  obtain ⟨name, fields, messages, enums⟩ := d
  unfold MessageDoc.complete? at h
  split at h
  · rename_i heq
    cases heq
    split at h
    · cases h
      exact ⟨_, _, rfl, rfl, ‹_›, ‹_›, rfl, ‹_›⟩
    · cases h
  · cases h

theorem MessageDoc.eq_nil_of_decodeItems {room : Nat} {j : Json} (hj : ∀ items, j ≠ .array items)
    {o : Option (List MessageDoc)} (h : MessageDoc.decodeItems room j = .ok o)
    {decls : List MessageDecl} (hdecls : MessageDoc.completeInner? o = some decls) : decls = [] := by
  rw [MessageDoc.decodeItems] at h
  · obtain ⟨items, -, rfl⟩ := map_eq_ok_iff.mp h
    cases items with
    | none => cases hdecls
    | some _ =>
      cases hdecls
      rfl
  · exact hj

mutual

theorem MessageDoc.asRead_of_decodeWithin : ∀ (j : Json) {room : Nat}, j.AsRead →
    ∀ {d : MessageDoc}, MessageDoc.decodeWithin room j = .ok d →
      ∀ {m : MessageDecl}, d.complete? = some m → m.AsRead
  | .object ms, room, hj, d, h, m, hm => by
    have hmembers : ∀ m ∈ ms, m.2.AsRead := hj.of_asRecord rfl
    obtain ⟨hname, hfields, hmessages, henums⟩ := MessageDoc.exists_of_decodeWithin h
    obtain ⟨fields, enums, hname', hfields', hfs, hms, henums', hes⟩ :=
      MessageDoc.exists_of_complete? hm
    refine .mk ?_ ?_ ?_ ?_
    · exact isJoined_of_mem_textRequired hmembers hname _ hname'
    · exact forall_of_completeAll (forall_of_listEntry
        (fun hj h f hf => FieldDoc.asRead_of_decode hj h hf) hmembers hfields) hfields' hfs
    · exact MessageDoc.asRead_of_decodeInner ms hmembers hmessages hms
    · exact forall_of_completeAll (forall_of_listEntry
        (fun hj h e he => EnumDoc.asRead_of_decode hj h he) hmembers henums) henums' hes
  | .null, _, _, _, h, _, _ => by cases h
  | .bool _, _, _, _, h, _, _ => by cases h
  | .int _, _, _, _, h, _, _ => by cases h
  | .number _, _, _, _, h, _, _ => by cases h
  | .text _, _, _, _, h, _, _ => by cases h
  | .array _, _, _, _, h, _, _ => by cases h

theorem MessageDoc.asRead_of_decodeInner : ∀ (ms : List (Text × Json)) {room : Nat},
    (∀ m ∈ ms, m.2.AsRead) → ∀ {o : Option (List MessageDoc)},
      MessageDoc.decodeInner room ms = .ok o →
        ∀ {decls : List MessageDecl}, MessageDoc.completeInner? o = some decls →
          ∀ m ∈ decls, m.AsRead
  | [], _, _, _, h, _, hdecls => by
    cases h
    cases hdecls
    exact List.forall_mem_nil _
  | (key, j) :: ms, _, hms, _, h, _, hdecls => by
    obtain ⟨hj, hms⟩ := List.forall_mem_cons.mp hms
    rw [MessageDoc.decodeInner] at h
    split_ifs at h with hkey
    · exact MessageDoc.asRead_of_decodeItems j hj h hdecls
    · exact MessageDoc.asRead_of_decodeInner ms hms h hdecls

theorem MessageDoc.asRead_of_decodeItems : ∀ (j : Json) {room : Nat}, j.AsRead →
    ∀ {o : Option (List MessageDoc)}, MessageDoc.decodeItems room j = .ok o →
      ∀ {decls : List MessageDecl}, MessageDoc.completeInner? o = some decls →
        ∀ m ∈ decls, m.AsRead
  | .array items, _, hj, _, h, _, hdecls => by
    obtain ⟨docs, hdocs, rfl⟩ := map_eq_ok_iff.mp h
    exact MessageDoc.asRead_of_decodeEach items (hj.of_asItems rfl) hdocs hdecls
  | .null, _, _, _, h, _, hdecls | .bool _, _, _, _, h, _, hdecls | .int _, _, _, _, h, _, hdecls
  | .number _, _, _, _, h, _, hdecls | .text _, _, _, _, h, _, hdecls
  | .object _, _, _, _, h, _, hdecls => by
    rw [MessageDoc.eq_nil_of_decodeItems (by simp) h hdecls]
    exact List.forall_mem_nil _

theorem MessageDoc.asRead_of_decodeEach : ∀ (items : List Json) {room : Nat},
    (∀ j ∈ items, j.AsRead) → ∀ {docs : List MessageDoc},
      MessageDoc.decodeEach room items = .ok docs →
        ∀ {decls : List MessageDecl}, MessageDoc.completeList? docs = some decls →
          ∀ m ∈ decls, m.AsRead
  | [], _, _, _, h, _, hdecls => by
    cases h
    cases hdecls
    exact List.forall_mem_nil _
  | j :: items, _, hitems, _, h, _, hdecls => by
    obtain ⟨hj, hitems⟩ := List.forall_mem_cons.mp hitems
    rw [MessageDoc.decodeEach] at h
    split at h
    · cases h
    · obtain ⟨docs, hdocs, rfl⟩ := map_eq_ok_iff.mp h
      rw [MessageDoc.completeList?] at hdecls
      split at hdecls
      · cases hdecls
        exact List.forall_mem_cons.mpr ⟨MessageDoc.asRead_of_decodeWithin j hj ‹_› ‹_›,
          MessageDoc.asRead_of_decodeEach items hitems hdocs ‹_›⟩
      · cases hdecls

end

theorem MessageDoc.exists_of_completeInner? {o : Option (List MessageDoc)}
    {ms : List MessageDecl} (h : MessageDoc.completeInner? o = some ms) :
    ∃ docs, o = some docs ∧ MessageDoc.completeList? docs = some ms := by
  cases o with
  | none => cases h
  | some docs => exact ⟨docs, rfl, h⟩

theorem MessageDoc.exists_mem_of_completeList? {docs : List MessageDoc} {ms : List MessageDecl}
    (h : MessageDoc.completeList? docs = some ms) :
    ∀ m ∈ ms, ∃ doc ∈ docs, doc.complete? = some m := by
  induction docs generalizing ms with
  | nil =>
    cases h
    exact List.forall_mem_nil _
  | cons doc docs ih =>
    rw [MessageDoc.completeList?] at h
    split at h
    · cases h
      refine List.forall_mem_cons.mpr ⟨⟨doc, List.mem_cons_self .., ‹_›⟩, fun m hm => ?_⟩
      obtain ⟨doc', hdoc', hm'⟩ := ih ‹_› m hm
      exact ⟨doc', List.mem_cons_of_mem _ hdoc', hm'⟩
    · cases h

theorem SchemaDoc.exists_of_complete? {d : SchemaDoc} {s : Schema} (h : d.complete? = some s) :
    ∃ options enums, d.package = some s.package ∧ d.options = some options ∧
      options.complete? = some s.options ∧
        MessageDoc.completeInner? d.messages = some s.messages ∧ d.enums = some enums ∧
          completeAll EnumDoc.complete? enums = some s.enums := by
  unfold SchemaDoc.complete? at h
  split at h
  · rename_i hpackage hoptions hmessages henums
    cases h
    obtain ⟨o, ho, hcomplete⟩ := Option.bind_eq_some_iff.mp hoptions
    obtain ⟨es, hes, hall⟩ := Option.bind_eq_some_iff.mp henums
    exact ⟨o, es, hpackage, ho, hcomplete, hmessages, hes, hall⟩
  · cases h

theorem SchemaDoc.exists_of_decode {j : Json} {d : SchemaDoc} (h : SchemaDoc.decode j = .ok d) :
    ∃ ms, j.asRecord = .ok ms ∧ d.package = textEntry "package" (some []) ms ∧
      (d.options = some {} ∨ ∀ options ∈ d.options, ∃ j, Json.get? "options" ms = some j ∧
        FileOptionsDoc.decode j = .ok options) ∧
      listEntry MessageDoc.decode "messages" ms = .ok d.messages ∧
        listEntry EnumDoc.decode "enums" ms = .ok d.enums := by
  obtain ⟨ms, hms, h⟩ := bind_eq_ok_iff.mp h
  refine ⟨ms, hms, ?_⟩
  extract_lets package finish at h
  have hfinish : ∀ {options}, finish options = .ok d → d.package = package ∧ d.options = options ∧
      listEntry MessageDoc.decode "messages" ms = .ok d.messages ∧
        listEntry EnumDoc.decode "enums" ms = .ok d.enums := by
    intro options h
    obtain ⟨messages, hmessages, h⟩ := bind_eq_ok_iff.mp h
    obtain ⟨enums, henums, h⟩ := bind_eq_ok_iff.mp h
    cases h
    exact ⟨rfl, rfl, hmessages, henums⟩
  split at h
  · obtain ⟨hpackage, hoptions, hlists⟩ := hfinish h
    exact ⟨hpackage, Or.inl hoptions, hlists⟩
  · obtain ⟨hpackage, hoptions, hlists⟩ := hfinish h
    refine ⟨hpackage, Or.inr fun options ho => ?_, hlists⟩
    rw [hoptions] at ho
    cases ho
  · rename_i j _ hj
    obtain ⟨options, hread, h⟩ := bind_eq_ok_iff.mp h
    obtain ⟨doc, hdoc, rfl⟩ := map_eq_ok_iff.mp hread
    obtain ⟨hpackage, hoptions, hlists⟩ := hfinish h
    refine ⟨hpackage, Or.inr fun options ho => ?_, hlists⟩
    rw [hoptions] at ho
    cases ho
    exact ⟨j, hj, hdoc⟩

/-- **A schema that was read from a file has no halves that meet in its names, and no long
numbers.** -/
theorem SchemaDoc.asRead_of_decode {j : Json} (hj : j.AsRead) {d : SchemaDoc}
    (h : SchemaDoc.decode j = .ok d) {s : Schema} (hs : d.complete? = some s) : s.AsRead := by
  obtain ⟨ms, hms, hpackage, hoptions, hmessages, henums⟩ := SchemaDoc.exists_of_decode h
  obtain ⟨options, enums, hpackage', hoptions', ho, hmsgs, henums', hes⟩ :=
    SchemaDoc.exists_of_complete? hs
  have hmembers := hj.of_asRecord hms
  have hnames : s.options.rootNamespace.IsJoined ∧ s.options.umbrella.IsJoined := by
    rcases hoptions with hdefault | hread
    · rw [hdefault, Option.some.injEq] at hoptions'
      rw [← hoptions'] at ho
      rw [← Option.some.inj ho]
      exact ⟨Text.isJoined_nil, Text.isJoined_nil⟩
    · obtain ⟨j, hj, hdecode⟩ := hread options hoptions'
      exact FileOptionsDoc.isJoined_of_decode (Json.AsRead.of_get? hmembers hj) hdecode ho
  refine ⟨?_, hnames.1, hnames.2, ?_, ?_⟩
  · exact isJoined_of_mem_textEntry_some hmembers Text.isJoined_nil _ (hpackage ▸ hpackage')
  · intro m hm
    obtain ⟨docs, hdocs, hall⟩ := MessageDoc.exists_of_completeInner? hmsgs
    obtain ⟨doc, hdoc, hcomplete⟩ := MessageDoc.exists_mem_of_completeList? hall m hm
    exact forall_of_listEntry (P := fun doc => ∀ m, doc.complete? = some m → m.AsRead)
      (fun {j} {_} hj h m hm => MessageDoc.asRead_of_decodeWithin j hj h hm) hmembers hmessages
      docs hdocs doc hdoc m hcomplete
  · exact forall_of_completeAll (forall_of_listEntry
      (fun hj h e he => EnumDoc.asRead_of_decode hj h he) hmembers henums) henums' hes

end FieldCode
