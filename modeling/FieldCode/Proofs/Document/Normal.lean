import FieldCode.Document.Encode
import FieldCode.Document.Report
import FieldCode.Proofs.Document.AsRead

/-!
# Records normalise once

Decoding a record fills in defaults, drops keys that no entry has, and converts what has another type
than its entry.  None of it happens twice: what an entry holds is decoded from its own encoding as it
is, and so is every record that was decoded (`NormalizesOnce`).

For flat records nothing has to be known of the record.  A message is decoded only if it is not nested
too deeply, so its encoding is read back within the depth that it has (`MessageDoc.FitsIn`), and what
was decoded within some depth has no more (`MessageDoc.fitsIn_of_decodeWithin`).

The build of a document does not see whether the document was normalised before
(`records_normalize_once`).
-/

namespace FieldCode

/-! ## Normal forms -/

section NormalForm

variable {α : Type} (decode : Json → Except DecodeFault α) (encode : α → Json)

/-- The normal form of a JSON value: the record that it is decoded to, encoded. -/
def normalForm (j : Json) : Except DecodeFault Json :=
  (decode j).map encode

/-- Decoding changes nothing the second time. -/
structure NormalizesOnce : Prop where
  /-- A record that was decoded is decoded from its encoding as well. -/
  again : ∀ {j r}, decode j = .ok r → decode (encode r) = .ok r
  /-- A normal form is its own normal form. -/
  normal : ∀ {j n}, normalForm decode encode j = .ok n → normalForm decode encode n = .ok n

variable {decode encode}

theorem normalizesOnce_of_again (h : ∀ {j r}, decode j = .ok r → decode (encode r) = .ok r) :
    NormalizesOnce decode encode := by
  refine ⟨h, fun {j n} hn => ?_⟩
  obtain ⟨r, hr, rfl⟩ := map_eq_ok_iff.mp hn
  exact map_eq_ok_iff.mpr ⟨r, h hr, rfl⟩

end NormalForm

/-! ## Entries -/

@[simp]
theorem Json.asText_ofText? (o : Option Text) : (Json.ofText? o).asText = o := by
  cases o <;> rfl

@[simp]
theorem Json.asFlag_ofFlag? (o : Option Bool) : (Json.ofFlag? o).asFlag = o := by
  cases o <;> rfl

@[simp]
theorem Json.asWhole_ofWhole? (o : Option Whole) : (Json.ofWhole? o).asWhole = .ok o := by
  rcases o with _ | _ | _ <;> rfl

section Entries

variable {key : Text} {ms : List (Text × Json)}

theorem textEntry_ofText? {o default : Option Text} (h : Json.get? key ms = some (.ofText? o)) :
    textEntry key default ms = o := by
  rw [textEntry, h]
  exact Json.asText_ofText? o

theorem textRequired_ofText? {o : Option Text} (h : Json.get? key ms = some (.ofText? o)) :
    textRequired key ms = .ok o := by
  rw [textRequired, h]
  exact congrArg Except.ok (Json.asText_ofText? o)

theorem flagEntry_ofFlag? {o default : Option Bool} (h : Json.get? key ms = some (.ofFlag? o)) :
    flagEntry key default ms = o := by
  rw [flagEntry, h]
  exact Json.asFlag_ofFlag? o

theorem wholeRequired_ofWhole? {o : Option Whole} (h : Json.get? key ms = some (.ofWhole? o)) :
    wholeRequired key ms = .ok o := by
  rw [wholeRequired, h]
  exact Json.asWhole_ofWhole? o

variable {α : Type} {decode : Json → Except DecodeFault α} {encode : α → Json}

theorem decodeAll_map_encode {as : List α} (has : ∀ a ∈ as, decode (encode a) = .ok a) :
    decodeAll decode (as.map encode) = .ok as := by
  induction as with
  | nil => rfl
  | cons a as ih =>
    obtain ⟨ha, has⟩ := List.forall_mem_cons.mp has
    rw [List.map_cons, decodeAll, ha, ih has]
    rfl

theorem decodeList_ofList? {o : Option (List α)}
    (ho : ∀ as ∈ o, ∀ a ∈ as, decode (encode a) = .ok a) :
    decodeList decode (.ofList? encode o) = .ok o := by
  cases o with
  | none => rfl
  | some as =>
    show (decodeAll decode (as.map encode)).map some = .ok (some as)
    rw [decodeAll_map_encode (ho as rfl)]
    rfl

theorem listEntry_ofList? {o : Option (List α)} (h : Json.get? key ms = some (.ofList? encode o))
    (ho : ∀ as ∈ o, ∀ a ∈ as, decode (encode a) = .ok a) :
    listEntry decode key ms = .ok o := by
  rw [listEntry, h]
  exact decodeList_ofList? ho

theorem listRequired_ofList? {o : Option (List α)}
    (h : Json.get? key ms = some (.ofList? encode o))
    (ho : ∀ as ∈ o, ∀ a ∈ as, decode (encode a) = .ok a) :
    listRequired decode key ms = .ok o := by
  rw [listRequired, h]
  exact decodeList_ofList? ho

end Entries

/-! ## Flat records -/

theorem FileOptionsDoc.decode_encode (d : FileOptionsDoc) :
    FileOptionsDoc.decode d.encode = .ok d := by
  rw [FileOptionsDoc.decode, map_eq_ok_iff]
  refine ⟨_, rfl, ?_⟩
  rw [textEntry_ofText? (o := d.rootNamespace) rfl, textEntry_ofText? (o := d.umbrella) rfl,
    flagEntry_ofFlag? (o := d.nested) rfl, flagEntry_ofFlag? (o := d.marksCompliance) rfl]

theorem RuntimeNamesDoc.decode_encode (d : RuntimeNamesDoc) :
    RuntimeNamesDoc.decode d.encode = .ok d := by
  rw [RuntimeNamesDoc.decode, map_eq_ok_iff]
  refine ⟨_, rfl, ?_⟩
  rw [textEntry_ofText? (o := d.qualifier) rfl, textEntry_ofText? (o := d.nullCheck) rfl,
    textEntry_ofText? (o := d.compliance) rfl]

theorem EnumValueDoc.decode_encode (d : EnumValueDoc) : EnumValueDoc.decode d.encode = .ok d := by
  refine bind_eq_ok_iff.mpr ⟨_, rfl, ?_⟩
  refine bind_eq_ok_iff.mpr ⟨d.name, textRequired_ofText? rfl, ?_⟩
  exact bind_eq_ok_iff.mpr ⟨d.number, wholeRequired_ofWhole? rfl, rfl⟩

theorem EnumDoc.decode_encode (d : EnumDoc) : EnumDoc.decode d.encode = .ok d := by
  have hvalues : ∀ vs ∈ d.values, ∀ v ∈ vs, EnumValueDoc.decode v.encode = .ok v :=
    fun _ _ v _ => v.decode_encode
  refine bind_eq_ok_iff.mpr ⟨_, rfl, ?_⟩
  refine bind_eq_ok_iff.mpr ⟨d.name, textRequired_ofText? rfl, ?_⟩
  exact bind_eq_ok_iff.mpr ⟨d.values, listRequired_ofList? rfl hvalues, rfl⟩

theorem FieldDoc.decode_encode (d : FieldDoc) : FieldDoc.decode d.encode = .ok d := by
  refine bind_eq_ok_iff.mpr ⟨_, rfl, ?_⟩
  refine bind_eq_ok_iff.mpr ⟨d.name, textRequired_ofText? rfl, ?_⟩
  refine bind_eq_ok_iff.mpr ⟨d.number, wholeRequired_ofWhole? rfl, ?_⟩
  refine bind_eq_ok_iff.mpr ⟨d.type, textRequired_ofText? rfl, ?_⟩
  rw [textEntry_ofText? (o := d.typeName) rfl, textEntry_ofText? (o := d.default) rfl,
    textEntry_ofText? (o := d.propertyName) rfl]
  rfl

/-! ## Messages -/

namespace MessageDoc

/-- Decoding messages one after the other is decoding a list of records. -/
theorem decodeEach_eq (room : Nat) (js : List Json) :
    decodeEach room js = decodeAll (decodeWithin room) js := by
  induction js with
  | nil => rw [decodeEach, decodeAll]
  | cons j js ih =>
    rw [decodeEach, decodeAll, ih]
    cases decodeWithin room j <;> rfl

theorem decodeItems_eq (room : Nat) (j : Json) :
    decodeItems room j = decodeList (decodeWithin room) j := by
  cases j with
  | array items =>
    rw [decodeItems, decodeEach_eq]
    rfl
  | text s =>
    rw [decodeItems, decodeList, Json.asItems]
    · split_ifs <;> rfl
    · simp
  | object ms =>
    rw [decodeItems, decodeList, Json.asItems]
    · split_ifs <;> rfl
    · simp
  | _ =>
    rw [decodeItems]
    · rfl
    · simp

theorem decodeInner_eq (room : Nat) (ms : List (Text × Json)) :
    decodeInner room ms = listEntry (decodeWithin room) "messages" ms := by
  induction ms with
  | nil =>
    rw [decodeInner]
    rfl
  | cons m ms ih =>
    obtain ⟨key, j⟩ := m
    rw [decodeInner, listEntry, Json.get?]
    split_ifs with hkey
    · exact decodeItems_eq room j
    · exact ih

theorem encodeEach_eq (ms : List MessageDoc) : encodeEach ms = ms.map encode := by
  induction ms with
  | nil => rw [encodeEach, List.map_nil]
  | cons m ms ih => rw [encodeEach, ih, List.map_cons]

theorem encodeInner_eq (o : Option (List MessageDoc)) :
    encodeInner o = .ofList? encode o := by
  cases o with
  | none => rw [encodeInner, Json.ofList?]
  | some ms => rw [encodeInner, encodeEach_eq, Json.ofList?]

/-- Messages are nested in the message to a depth less than `room`. -/
inductive FitsIn : Nat → MessageDoc → Prop
  | mk {room : Nat} {d : MessageDoc} (inner : ∀ ms ∈ d.messages, ∀ m ∈ ms, FitsIn room m) :
    FitsIn (room + 1) d

theorem fitsIn_of_decodeWithin {room : Nat} {j : Json} {d : MessageDoc}
    (h : decodeWithin room j = .ok d) : d.FitsIn room := by
  induction room generalizing j d with
  | zero =>
    cases j with
    | object ms =>
      rw [decodeWithin, if_pos rfl] at h
      cases h
    | _ => cases h
  | succ room ih =>
    cases j with
    | object ms =>
      obtain ⟨-, -, hmessages, -⟩ := exists_of_decodeWithin h
      rw [Nat.add_sub_cancel, decodeInner_eq] at hmessages
      refine .mk fun ds hds d hd => ?_
      obtain ⟨-, -, -, -, i, -, hi⟩ := exists_of_listEntry hmessages ds hds d hd
      exact ih hi
    | _ => cases h

theorem decodeWithin_encode {room : Nat} {d : MessageDoc} (h : d.FitsIn room) :
    decodeWithin room d.encode = .ok d := by
  induction h with
  | @mk room d _ ih =>
    obtain ⟨name, fields, messages, enums⟩ := d
    rw [encode, encodeInner_eq, decodeWithin, if_neg (Nat.succ_ne_zero room),
      textRequired_ofText? (o := name) rfl,
      listEntry_ofList? (o := fields) rfl fun _ _ f _ => f.decode_encode,
      listEntry_ofList? (o := enums) rfl fun _ _ e _ => e.decode_encode,
      Nat.add_sub_cancel, decodeInner_eq, listEntry_ofList? (o := messages) rfl ih]
    rfl

end MessageDoc

theorem MessageDoc.decode_encode {j : Json} {d : MessageDoc} (h : MessageDoc.decode j = .ok d) :
    MessageDoc.decode d.encode = .ok d :=
  MessageDoc.decodeWithin_encode (MessageDoc.fitsIn_of_decodeWithin h)

/-! ## Schemas -/

theorem SchemaDoc.decode_encode {j : Json} {d : SchemaDoc} (h : SchemaDoc.decode j = .ok d) :
    SchemaDoc.decode d.encode = .ok d := by
  obtain ⟨ms, -, -, -, hmessages, -⟩ := SchemaDoc.exists_of_decode h
  have hinner : ∀ ds ∈ d.messages, ∀ m ∈ ds, MessageDoc.decode m.encode = .ok m := by
    intro ds hds m hm
    obtain ⟨-, -, -, -, i, -, hi⟩ := exists_of_listEntry hmessages ds hds m hm
    exact MessageDoc.decode_encode hi
  have henums : ∀ es ∈ d.enums, ∀ e ∈ es, EnumDoc.decode e.encode = .ok e :=
    fun _ _ e _ => e.decode_encode
  obtain ⟨package, options, messages, enums⟩ := d
  rw [SchemaDoc.encode, MessageDoc.encodeInner_eq]
  refine bind_eq_ok_iff.mpr ⟨_, rfl, ?_⟩
  extract_lets package' finish
  -- what follows the options is the same whether they are missing or not
  have hfinish : finish options = .ok ⟨package, options, messages, enums⟩ := by
    have hpackage : package' = package := textEntry_ofText? rfl
    refine bind_eq_ok_iff.mpr ⟨messages, listEntry_ofList? rfl hinner, ?_⟩
    refine bind_eq_ok_iff.mpr ⟨enums, listEntry_ofList? rfl henums, ?_⟩
    rw [hpackage]
    rfl
  cases options with
  | none => exact hfinish
  | some options =>
    have hoptions : (FileOptionsDoc.decode options.encode).map some = .ok (some options) :=
      map_eq_ok_iff.mpr ⟨options, options.decode_encode, rfl⟩
    exact bind_eq_ok_iff.mpr ⟨some options, hoptions, hfinish⟩

/-- What is left of building a JSON value: what the build of its schema leaves, if nothing is missing,
and the report that is made of it in any case. -/
def Json.buildOutcome (style : Style) (j : Json) :
    Except DecodeFault (Option BuildOutcome × ReportOutcome) :=
  (SchemaDoc.decode j).map fun d => (d.complete?.map Schema.build, d.report style)

/-- **Records normalise once.**  A record of any class that was decoded is decoded from its encoding as
well, so that normal forms are their own normal forms; and the build of a schema file leaves the same
whether or not the file was normalised before. -/
theorem records_normalize_once :
    NormalizesOnce SchemaDoc.decode SchemaDoc.encode ∧
      NormalizesOnce MessageDoc.decode MessageDoc.encode ∧
        NormalizesOnce FieldDoc.decode FieldDoc.encode ∧
          NormalizesOnce EnumDoc.decode EnumDoc.encode ∧
            NormalizesOnce EnumValueDoc.decode EnumValueDoc.encode ∧
              NormalizesOnce FileOptionsDoc.decode FileOptionsDoc.encode ∧
                NormalizesOnce RuntimeNamesDoc.decode RuntimeNamesDoc.encode ∧
                  ∀ j r, SchemaDoc.decode j = .ok r → ∀ style, ∃ outcome,
                    j.buildOutcome style = .ok outcome ∧
                      r.encode.buildOutcome style = .ok outcome := by
  refine ⟨normalizesOnce_of_again SchemaDoc.decode_encode,
    normalizesOnce_of_again MessageDoc.decode_encode,
    normalizesOnce_of_again fun _ => FieldDoc.decode_encode _,
    normalizesOnce_of_again fun _ => EnumDoc.decode_encode _,
    normalizesOnce_of_again fun _ => EnumValueDoc.decode_encode _,
    normalizesOnce_of_again fun _ => FileOptionsDoc.decode_encode _,
    normalizesOnce_of_again fun _ => RuntimeNamesDoc.decode_encode _, fun j r hr style => ?_⟩
  exact ⟨_, map_eq_ok_iff.mpr ⟨r, hr, rfl⟩,
    map_eq_ok_iff.mpr ⟨r, SchemaDoc.decode_encode hr, rfl⟩⟩

/-- A schema file in which values are missing, are of other types and are not asked for. -/
def Json.sampleFile : Json :=
  .object
    [("package", .int 7), ("options", .object [("nest_classes", .text "no"), ("author", .null)]),
      ("messages", .array
        [.object
          [("messages", .array [.object [("name", .bool true), ("fields", .object [])]]),
            ("name", .text "Outer"),
            ("fields", .array
              [.object
                [("name", .null), ("number", .text " 1_0 "), ("type", .text "float"),
                  ("default", .number (.infinite true))]])]])]

/-- In particular this file is decoded to a record that is decoded from its encoding as well. -/
theorem sample_file_normalizes : ∃ r, SchemaDoc.decode Json.sampleFile = .ok r ∧
    SchemaDoc.decode r.encode = .ok r ∧ ∀ style, ∃ outcome,
      Json.sampleFile.buildOutcome style = .ok outcome ∧
        r.encode.buildOutcome style = .ok outcome := by
  have hdecode : SchemaDoc.decode Json.sampleFile = .ok
      { package := some "7"
        options := some { nested := some true }
        messages := some
          [{ name := some "Outer"
             fields := some
               [{ name := none, number := some (.int 10), type := some "float",
                  default := some "-inf" }]
             messages := some [{ name := some "True" }] }] } := by
    rfl
  obtain ⟨hnormal, -, -, -, -, -, -, hbuild⟩ := records_normalize_once
  exact ⟨_, hdecode, hnormal.again hdecode, hbuild _ _ hdecode⟩

end FieldCode
