import FieldCode.Proofs.Graph.AsRead
import FieldCode.Proofs.Graph.Listing
import FieldCode.Proofs.Json.RoundTrip

/-!
# The output as JSON

From the files to what is printed: the arguments ask for a listing as JSON, both files are read, the
schema is built, and the fragments of its fields are printed as one JSON text in ASCII, which a reader
takes back to the same fragments.

One thing can change on the way.  In the null check two names of the library stand side by side that
were read separately, and if the first ends in the first half of a surrogate pair and the second begins
with a second one, the null check is read back with one character in their place.  A refused schema is
answered with a line of text if the message can be printed; a name in it can hold half of a pair, and
then it cannot.

* `Json.get?_assemble_append`: of members with the same key the last gives the value.
* `Listing.ReadBack` says what a reader makes of the listing of a graph, and
  `Graph.readBack_listing` proves that it does.
* `Command.printsFragments_of_build` and `Command.refuses_of_message` are about the whole program, and
  `Command.json_output_faithful` puts them together.
-/

namespace FieldCode

namespace Json

/-! ## Members by their keys -/

section Members

variable {α β : Type}

theorem get?_assemble_append {key : Text} {value : α} {before after : List (Text × α)}
    (h : key ∉ after.map (·.1)) :
    get? key (assemble (before ++ (key, value) :: after)) = some value := by
  induction after using List.reverseRecOn with
  | nil => rw [assemble_concat, get?_put, if_pos rfl]
  | append_singleton after m ih =>
    rw [List.map_append, List.mem_append, List.map_singleton, List.mem_singleton, not_or] at h
    rw [← List.cons_append, ← List.append_assoc, assemble_concat, get?_put, if_neg h.2]
    exact ih h.1

/-- Values can be changed before they are looked up or after. -/
theorem get?_map (change : α → β) (key : Text) (ms : List (Text × α)) :
    get? key (ms.map fun m => (m.1, change m.2)) = (get? key ms).map change := by
  induction ms with
  | nil => rfl
  | cons m ms ih =>
    rw [List.map_cons, get?, get?, ih]
    split_ifs <;> rfl

end Members

/-- An object with distinct keys in which no halves meet keeps them. -/
theorem rejoined_object {ms : List (Text × Json)} (hnodup : (ms.map (·.1)).Nodup)
    (hjoined : ∀ m ∈ ms, m.1.IsJoined) :
    (object ms).rejoined = object (ms.map fun m => (m.1, m.2.rejoined)) := by
  have hmembers : rejoinedMembers ms = ms.map fun m => (m.1, m.2.rejoined) := by
    clear hnodup
    induction ms with
    | nil => rfl
    | cons m ms ih =>
      obtain ⟨key, value⟩ := m
      obtain ⟨hkey, hms⟩ := List.forall_mem_cons.mp hjoined
      rw [rejoinedMembers, ih hms, Text.rejoined_of_isJoined hkey, List.map_cons]
  have hkeys : (ms.map fun m => (m.1, m.2.rejoined)).map (·.1) = ms.map (·.1) := List.map_map ..
  rw [rejoined, hmembers, assemble_of_nodup (hkeys ▸ hnodup)]

end Json

namespace Text

theorem ofString_append (s t : String) : ofString (s ++ t) = ofString s ++ ofString t := by
  rw [ofString, String.toList_append]
  exact List.map_append

theorem toString?_ofString (s : String) : toString? (ofString s) = some s := by
  rw [toString?, ofString, toChars?_ofChars, Option.map_some, String.ofList_toList]

end Text

/-! ## The fragments of a field -/

/-- The fragments are those on the sheet, none of which failed. -/
structure Sheet.Gives (s : Sheet) (f : Fragments) : Prop where
  propertyName : f.propertyName = s.propertyName
  name : s.name = .ok f.name
  number : f.number = .int s.number
  type : s.type = .ok f.type
  typeName : s.typeName = .ok f.typeName
  default : s.default = .ok f.default
  encodedSize : s.encodedSize = .ok f.encodedSize
  nullable : s.nullable = .ok f.nullable
  nullCheck : s.nullCheck = .ok f.nullCheck
  compliance : s.compliance = .ok f.compliance

theorem Field.gives_of_fragments {settings : Settings} {f : Field} {fragments : Fragments}
    (h : f.entry.fragments settings = .ok fragments) : (f.sheet settings).Gives fragments := by
  rw [FieldEntry.fragments, Field.sheet_entry] at h
  obtain ⟨name, hname, h⟩ := bind_eq_ok_iff.mp h
  obtain ⟨type, htype, h⟩ := bind_eq_ok_iff.mp h
  obtain ⟨typeName, htypeName, h⟩ := bind_eq_ok_iff.mp h
  obtain ⟨default, hdefault, h⟩ := bind_eq_ok_iff.mp h
  obtain ⟨size, hsize, h⟩ := bind_eq_ok_iff.mp h
  obtain ⟨nullable, hnullable, h⟩ := bind_eq_ok_iff.mp h
  obtain ⟨nullCheck, hnullCheck, h⟩ := bind_eq_ok_iff.mp h
  obtain ⟨compliance, hcompliance, h⟩ := bind_eq_ok_iff.mp h
  cases h
  exact ⟨rfl, hname, rfl, htype, htypeName, hdefault, hsize, hnullable, hnullCheck, hcompliance⟩

/-- The fragments as they are read back: halves that meet in the null check are joined. -/
def Fragments.rejoined (f : Fragments) : Fragments :=
  { f with nullCheck := Text.rejoined f.nullCheck }

section Sheet

variable {s : Sheet} {f : Fragments} (hs : s.AsRead) (hf : s.Gives f)

include hs hf

/-- The fragments can be read back, if there is room for an object. -/
theorem Sheet.AsRead.readable (room : Nat) : (Listing.fragmentsJson f).Readable (room + 1) := by
  have hnumber : (Listing.numberJson f.number).Readable room := by
    rw [hf.number]
    exact .int hs.number
  refine .object ?_
  simp only [List.forall_mem_cons]
  exact ⟨.text _, .text _, hnumber, .text _, .text _, .text _, .int (hs.encodedSize hf.encodedSize),
    .bool _, .text _, .text _, List.forall_mem_nil _⟩

theorem Sheet.AsRead.rejoined_fragmentsJson :
    (Listing.fragmentsJson f).rejoined = Listing.fragmentsJson f.rejoined := by
  have hnumber : (Listing.numberJson f.number).rejoined = Listing.numberJson f.number := by
    rw [hf.number]
    rfl
  have hpropertyName : f.propertyName.IsJoined := hf.propertyName ▸ hs.propertyName
  rw [Listing.fragmentsJson, Json.rejoined_object (by simp only [List.map]; decide) (by simp)]
  simp only [List.map_cons, List.map_nil, Json.rejoined, hnumber,
    Text.rejoined_of_isJoined hpropertyName, Text.rejoined_of_isJoined (hs.name hf.name),
    Text.rejoined_of_isJoined (hs.type hf.type), Text.rejoined_of_isJoined (hs.typeName hf.typeName),
    Text.rejoined_of_isJoined (hs.default hf.default),
    Text.rejoined_of_isJoined (hs.compliance hf.compliance)]
  rfl

end Sheet

theorem Fragments.rejoined_eq {f : Fragments} (h : f.nullCheck.IsJoined) : f.rejoined = f := by
  rw [rejoined, Text.rejoined_of_isJoined h]

/-! ## The listing of a graph -/

/-- What runs parallel to a list is split where the list is. -/
theorem exists_split_of_forall₂ {α β : Type} {R : α → β → Prop} {before after : List α} {a : α}
    {bs : List β} (h : List.Forall₂ R (before ++ a :: after) bs) :
    ∃ before' b after', bs = before' ++ b :: after' ∧ R a b ∧ List.Forall₂ R after after' := by
  induction before generalizing bs with
  | nil =>
    obtain ⟨b, after', hb, hafter, rfl⟩ := List.forall₂_cons_left_iff.mp h
    exact ⟨[], b, after', rfl, hb, hafter⟩
  | cons _ before ih =>
    obtain ⟨b', bs, -, hbs, rfl⟩ := List.forall₂_cons_left_iff.mp h
    obtain ⟨before', b, after', rfl, hb, hafter⟩ := ih hbs
    exact ⟨b' :: before', b, after', rfl, hb, hafter⟩

/-- What a reader makes of the listing of a graph.  Its keys are the full names of the fields in the
order of their first mention, and under each are the fragments of the last field of that name, up to
halves that meet in the null check. -/
structure Listing.ReadBack (names : RuntimeNames) (g : Graph) (entries : List (Text × Json)) :
    Prop where
  /-- The full names, each once. -/
  keys : entries.map (·.1) = (g.allFields.map (·.fullName)).eraseDups
  /-- The fragments of a field behind which no other has its full name. -/
  values : ∀ before f after, g.allFields = before ++ f :: after →
    f.fullName ∉ after.map (·.fullName) →
      ∃ fragments, (f.sheet (g.settings { runtime := names })).Gives fragments ∧
        Json.get? f.fullName entries = some (fragmentsJson fragments.rejoined) ∧
          (¬ names.HalvesMeet → fragments.rejoined = fragments)

section Graph

variable {s : Schema} {g : Graph} {names : RuntimeNames} (hb : s.BuildsTo g) (hg : g.AsRead)
  (hnames : names.AsRead)

include hb hg hnames

theorem Graph.readable_members {members : List (Text × Json)}
    (h : List.Forall₂ (Listing.Shows (g.settings { runtime := names })) g.allFields members)
    (room : Nat) : ∀ m ∈ members, m.2.Readable (room + 1) := by
  intro m hm
  obtain ⟨f, hf, -, fragments, hfragments, hm⟩ := exists_mem_of_forall₂ h.flip hm
  obtain ⟨k, hk⟩ := hb.wellTyped hf
  rw [hm]
  exact (hg.sheet hnames hf hk).readable (Field.gives_of_fragments hfragments) room

theorem Graph.readBack_members {members : List (Text × Json)}
    (h : List.Forall₂ (Listing.Shows (g.settings { runtime := names })) g.allFields members) :
    ∃ entries, (Json.object (Json.assemble members)).rejoined = .object entries ∧
      Listing.ReadBack names g entries := by
  have hkeys := Json.keys_assemble members
  rw [Listing.Shows.map_fst h] at hkeys
  have hjoined : ∀ m ∈ Json.assemble members, m.1.IsJoined := by
    intro m hm
    have hmem : m.1 ∈ g.allFields.map (·.fullName) :=
      Listing.Shows.map_fst h ▸ List.mem_map_of_mem (Json.assemble_subset members hm)
    obtain ⟨f, hf, hname⟩ := List.mem_map.mp hmem
    exact hname ▸ (hg.fields f hf).fullName
  refine ⟨_, Json.rejoined_object (hkeys ▸ nodup_eraseDups _) hjoined, ?_, ?_⟩
  · rw [List.map_map]
    exact hkeys
  · intro before f after hfields hlast
    rw [hfields] at h
    -- the members are split where the fields are, and behind this one no other has its key
    obtain ⟨before', ⟨key, value⟩, after', rfl, ⟨hkey, fragments, hfragments, hvalue⟩, hafter⟩ :=
      exists_split_of_forall₂ h
    have hgives := Field.gives_of_fragments hfragments
    have hnew : f.fullName ∉ after'.map (·.1) := (Listing.Shows.map_fst hafter).symm ▸ hlast
    have hf : f ∈ g.allFields := hfields ▸ List.mem_append_right _ (List.mem_cons_self ..)
    obtain ⟨k, hk⟩ := hb.wellTyped hf
    refine ⟨fragments, hgives, ?_, fun hmeet => ?_⟩
    · dsimp only at hkey hvalue
      rw [Json.get?_map, hkey, Json.get?_assemble_append hnew, hvalue, Option.map_some,
        (hg.sheet hnames hf hk).rejoined_fragmentsJson hgives]
    · exact Fragments.rejoined_eq (Field.isJoined_nullCheck hnames hmeet hgives.nullCheck)

/-- The listing is printed as a text in ASCII that a reader takes back. -/
theorem Graph.readBack_listing : ∃ text entries,
    Command.jsonListing (g.report { runtime := names }) = [.ok (Text.ofString text)] ∧
      Json.IsAscii text.toList ∧ Json.read text = .ok (.object entries) ∧
        Listing.ReadBack names g entries := by
  obtain ⟨members, hshows, hprinted⟩ := Graph.exists_jsonListing hb { runtime := names }
  obtain ⟨entries, hentries, hback⟩ := Graph.readBack_members hb hg hnames hshows
  have hreadable : (Json.object (Json.assemble members)).Readable Json.maxDepth := by
    refine .object fun m hm => ?_
    exact Graph.readable_members hb hg hnames hshows _ m (Json.assemble_subset members hm)
  refine ⟨Json.toText (.object (Json.assemble members)) ++ "\n", entries, ?_, ?_, ?_, hback⟩
  · rw [hprinted, Text.ofString_append]
  · rw [String.toList_append]
    exact Json.isAscii_append.mpr ⟨Json.isAscii_toText _, by decide⟩
  · rw [Json.read_toText hreadable, hentries]

end Graph

/-! ## The command -/

namespace Command

/-- The arguments that ask for a listing as JSON. -/
def jsonArguments (input : String) (options : Option String) : List String :=
  ["fields", "-i", input] ++ (options.toList.flatMap fun path => ["--options", path]) ++ ["--json"]

/-- The request that they make. -/
def jsonRequest (input : String) (options : Option String) : Request where
  input := input
  options := options
  asJson := true
  verbose := false

theorem invocation_jsonArguments (input : String) (options : Option String) :
    invocation (jsonArguments input options) = .listing (jsonRequest input options) := by
  cases options <;>
    simp [jsonArguments, jsonRequest, invocation, readFront, Argument.of, invocationOf, readRest]

/-- The program ended by itself, and a reader takes what it printed, all of it in ASCII, back to the
fragments of the fields of the graph. -/
structure PrintsFragments (names : RuntimeNames) (g : Graph) (o : CommandOutcome) : Prop where
  exitCode : o.exitCode = 0
  fault : o.fault = none
  ascii : Json.IsAscii o.output.toList
  readBack : ∃ entries, Json.read o.output = .ok (.object entries) ∧ Listing.ReadBack names g entries

/-- The program ended with the exit code one, and printed what it has to say of the schema. -/
structure Refuses (message : String) (o : CommandOutcome) : Prop where
  exitCode : o.exitCode = 1
  fault : o.fault = none
  output : o.output = "Invalid schema: " ++ message ++ "\n"

theorem Printout.run_ofString (s : String) : run [.ok (Text.ofString s)] = (s, none) := by
  rw [run, Text.toString?_ofString]
  simp [run]

theorem exists_of_load {α : Type} {read : String → Except FileFault String}
    {decode : Json → Except DecodeFault α} {path : String} {a : α}
    (h : load read decode path = .ok a) : ∃ j : Json, j.AsRead ∧ decode j = .ok a := by
  unfold load at h
  split at h
  · cases h
  · split at h
    · cases h
    · split at h
      · cases h
      · cases h
        exact ⟨_, Json.asRead_of_read ‹_›, ‹_›⟩

section Answer

variable {read : String → Except FileFault String} {r : Request} {names : RuntimeNames}
  (hnames : loadNames read r = .ok names)

include hnames

theorem asRead_of_loadNames : names.AsRead := by
  unfold loadNames at hnames
  split at hnames
  · cases hnames
    exact ⟨Text.isJoined_ofString _, Text.isJoined_ofString _, Text.isJoined_ofString _⟩
  · obtain ⟨d, hd, rfl⟩ := map_eq_ok_iff.mp hnames
    obtain ⟨j, hj, hdecode⟩ := exists_of_load hd
    exact RuntimeNamesDoc.asRead_of_decode hj hdecode

variable {doc : SchemaDoc} (hdoc : load read SchemaDoc.decode r.input = .ok doc)

include hdoc

theorem printsFragments_of_build (hjson : r.asJson = true) {s : Schema} {g : Graph}
    (hs : doc.complete? = some s) (hg : s.build.result = .ok g) :
    PrintsFragments names g (answer read r) := by
  obtain ⟨j, hj, hdecode⟩ := exists_of_load hdoc
  have hb := Schema.buildsTo_of_build hg
  have hread : g.AsRead := hb.asRead (SchemaDoc.asRead_of_decode hj hdecode hs)
  obtain ⟨text, entries, hprinted, hascii, hentries, hback⟩ :=
    Graph.readBack_listing hb hread (asRead_of_loadNames hnames)
  have hreport : doc.report { runtime := names } = s.build.report { runtime := names } := by
    rw [SchemaDoc.report, hs]
  have hanswer : answer read r = ⟨0, text, (s.build.report { runtime := names }).log, none⟩ := by
    unfold answer
    rw [hnames, hdoc]
    dsimp only
    rw [hreport, BuildOutcome.report, hg, hjson]
    dsimp only
    rw [if_pos rfl, hprinted, Printout.run_ofString]
    rfl
  rw [hanswer]
  exact ⟨rfl, rfl, hascii, entries, hentries, hback⟩

theorem answer_of_refused {e : ReportFault}
    (he : (doc.report { runtime := names }).result = .error e) :
    answer read r = ⟨1, (refusal e).run.1, (doc.report { runtime := names }).log,
      (refusal e).run.2⟩ := by
  unfold answer
  rw [hnames, hdoc]
  dsimp only
  rw [he]

theorem refuses_of_message {e : ReportFault} {message : String}
    (he : (doc.report { runtime := names }).result = .error e)
    (hmessage : e.message? = some (Text.ofString message)) :
    Refuses message (answer read r) := by
  have hprinted : (refusal e).run = ("Invalid schema: " ++ message ++ "\n", none) := by
    rw [refusal, hmessage, ← Printout.run_ofString, Text.ofString_append, Text.ofString_append]
  rw [answer_of_refused hnames hdoc he, hprinted]
  exact ⟨rfl, rfl, rfl⟩

end Answer

/-- **What is printed as JSON is read back to the fragments.**  The arguments ask for a listing; if the
schema has a graph, the listing is printed and stands for the fragments of the fields of the graph; if
it is refused with a message that can be printed, a line with the message is. -/
theorem json_output_faithful {read : String → Except FileFault String} {input : String}
    {options : Option String} {names : RuntimeNames} {doc : SchemaDoc}
    (hnames : loadNames read (jsonRequest input options) = .ok names)
    (hdoc : load read SchemaDoc.decode input = .ok doc) :
    invocation (jsonArguments input options) = .listing (jsonRequest input options) ∧
      (∀ s g, doc.complete? = some s → s.build.result = .ok g →
        PrintsFragments names g (answer read (jsonRequest input options))) ∧
      ∀ e message, (doc.report { runtime := names }).result = .error e →
        e.message? = some (Text.ofString message) →
          Refuses message (answer read (jsonRequest input options)) :=
  ⟨invocation_jsonArguments input options,
    fun _ _ hs hg => printsFragments_of_build hnames hdoc rfl hs hg,
    fun _ _ he hmessage => refuses_of_message hnames hdoc he hmessage⟩

/-- Some files: schemas, one of which is refused and one of which has half of a pair for a kind, and
names of the library, some of which are halves of pairs. -/
def sampleFiles : String → Except FileFault String
  | "schema.json" => .ok ("\x7b\"messages\": [\x7b\"name\": \"M\", \"fields\": [" ++
      "\x7b\"name\": \"x\", \"number\": 1, \"type\": \"int32\"\x7d, " ++
      "\x7b\"name\": \"x\", \"number\": 2, \"type\": \"string\", " ++
      "\"property_name\": \"\\\"\\\\\\u0001é\\ud83d\\ude00\"\x7d]\x7d]\x7d")
  | "refused.json" => .ok ("\x7b\"messages\": [\x7b\"name\": \"M\", \"fields\": [" ++
      "\x7b\"name\": \"é\", \"number\": 0, \"type\": \"int32\"\x7d]\x7d]\x7d")
  | "half.json" => .ok ("\x7b\"messages\": [\x7b\"name\": \"M\", \"fields\": [" ++
      "\x7b\"name\": \"a\", \"number\": 1, \"type\": \"\\ud800\"\x7d]\x7d]\x7d")
  | "names.json" => .ok "\x7b\"runtime_alias\": \"é::\"\x7d"
  | "halves.json" => .ok "\x7b\"runtime_alias\": \"\\ud83d\", \"null_check\": \"\\ude00\"\x7d"
  | _ => .error .notFound

/-- The schema in a sample file has a graph that passes a test. -/
def sampleBuilds (path : String) (t : Graph → Bool) : Bool :=
  (load sampleFiles SchemaDoc.decode path).toOption.any fun doc =>
    doc.complete?.any fun s => s.buildPasses t

theorem exists_of_sampleBuilds {path : String} {t : Graph → Bool} (h : sampleBuilds path t = true) :
    ∃ doc s g, load sampleFiles SchemaDoc.decode path = .ok doc ∧ doc.complete? = some s ∧
      s.build.result = .ok g ∧ t g = true := by
  obtain ⟨doc, hdoc, hcomplete⟩ := exists_of_toOption_any h
  obtain ⟨s, hs, hbuilds⟩ := (Option.any_eq_true _ _).mp hcomplete
  obtain ⟨g, hg, ht⟩ := Schema.exists_of_buildPasses hbuilds
  exact ⟨doc, s, g, hdoc, hs, hg, ht⟩

/-- The schema in a sample file is refused with a message. -/
def sampleRefused (path : String) (message : Text) : Bool :=
  (load sampleFiles SchemaDoc.decode path).toOption.any fun doc =>
    match (doc.report {}).result with
    | .error e => decide (e.message? = some message)
    | .ok _ => false

theorem exists_of_sampleRefused {path : String} {message : Text}
    (h : sampleRefused path message = true) :
    ∃ doc e, load sampleFiles SchemaDoc.decode path = .ok doc ∧
      (doc.report {}).result = .error e ∧ e.message? = some message := by
  obtain ⟨doc, hdoc, hrefused⟩ := exists_of_toOption_any h
  split at hrefused
  · exact ⟨doc, _, hdoc, ‹_›, of_decide_eq_true hrefused⟩
  · cases hrefused

/-- Two fields of one name are printed as one entry, and a schema that is refused with a line. -/
theorem json_output_of_sampleFiles :
    (∃ g, g.allFields.map (·.propertyName) = [Text.ofString "X", Text.ofString "\"\\\x01é😀"] ∧
      PrintsFragments { qualifier := "é::" } g
        (answer sampleFiles (jsonRequest "schema.json" (some "names.json")))) ∧
      Refuses "M.é: field numbers must be positive"
        (answer sampleFiles (jsonRequest "refused.json" none)) := by
  refine ⟨?_, ?_⟩
  · have hnames : loadNames sampleFiles (jsonRequest "schema.json" (some "names.json")) =
        .ok { qualifier := "é::" } := eq_ok_of_toOption (by decide +kernel)
    obtain ⟨doc, s, g, hdoc, hs, hg, hfields⟩ := @exists_of_sampleBuilds "schema.json"
      (fun g => decide
        (g.allFields.map (·.propertyName) = [Text.ofString "X", Text.ofString "\"\\\x01é😀"]))
      (by decide +kernel)
    exact ⟨g, of_decide_eq_true hfields, (json_output_faithful hnames hdoc).2.1 s g hs hg⟩
  · have hnames : loadNames sampleFiles (jsonRequest "refused.json" none) = .ok {} := rfl
    obtain ⟨doc, e, hdoc, he, hmessage⟩ := @exists_of_sampleRefused "refused.json"
      (Text.ofString "M.é: field numbers must be positive") (by decide +kernel)
    exact (json_output_faithful hnames hdoc).2.2 e _ he hmessage

/-- Two halves of a pair as names of the library. -/
def halvedNames : RuntimeNames where
  qualifier := [.half 0x3d]
  nullCheck := [.half 0x600]

/-- A message that holds half of a pair is not printed, and halves that meet in a null check are read
back as one character. -/
theorem json_output_loses_halves :
    (∃ doc e, load sampleFiles SchemaDoc.decode "half.json" = .ok doc ∧
      (doc.report {}).result = .error e ∧
        e.message? = some (Text.ofString "M.a: Unknown field type: " ++ [.half 0]) ∧
          (answer sampleFiles (jsonRequest "half.json" none)).output = "") ∧
      loadNames sampleFiles (jsonRequest "schema.json" (some "halves.json")) = .ok halvedNames ∧
        ∃ doc s g f fragments entries, load sampleFiles SchemaDoc.decode "schema.json" = .ok doc ∧
          doc.complete? = some s ∧ s.build.result = .ok g ∧ g.allFields.getLast? = some f ∧
            (f.sheet (g.settings { runtime := halvedNames })).Gives fragments ∧
              Json.read (answer sampleFiles (jsonRequest "schema.json" (some "halves.json"))).output =
                  .ok (.object entries) ∧
                Json.get? f.fullName entries ≠ some (Listing.fragmentsJson fragments) := by
  refine ⟨?_, ?_⟩
  · have hnames : loadNames sampleFiles (jsonRequest "half.json" none) = .ok {} := rfl
    obtain ⟨doc, e, hdoc, he, hmessage⟩ := @exists_of_sampleRefused "half.json"
      (Text.ofString "M.a: Unknown field type: " ++ [.half 0]) (by decide +kernel)
    refine ⟨doc, e, hdoc, he, hmessage, ?_⟩
    rw [answer_of_refused hnames hdoc he, refusal, hmessage]
    rfl
  · have hnames : loadNames sampleFiles (jsonRequest "schema.json" (some "halves.json")) =
        .ok halvedNames := eq_ok_of_toOption (by decide +kernel)
    obtain ⟨doc, s, g, hdoc, hs, hg, hlast⟩ := @exists_of_sampleBuilds "schema.json"
      (fun g => g.allFields.getLast?.any fun f =>
        (f.nullCheck (g.settings { runtime := halvedNames })).toOption.any fun t =>
          decide (Text.rejoined t ≠ t))
      (by decide +kernel)
    obtain ⟨f, hf, hnull⟩ := (Option.any_eq_true _ _).mp hlast
    obtain ⟨t, ht, hne⟩ := exists_of_toOption_any hnull
    obtain ⟨before, hfields⟩ := List.getLast?_eq_some_iff.mp hf
    obtain ⟨entries, hentries, hback⟩ := (printsFragments_of_build hnames hdoc rfl hs hg).readBack
    obtain ⟨fragments, hgives, hvalue, -⟩ := hback.values before f [] hfields List.not_mem_nil
    refine ⟨hnames, doc, s, g, f, fragments, entries, hdoc, hs, hg, hf, hgives, hentries, ?_⟩
    have hcheck : fragments.nullCheck = t := Except.ok.inj (hgives.nullCheck.symm.trans ht)
    rw [hvalue]
    intro heq
    refine of_decide_eq_true hne ?_
    rw [← hcheck]
    simpa [Listing.fragmentsJson, Fragments.rejoined] using heq

end Command

end FieldCode
