import FieldCode.Command
import FieldCode.Proofs.Build.ScopeSearch
import FieldCode.Proofs.Graph.Mirror
import FieldCode.Proofs.Graph.WellTyped
import Mathlib.Data.List.Nodup

/-!
# One entry for each field

The machine-readable listing of a schema is an object whose keys are the full names of the fields.
An object holds each key once, so the listing has an entry for each field only if no two fields share
a full name, and a build does not see to that: it keeps apart the names of types and, within a
message, the numbers of fields, but not their names.

* `Json.keys_assemble`: the keys of an object that is assembled from members are those of the
  members, each once, in the order of their first mention.
* `Schema.NamesFieldsApart`: what the declarations must be like for full names of fields to be
  distinct.  Names within a message must differ, and a name with dots must not be that of a field
  further inside.
* `Graph.exists_jsonListing`: the listing of a graph that was built is never refused, and what its
  keys are.

`listing_complete_iff` puts them together, and `repeated_loses_entry` is a schema whose listing has
an entry less than it has fields.
-/

namespace FieldCode

/-! ## The keys of an object -/

section EraseDups

variable {α : Type} [BEq α] [LawfulBEq α]

theorem eraseDups_concat_of_mem {as : List α} {a : α} (h : a ∈ as) :
    (as ++ [a]).eraseDups = as.eraseDups := by
  rw [List.eraseDups_append]
  simp [List.removeAll, h]

theorem eraseDups_concat_of_notMem {as : List α} {a : α} (h : a ∉ as) :
    (as ++ [a]).eraseDups = as.eraseDups ++ [a] := by
  rw [List.eraseDups_append]
  simp [List.removeAll, h, List.eraseDups_cons]

theorem eraseDups_sublist (as : List α) : as.eraseDups.Sublist as := by
  induction as using List.reverseRecOn with
  | nil => exact List.Sublist.refl []
  | append_singleton as a ih =>
    by_cases h : a ∈ as
    · rw [eraseDups_concat_of_mem h]
      exact ih.trans (List.sublist_append_left as [a])
    · rw [eraseDups_concat_of_notMem h]
      exact ih.append (List.Sublist.refl [a])

theorem nodup_eraseDups (as : List α) : as.eraseDups.Nodup := by
  induction as using List.reverseRecOn with
  | nil => exact List.nodup_nil
  | append_singleton as a ih =>
    by_cases h : a ∈ as
    · rw [eraseDups_concat_of_mem h]
      exact ih
    · rw [eraseDups_concat_of_notMem h]
      refine ih.append (List.nodup_singleton a) ?_
      rw [List.disjoint_singleton, List.mem_eraseDups]
      exact h

/-- Dropping repetitions keeps the length exactly if there are none. -/
theorem length_eraseDups_eq_iff (as : List α) : as.eraseDups.length = as.length ↔ as.Nodup := by
  constructor
  · intro h
    rw [← (eraseDups_sublist as).eq_of_length h]
    exact nodup_eraseDups as
  · intro h
    have hsubset : as ⊆ as.eraseDups := fun a ha => List.mem_eraseDups.mpr ha
    exact le_antisymm (eraseDups_sublist as).length_le (h.subperm hsubset).length_le

end EraseDups

namespace Json

variable {α : Type}

theorem assemble_concat (ms : List (Text × α)) (m : Text × α) :
    assemble (ms ++ [m]) = put m.1 m.2 (assemble ms) := by
  rw [assemble, List.foldl_append]
  rfl

/-- The keys of an object are those of the members it is assembled from, each once. -/
theorem keys_assemble (ms : List (Text × α)) :
    (assemble ms).map (·.1) = (ms.map (·.1)).eraseDups := by
  induction ms using List.reverseRecOn with
  | nil => rfl
  | append_singleton ms m ih =>
    rw [assemble_concat, keys_put, ih, List.map_append, List.map_singleton]
    by_cases h : m.1 ∈ ms.map (·.1)
    · rw [if_pos (List.mem_eraseDups.mpr h), eraseDups_concat_of_mem h]
    · rw [if_neg (fun hm => h (List.mem_eraseDups.mp hm)), eraseDups_concat_of_notMem h]

theorem put_of_notMem {key : Text} {ms : List (Text × α)} (h : key ∉ ms.map (·.1)) (value : α) :
    put key value ms = ms ++ [(key, value)] := by
  induction ms with
  | nil => rfl
  | cons m ms ih =>
    rw [List.map_cons, List.mem_cons, not_or] at h
    rw [put, if_neg (Ne.symm h.1), ih h.2, List.cons_append]

theorem assemble_of_nodup {ms : List (Text × α)} (h : (ms.map (·.1)).Nodup) : assemble ms = ms := by
  induction ms using List.reverseRecOn with
  | nil => rfl
  | append_singleton ms m ih =>
    rw [List.map_append, List.map_singleton, List.nodup_append] at h
    obtain ⟨hms, -, hnew⟩ := h
    have hnotMem : m.1 ∉ ms.map (·.1) := fun hm => hnew m.1 hm m.1 (List.mem_singleton_self m.1) rfl
    rw [assemble_concat, ih hms, put_of_notMem hnotMem]

end Json

/-! ## The report of a graph -/

mutual

theorem MessageType.walk_entry (className : TypeName → Text) :
    ∀ m : MessageType, (m.entry className).walk = m.walk.map (·.entry className)
  | ⟨names, fields, messages, enums⟩ => by
    rw [MessageType.entry, MessageEntry.walk, MessageType.walk, List.map_cons, MessageType.entry,
      MessageType.walkAll_entries className messages]

theorem MessageType.walkAll_entries (className : TypeName → Text) :
    ∀ ms : List MessageType, MessageEntry.walkAll (MessageType.entries className ms) =
      (MessageType.walkAll ms).map (·.entry className)
  | [] => by
    rw [MessageType.entries, MessageEntry.walkAll, MessageType.walkAll, List.map_nil]
  | m :: ms => by
    rw [MessageType.entries, MessageEntry.walkAll, MessageType.walkAll, List.map_append,
      MessageType.walk_entry className m, MessageType.walkAll_entries className ms]

end

theorem Graph.allFields_report (g : Graph) (style : Style) :
    (g.report style).allFields = g.allFields.map Field.entry := by
  have hfields : ∀ m : MessageType, (m.entry g.className).fields = m.fields.map Field.entry := by
    intro m
    cases m
    rw [MessageType.entry]
  rw [Report.allFields, Report.allMessages, Graph.report, MessageType.walkAll_entries,
    List.flatMap_map, Graph.allFields, Graph.allMessages, List.map_flatMap]
  simp only [hfields]

theorem Field.sheet_entry (settings : Settings) (f : Field) :
    f.entry.sheet settings = f.sheet settings := by
  have hsource : f.entry.sourceName ≠ none := by
    unfold FieldEntry.sourceName Field.entry Field.target
    cases f.messageType with
    | none => cases f.kind <;> simp
    | some m => split <;> simp
  have hsettings : f.entry.settings settings = settings :=
    if_neg fun hmissing => by cases hmissing.1
  rw [FieldEntry.sheet, if_neg hsource, hsettings]
  rfl

theorem Field.exists_fragments {settings : Settings} {f : Field}
    (h : (f.sheet settings).Complete) : ∃ fragments, f.entry.fragments settings = .ok fragments := by
  obtain ⟨⟨name, hname⟩, ⟨type, htype⟩, ⟨typeName, htypeName⟩, ⟨default, hdefault⟩, ⟨size, hsize⟩,
    ⟨nullable, hnullable⟩, ⟨nullCheck, hnullCheck⟩, ⟨compliance, hcompliance⟩⟩ := h
  rw [FieldEntry.fragments, Field.sheet_entry]
  simp only [hname, htype, htypeName, hdefault, hsize, hnullable, hnullCheck, hcompliance]
  exact ⟨_, rfl⟩

namespace Listing

/-- The entry of a listing shows a field: it stands under the full name and holds the fragments. -/
def Shows (settings : Settings) (f : Field) (entry : Text × Json) : Prop :=
  entry.1 = f.fullName ∧
    ∃ fragments, f.entry.fragments settings = .ok fragments ∧ entry.2 = fragmentsJson fragments

theorem exists_fragmentsAll {settings : Settings} {fs : List Field}
    (h : ∀ f ∈ fs, ∃ fragments, f.entry.fragments settings = .ok fragments) :
    ∃ shown, fragmentsAll settings (fs.map Field.entry) = .ok shown ∧
      List.Forall₂ (Shows settings) fs (shown.map fun x => (x.1, fragmentsJson x.2)) := by
  induction fs with
  | nil => exact ⟨[], rfl, List.Forall₂.nil⟩
  | cons f fs ih =>
    rw [List.forall_mem_cons] at h
    obtain ⟨⟨fragments, hf⟩, hfs⟩ := h
    obtain ⟨shown, hshown, hshows⟩ := ih hfs
    refine ⟨(f.fullName, fragments) :: shown, ?_, ?_⟩
    · rw [List.map_cons, fragmentsAll, hf, hshown]
      rfl
    · rw [List.map_cons]
      exact List.Forall₂.cons ⟨rfl, fragments, hf, rfl⟩ hshows

theorem Shows.map_fst {settings : Settings} {fs : List Field} {entries : List (Text × Json)}
    (h : List.Forall₂ (Shows settings) fs entries) :
    entries.map (·.1) = fs.map (·.fullName) :=
  (map_eq_map_of_forall₂ h fun _ _ hf => hf.1.symm).symm

end Listing

/-- The listing of a graph that was built is the object of what shows its fields. -/
theorem Graph.exists_jsonListing {s : Schema} {g : Graph} (h : s.BuildsTo g) (style : Style) :
    ∃ members, List.Forall₂ (Listing.Shows (g.settings style)) g.allFields members ∧
      Command.jsonListing (g.report style) =
        [.ok (Json.toText (.object (Json.assemble members)) ++ "\n")] := by
  have hfragments : ∀ f ∈ g.allFields,
      ∃ fragments, f.entry.fragments (g.settings style) = .ok fragments := by
    intro f hf
    obtain ⟨k, hk⟩ := h.wellTyped hf
    exact Field.exists_fragments (hk.sheet_complete style)
  obtain ⟨shown, hshown, hshows⟩ := Listing.exists_fragmentsAll hfragments
  have hsettings : (g.report style).settings = g.settings style := rfl
  refine ⟨_, hshows, ?_⟩
  rw [Command.jsonListing, hsettings, g.allFields_report, hshown]
  rfl

/-! ## The full names of fields -/

/-- No two fields of the schema share a full name, in terms of what is declared. -/
structure Schema.NamesFieldsApart (s : Schema) : Prop where
  /-- The fields of a message have distinct names. -/
  inside : ∀ p ∈ s.messageSites, (p.decl.fields.map (·.name)).Nodup
  /-- No field has the name, dots and all, that a field of a message further inside has from
  there. -/
  across : ∀ p ∈ s.messageSites, ∀ q ∈ s.messageSites, ∀ rest : Text,
    q.fullName = p.fullName ++ "." ++ rest →
      ∀ f ∈ p.decl.fields, ∀ f' ∈ q.decl.fields, f.name ≠ rest ++ "." ++ f'.name

/-- Names without dots that are distinct within each message are enough. -/
theorem Schema.namesFieldsApart_of_notMem_dot {s : Schema}
    (hinside : ∀ p ∈ s.messageSites, (p.decl.fields.map (·.name)).Nodup)
    (hdot : ∀ p ∈ s.messageSites, ∀ f ∈ p.decl.fields, Rune.char '.' ∉ f.name) :
    s.NamesFieldsApart := by
  refine ⟨hinside, ?_⟩
  intro p hp q _ rest _ f hf f' _ hname
  have hmem : Rune.char '.' ∈ f.name := by
    rw [hname]
    exact List.mem_append_left _ (List.mem_append_right _ (List.mem_singleton_self _))
  exact hdot p hp f hf hmem

theorem MessageSite.map_fullName_fieldSites (p : MessageSite) :
    p.fieldSites.map FieldSite.fullName =
      (p.decl.fields.map (·.name)).map fun name => p.fullName ++ "." ++ name := by
  apply List.ext_getElem?
  intro i
  rw [List.getElem?_map, MessageSite.fieldSites, FieldSite.getElem?_ofFields, Option.map_map,
    List.getElem?_map, List.getElem?_map, Option.map_map]
  rfl

/-- The full names of all fields are distinct exactly if the declarations name them apart. -/
theorem Schema.nodup_fullName_sites_iff {s : Schema}
    (hnames : (s.messageSites.map MessageSite.fullName).Nodup) :
    (s.sites.map FieldSite.fullName).Nodup ↔ s.NamesFieldsApart := by
  have hinjective : ∀ scope : Text, Function.Injective fun name : Text => scope ++ "." ++ name :=
    fun scope => List.append_right_injective (scope ++ Text.ofString ".")
  rw [Schema.sites_eq, List.map_flatMap]
  simp only [MessageSite.map_fullName_fieldSites]
  rw [List.nodup_flatMap]
  constructor
  · rintro ⟨hinside, hacross⟩
    refine ⟨fun p hp => (hinside p hp).of_map _, ?_⟩
    intro p hp q hq rest hrest f hf f' hf' hname
    have hne : p ≠ q := by
      rintro rfl
      have hlength := congrArg List.length hrest
      simp [Text.ofString, Text.ofChars] at hlength
    have hsymm : Std.Symm (Function.onFun List.Disjoint fun p : MessageSite =>
        (p.decl.fields.map (·.name)).map fun name => p.fullName ++ "." ++ name) :=
      ⟨fun _ _ h => h.symm⟩
    refine hacross.forall hp hq hne (List.mem_map_of_mem (List.mem_map_of_mem hf)) ?_
    rw [hname, ← List.append_assoc, ← List.append_assoc, ← hrest]
    exact List.mem_map_of_mem (List.mem_map_of_mem hf')
  · rintro ⟨hinside, hacross⟩
    refine ⟨fun p hp => (hinside p hp).map (hinjective p.fullName), ?_⟩
    refine (List.pairwise_map.mp hnames).imp_of_mem ?_
    intro p q hp hq hne name hname hname'
    simp only [List.map_map, List.mem_map, Function.comp_apply] at hname hname'
    obtain ⟨f, hf, rfl⟩ := hname
    obtain ⟨f', hf', heq⟩ := hname'
    -- the messages differ, so one is inside the other, and the name in the outer one leads there
    rcases exists_rest_of_append_dot_eq hne heq.symm with
      ⟨rest, hrest, hsame⟩ | ⟨rest, hrest, hsame⟩
    · exact hacross p hp q hq rest hrest f hf f' hf' hsame
    · exact hacross q hq p hp rest hrest f' hf' f hf hsame

namespace Schema.BuildsTo

variable {s : Schema} {g : Graph}

theorem map_fullName_messageSites (h : s.BuildsTo g) :
    s.messageSites.map MessageSite.fullName = g.allMessages.map (·.fullName) :=
  map_eq_map_of_forall₂ h.messages fun _ _ hp => (congrArg TypeName.fullName hp.names).symm

/-- The full names of the fields of a graph are distinct exactly if the schema names them apart. -/
theorem nodup_allFields_iff (h : s.BuildsTo g) :
    (g.allFields.map (·.fullName)).Nodup ↔ s.NamesFieldsApart := by
  rw [← h.map_fullName_sites]
  exact Schema.nodup_fullName_sites_iff (h.map_fullName_messageSites ▸ h.nodup_allMessages)

end Schema.BuildsTo

/-! ## The listing -/

/-- **The listing has an entry for each field exactly if the schema names its fields apart.**  It is
always printed, and its keys are the full names of the fields, each once; so if two fields share one,
an entry is missing.  If no two do, the entries show the fields one by one. -/
theorem listing_complete_iff {s : Schema} {g : Graph} (h : s.build.result = .ok g) (style : Style) :
    ((g.allFields.map (·.fullName)).Nodup ↔ s.NamesFieldsApart) ∧
      ∃ entries, Command.jsonListing (g.report style) =
          [.ok (Json.toText (.object entries) ++ "\n")] ∧
        entries.map (·.1) = (g.allFields.map (·.fullName)).eraseDups ∧
          (entries.length = g.allFields.length ↔ s.NamesFieldsApart) ∧
            (s.NamesFieldsApart →
              List.Forall₂ (Listing.Shows (g.settings style)) g.allFields entries) := by
  have hb := Schema.buildsTo_of_build h
  have hnodup := hb.nodup_allFields_iff
  obtain ⟨members, hshows, hprinted⟩ := Graph.exists_jsonListing hb style
  have hmembers := Listing.Shows.map_fst hshows
  have hkeys : (Json.assemble members).map (·.1) = (g.allFields.map (·.fullName)).eraseDups := by
    rw [Json.keys_assemble, hmembers]
  refine ⟨hnodup, Json.assemble members, hprinted, hkeys, ?_, ?_⟩
  · have hlength : (g.allFields.map (·.fullName)).length = g.allFields.length := List.length_map _
    rw [← hnodup, ← length_eraseDups_eq_iff, ← hkeys, List.length_map, hlength]
  · intro hapart
    rw [Json.assemble_of_nodup (hmembers ▸ hnodup.mpr hapart)]
    exact hshows

/-- In particular the listing of the sample schema has an entry for each of its four fields. -/
theorem sample_listing_complete : ∃ g entries, Schema.sample.build.result = .ok g ∧
    Command.jsonListing (g.report {}) = [.ok (Json.toText (.object entries) ++ "\n")] ∧
      entries.length = g.allFields.length ∧
        List.Forall₂ (Listing.Shows (g.settings {})) g.allFields entries := by
  obtain ⟨g, hg, -⟩ := Schema.exists_of_buildPasses (s := Schema.sample) (t := fun _ => true)
    (by decide +kernel)
  have hapart : Schema.sample.NamesFieldsApart :=
    Schema.namesFieldsApart_of_notMem_dot (by decide +kernel) (by decide +kernel)
  obtain ⟨-, entries, hprinted, -, hlength, hshows⟩ := listing_complete_iff hg {}
  exact ⟨g, entries, hg, hprinted, hlength.mpr hapart, hshows hapart⟩

/-- A message with two fields of one name. -/
def Schema.repeated : Schema where
  package := "shop"
  messages :=
    [{ name := "M"
       fields := [{ name := "x", number := 1, type := "int32" },
                  { name := "x", number := 2, type := "string" }] }]

/-- The schema builds, and has two fields, but the listing has one entry. -/
theorem repeated_loses_entry : ∃ g entries, Schema.repeated.build.result = .ok g ∧
    g.allFields.map (·.fullName) = [Text.ofString "shop.M.x", Text.ofString "shop.M.x"] ∧
      ¬ (g.allFields.map (·.fullName)).Nodup ∧
        Command.jsonListing (g.report {}) = [.ok (Json.toText (.object entries) ++ "\n")] ∧
          entries.map (·.1) = [Text.ofString "shop.M.x"] := by
  obtain ⟨g, hg, htest⟩ := Schema.exists_of_buildPasses (s := Schema.repeated)
    (t := fun g => decide
      (g.allFields.map (·.fullName) = [Text.ofString "shop.M.x", Text.ofString "shop.M.x"]))
    (by decide +kernel)
  have hnames := of_decide_eq_true htest
  obtain ⟨members, hshows, hprinted⟩ := Graph.exists_jsonListing (Schema.buildsTo_of_build hg) {}
  refine ⟨g, Json.assemble members, hg, hnames, ?_, hprinted, ?_⟩
  · rw [hnames]
    decide
  · rw [Json.keys_assemble, Listing.Shows.map_fst hshows, hnames]
    decide

end FieldCode
