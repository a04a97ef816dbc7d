import FieldCode.Proofs.Build.Extension
import FieldCode.Proofs.Build.ScopeSearch
import FieldCode.Proofs.Build.Validity
import FieldCode.Proofs.Graph.ClassName

/-!
# Adding a leaf

A leaf is a type at the top level of a schema whose name has no dot and inside which nothing is
declared.  Adding one to a schema that builds leaves every message as it was, as long as the new
schema builds too (`build_addsLeaf`).

The one thing that could change is a reference that is searched for outwards: the new name could
stand in its way.  The argument counts dots.  On its way out a search asks for names with fewer and
fewer dots (`Scope.dots_qualify_enclosing_lt`), and everything that is declared has at least the dots
that the package gives to the name of a leaf (`dots_qualify_le_of_isWithin`).  So a search that comes
to the name of a leaf is past all other names, and found nothing before.
-/

namespace FieldCode

/-! ## Counting dots -/

/-- The number of dots in a text. -/
def Text.dots (t : Text) : Nat :=
  t.count (.char '.')

@[simp]
theorem Text.dots_append (a b : Text) : Text.dots (a ++ b) = a.dots + b.dots :=
  List.count_append

@[simp]
theorem Text.dots_dot : Text.dots (Text.ofString ".") = 1 := by
  decide

/-- A name in a scope has the dots of both and the one between them. -/
theorem dots_qualify {scope : Text} (h : scope ≠ []) (name : Text) :
    (qualify scope name).dots = scope.dots + 1 + name.dots := by
  rw [qualify, if_neg h, Text.dots_append, Text.dots_append, Text.dots_dot]

/-- On the way out a search asks for names with fewer and fewer dots. -/
theorem Scope.dots_qualify_enclosing_lt {scope : Text} (h : scope ≠ []) (reference : Text) :
    (qualify (enclosing scope) reference).dots < (qualify scope reference).dots := by
  rw [dots_qualify h]
  by_cases houter : enclosing scope = []
  · rw [houter, qualify_empty]
    omega
  · have hdot : Rune.char '.' ∈ scope := by
      by_contra hdot
      exact houter (Scope.enclosing_of_notMem hdot)
    obtain ⟨rest, -, hrest⟩ := Scope.exists_last_component hdot
    have hdots : scope.dots = (enclosing scope).dots + 1 + rest.dots := by
      conv_lhs => rw [hrest]
      rw [Text.dots_append, Text.dots_append, Text.dots_dot]
    rw [dots_qualify houter, hdots]
    omega

/-- A name without dots has in a package no more dots than anything within the package. -/
theorem dots_qualify_le_of_isWithin {package name fullName : Text} (hdot : Rune.char '.' ∉ name)
    (h : IsWithin package fullName) : (qualify package name).dots ≤ fullName.dots := by
  have hname : name.dots = 0 := List.count_eq_zero.mpr hdot
  by_cases hp : package = []
  · rw [hp, qualify_empty, hname]
    exact Nat.zero_le _
  · obtain ⟨rest, rfl⟩ := h.resolve_left hp
    rw [dots_qualify hp, hname, Text.dots_append, Text.dots_append, Text.dots_dot]
    omega

/-! ## Schemas with a leaf more -/

/-- The schema is another one with a leaf more, at some place. -/
inductive Schema.AddsLeaf (s : Schema) : Schema → Prop
  | enum {before after : List EnumDecl} (leaf : EnumDecl) (hs : s.enums = before ++ after)
      (hdot : Rune.char '.' ∉ leaf.name) : AddsLeaf s { s with enums := before ++ leaf :: after }
  | message {before after : List MessageDecl} (leaf : MessageDecl)
      (hs : s.messages = before ++ after) (hdot : Rune.char '.' ∉ leaf.name)
      (hmessages : leaf.messages = []) (henums : leaf.enums = []) :
      AddsLeaf s { s with messages := before ++ leaf :: after }

/-- The walk over some messages and some more is that over the ones and that over the others. -/
theorem MessageDecl.walkAll_append (scope : Text) (ds ds' : List MessageDecl) :
    walkAll scope (ds ++ ds') = walkAll scope ds ++ walkAll scope ds' := by
  induction ds with
  | nil => rfl
  | cons d ds ih => rw [List.cons_append, walkAll, walkAll, ih, List.append_assoc]

theorem MessageDecl.walk_of_isLeaf {d : MessageDecl} (h : d.messages = []) (scope : Text) :
    d.walk scope = [⟨scope, d⟩] := by
  obtain ⟨name, fields, messages, enums⟩ := d
  rw [MessageDecl.walk, show messages = [] from h, MessageDecl.walkAll]

namespace Schema.AddsLeaf

variable {s s' : Schema}

theorem package_eq (h : s.AddsLeaf s') : s'.package = s.package := by
  cases h <;> rfl

theorem options_eq (h : s.AddsLeaf s') : s'.options = s.options := by
  cases h <;> rfl

theorem messages_subset (h : s.AddsLeaf s') : s.messages ⊆ s'.messages := by
  cases h with
  | enum => exact List.Subset.refl _
  | message leaf hs =>
    rw [hs]
    exact ((List.sublist_cons_self leaf _).append_left _).subset

/-- What is declared besides is one type, under a name without dots in the package. -/
theorem exists_mem_declared_iff (h : s.AddsLeaf s') : ∃ (leaf : Declared) (name : Text),
    Rune.char '.' ∉ name ∧ leaf.fullName = qualify s.package name ∧
      ∀ d, d ∈ s'.declared ↔ d = leaf ∨ d ∈ s.declared := by
  cases h with
  | enum leaf hs hdot =>
    refine ⟨.enum (leaf.toType s.package), leaf.name, hdot, rfl, fun d => ?_⟩
    rw [Schema.declared_eq, Schema.declared_eq, hs]
    simp only [List.map_append, List.map_cons, List.mem_append, List.mem_cons]
    show (_ ∨ _ ∨ _) ∨ d ∈ s.messageSites.flatMap _ ↔ _
    tauto
  | message leaf hs hdot hmessages henums =>
    refine ⟨.message (leaf.names s.package), leaf.name, hdot, rfl, fun d => ?_⟩
    have hleaf : MessageSite.declared ⟨s.package, leaf⟩ = [.message (leaf.names s.package)] := by
      rw [MessageSite.declared, henums]
      rfl
    rw [Schema.declared_eq, Schema.declared_eq, Schema.messageSites, Schema.messageSites, hs]
    simp only [MessageDecl.walkAll_append, MessageDecl.walkAll,
      MessageDecl.walk_of_isLeaf hmessages, List.flatMap_append, List.flatMap_cons,
      List.flatMap_nil, hleaf, List.mem_append, List.mem_cons, List.not_mem_nil]
    tauto

end Schema.AddsLeaf

/-! ## A leaf captures nothing -/

theorem Schema.Nearest.mem_declared {s : Schema} {reference scope : Text} {d : Declared}
    (h : s.Nearest reference scope d) : d ∈ s.declared := by
  induction h with
  | here hd _ => exact hd
  | outside _ _ _ ih => exact ih

/-- What a search finds has no more dots than the name it asks for first. -/
theorem Schema.Nearest.dots_le {s : Schema} {reference scope : Text} {d : Declared}
    (h : s.Nearest reference scope d) : d.fullName.dots ≤ (qualify scope reference).dots := by
  induction h with
  | here _ hname => exact Nat.le_of_eq (congrArg Text.dots hname)
  | outside hscope _ _ ih =>
    exact Nat.le_trans ih (Nat.le_of_lt (Scope.dots_qualify_enclosing_lt hscope reference))

namespace Schema.AddsLeaf

variable {s s' : Schema}

theorem nearest (h : s.AddsLeaf s') {reference scope : Text} {d : Declared}
    (hd : s.Nearest reference scope d) : s'.Nearest reference scope d := by
  obtain ⟨leaf, name, hdot, hleaf, hmem⟩ := h.exists_mem_declared_iff
  induction hd with
  | here hd hname => exact .here ((hmem _).mpr (Or.inr hd)) hname
  | @outside scope d hscope hnone hd ih =>
    refine .outside hscope (fun e he heq => ?_) ih
    rcases (hmem e).mp he with rfl | he
    · -- the search would have come to the leaf before something with at least as many dots
      have hmin := dots_qualify_le_of_isWithin hdot (Schema.isWithin_of_mem_declared hd.mem_declared)
      have hlt := Scope.dots_qualify_enclosing_lt hscope reference
      have hle := hd.dots_le
      rw [← hleaf, heq] at hmin
      omega
    · exact hnone e he heq

theorem refersTo (h : s.AddsLeaf s') {reference scope : Text} {d : Declared}
    (hd : s.RefersTo scope reference d) : s'.RefersTo scope reference d := by
  obtain ⟨_, _, -, -, hmem⟩ := h.exists_mem_declared_iff
  cases hd with
  | absolute hd hname => exact .absolute ((hmem _).mpr (Or.inr hd)) hname
  | relative hdot hd => exact .relative hdot (h.nearest hd)

theorem isExtendedBy (h : s.AddsLeaf s') (hnodup : (s.declared.map Declared.fullName).Nodup)
    (hnodup' : (s'.declared.map Declared.fullName).Nodup) :
    (Registry.ofList s.declared).IsExtendedBy (.ofList s'.declared) := fun hd =>
  (Registry.resolve_ofList_eq_some_iff hnodup').mpr
    (h.refersTo ((Registry.resolve_ofList_eq_some_iff hnodup).mp hd))

end Schema.AddsLeaf

/-! ## The graph with the leaf -/

theorem MessageType.walkAll_eq_flatMap (ms : List MessageType) :
    walkAll ms = ms.flatMap MessageType.walk := by
  induction ms with
  | nil => rfl
  | cons m ms ih => rw [walkAll, List.flatMap_cons, ih]

theorem Schema.AddsLeaf.allMessages_subset {s s' : Schema} {g g' : Graph} (h : s.AddsLeaf s')
    (hg : s.build.result = .ok g) (hg' : s'.build.result = .ok g') :
    g.allMessages ⊆ g'.allMessages := by
  have hextended : (Registry.ofList s.declared).IsExtendedBy (.ofList s'.declared) :=
    h.isExtendedBy (Schema.buildsTo_of_build hg).nodup (Schema.buildsTo_of_build hg').nodup
  obtain ⟨ms, hms, rfl⟩ := Schema.resolve_eq_ok_iff.mp (Schema.build_eq_ok_iff.mp hg).2
  obtain ⟨ms', hms', rfl⟩ := Schema.resolve_eq_ok_iff.mp (Schema.build_eq_ok_iff.mp hg').2
  rw [h.package_eq] at hms'
  have hkept := MessageDecl.resolveAll_eq_ok_iff.mp
    (MessageDecl.resolveAll_of_isExtendedBy hextended hms)
  have hsubset : ms ⊆ ms' := by
    intro m hm
    obtain ⟨d, hd, hdm⟩ := exists_mem_of_forall₂ hkept.flip hm
    obtain ⟨m', hm', hdm'⟩ := exists_mem_of_forall₂ (MessageDecl.resolveAll_eq_ok_iff.mp hms')
      (h.messages_subset hd)
    rw [hdm, Except.ok.injEq] at hdm'
    rwa [hdm']
  show MessageType.walkAll ms ⊆ MessageType.walkAll ms'
  rw [MessageType.walkAll_eq_flatMap, MessageType.walkAll_eq_flatMap]
  intro n hn
  obtain ⟨m, hm, hnm⟩ := List.mem_flatMap.mp hn
  exact List.mem_flatMap.mpr ⟨m, hsubset hm, hnm⟩

/-- **Adding a leaf leaves every message as it was.**  If a schema builds, and so does the schema
with a leaf more, each message of the first graph is the one message of its name in the second, with
all its fields, and the fragments of its fields are the same in every style. -/
theorem build_addsLeaf {s s' : Schema} {g g' : Graph} (h : s.AddsLeaf s')
    (hg : s.build.result = .ok g) (hg' : s'.build.result = .ok g') :
    ∀ m ∈ g.allMessages, m ∈ g'.allMessages ∧
      (∀ m' ∈ g'.allMessages, m'.fullName = m.fullName → m' = m) ∧
        ∀ style, m.fields.map (Field.sheet (g'.settings style)) =
          m.fields.map (Field.sheet (g.settings style)) := by
  intro m hm
  have hb := Schema.buildsTo_of_build hg
  have hb' := Schema.buildsTo_of_build hg'
  have hm' := h.allMessages_subset hg hg' hm
  refine ⟨hm', fun m' hmem heq => hb'.message_injOn hm' hmem heq, fun style => ?_⟩
  have hpackage : g'.package = g.package := by rw [hb'.package, hb.package, h.package_eq]
  have hoptions : g'.options = g.options := by rw [hb'.options, hb.options, h.options_eq]
  rw [Graph.settings_congr hpackage hoptions]

/-- A message that refers to another one by part of the package and its name. -/
def Schema.partlyQualified : Schema where
  package := "a.b"
  messages :=
    [{ name := "Left"
       fields := [{ name := "right", number := 1, type := "message",
                    typeName := some "b.Right" }] },
     { name := "Right" }]

/-- A leaf that is named like the part of the package. -/
def MessageDecl.namedLikePackage : MessageDecl where
  name := "b"
  fields := [{ name := "left", number := 1, type := "group", typeName := some "Left" }]

/-- The schema with the leaf between the two messages. -/
def Schema.partlyQualifiedWithLeaf : Schema :=
  { Schema.partlyQualified with
    messages := Schema.partlyQualified.messages.take 1 ++
      .namedLikePackage :: Schema.partlyQualified.messages.drop 1 }

/-- In particular the leaf does not take the reference to itself. -/
theorem partlyQualified_addsLeaf :
    ∃ g g', Schema.partlyQualified.AddsLeaf Schema.partlyQualifiedWithLeaf ∧
      Schema.partlyQualified.build.result = .ok g ∧
      Schema.partlyQualifiedWithLeaf.build.result = .ok g' ∧
      ∀ m ∈ g.allMessages, m ∈ g'.allMessages ∧
        (∀ m' ∈ g'.allMessages, m'.fullName = m.fullName → m' = m) ∧
          ∀ style, m.fields.map (Field.sheet (g'.settings style)) =
            m.fields.map (Field.sheet (g.settings style)) := by
  have hadds : Schema.partlyQualified.AddsLeaf Schema.partlyQualifiedWithLeaf :=
    .message .namedLikePackage (List.take_append_drop 1 _).symm (by decide) rfl rfl
  obtain ⟨g, hg, -⟩ := Schema.exists_of_buildPasses (s := Schema.partlyQualified)
    (t := fun _ => true) (by decide +kernel)
  obtain ⟨g', hg', -⟩ := Schema.exists_of_buildPasses (s := Schema.partlyQualifiedWithLeaf)
    (t := fun _ => true) (by decide +kernel)
  exact ⟨g, g', hadds, hg, hg', build_addsLeaf hadds hg hg'⟩

end FieldCode
