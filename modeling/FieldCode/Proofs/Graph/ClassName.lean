import FieldCode.Fragment
import FieldCode.Proofs.Build.Outcome

/-!
# Class names tell types apart

A class name is made of a full name in three steps: the package is taken off, the dots are nested,
and the scope of the file goes in front.  The middle step can be undone on every text, since the
first rune of its result decides which rune it came from.  The first step can be undone on names
that stand within the package, and all registered names do (`Schema.isWithin_of_mem_declared`).

With the distinct full names of a built graph this gives `Schema.BuildsTo.filter_types` and
`Schema.BuildsTo.filter_messages`: one type, and at most one message, has a given class name.
-/

namespace FieldCode

/-! ## Undoing the three steps -/

theorem nestTypes_cons (r : Rune) (t : Text) :
    nestTypes (r :: t) = r :: ((if r = .char '.' then "Types." else [] : Text) ++ nestTypes t) := by
  by_cases h : r = .char '.'
  · rw [if_pos h, nestTypes, List.flatMap_cons, if_pos h, h]
    rfl
  · rw [if_neg h, nestTypes, List.flatMap_cons, if_neg h]
    rfl

theorem nestTypes_injective : Function.Injective nestTypes := by
  intro a
  induction a with
  | nil =>
    intro b h
    cases b with
    | nil => rfl
    | cons r t => rw [nestTypes_cons] at h; cases h
  | cons r t ih =>
    intro b h
    cases b with
    | nil => rw [nestTypes_cons] at h; cases h
    | cons r' t' =>
      rw [nestTypes_cons, nestTypes_cons] at h
      obtain ⟨rfl, htail⟩ := List.cons.inj h
      rw [ih (List.append_cancel_left htail)]

/-- The name stands within the package. -/
def IsWithin (package name : Text) : Prop :=
  package = [] ∨ (package ++ "." : Text) <+: name

/-- What is declared in the package, or in a scope within it, stands within the package. -/
theorem isWithin_qualify {package scope : Text} (h : scope = package ∨ IsWithin package scope)
    (name : Text) : IsWithin package (qualify scope name) := by
  by_cases hp : package = []
  · exact Or.inl hp
  · right
    rcases h with rfl | hempty | hprefix
    · rw [qualify, if_neg hp]
      exact List.prefix_append _ _
    · exact absurd hempty hp
    · have hne : scope ≠ [] := by
        rintro rfl
        exact hp (List.append_eq_nil_iff.mp (List.prefix_nil.mp hprefix)).1
      rw [qualify, if_neg hne, List.append_assoc]
      exact hprefix.trans (List.prefix_append _ _)

theorem relativeName_injOn {package a b : Text} (ha : IsWithin package a) (hb : IsWithin package b)
    (h : relativeName package a = relativeName package b) : a = b := by
  by_cases hp : package = []
  · rwa [relativeName, if_pos hp, relativeName, if_pos hp] at h
  · obtain ⟨a', rfl⟩ := ha.resolve_left hp
    obtain ⟨b', rfl⟩ := hb.resolve_left hp
    have hlength : package.length + 1 = (package ++ (Text.ofString ".")).length := by
      rw [List.length_append]
      rfl
    rw [relativeName, if_neg hp, relativeName, if_neg hp, hlength, List.drop_left,
      List.drop_left] at h
    rw [h]

theorem classNameOf_injOn {package a b : Text} {o : FileOptions} (ha : IsWithin package a)
    (hb : IsWithin package b) (h : classNameOf package o a = classNameOf package o b) : a = b := by
  unfold classNameOf at h
  exact relativeName_injOn ha hb (nestTypes_injective (List.append_cancel_left h))

/-- Class names depend on the package and the options of a graph alone. -/
theorem Graph.className_congr {g g' : Graph} (hpackage : g'.package = g.package)
    (hoptions : g'.options = g.options) : g'.className = g.className := by
  funext t
  rw [Graph.className, Graph.className, hpackage, hoptions]

theorem Graph.settings_congr {g g' : Graph} (hpackage : g'.package = g.package)
    (hoptions : g'.options = g.options) (style : Style) :
    g'.settings style = g.settings style := by
  rw [Graph.settings, Graph.settings, Graph.className_congr hpackage hoptions, hoptions]

/-! ## Registered names stand within the package -/

mutual

theorem MessageDecl.isWithin_scope_of_mem_walk {package scope : Text}
    (h : scope = package ∨ IsWithin package scope) :
    ∀ d : MessageDecl, ∀ p ∈ d.walk scope, p.scope = package ∨ IsWithin package p.scope
  | ⟨name, fields, messages, enums⟩, p, hp => by
    rw [MessageDecl.walk, List.mem_cons] at hp
    rcases hp with rfl | hp
    · exact h
    · exact MessageDecl.isWithin_scope_of_mem_walkAll (Or.inr (isWithin_qualify h name)) messages
        p hp

theorem MessageDecl.isWithin_scope_of_mem_walkAll {package scope : Text}
    (h : scope = package ∨ IsWithin package scope) :
    ∀ ds : List MessageDecl, ∀ p ∈ MessageDecl.walkAll scope ds,
      p.scope = package ∨ IsWithin package p.scope
  | [], p, hp => by simp [MessageDecl.walkAll] at hp
  | d :: ds, p, hp => by
    rw [MessageDecl.walkAll, List.mem_append] at hp
    rcases hp with hp | hp
    · exact MessageDecl.isWithin_scope_of_mem_walk h d p hp
    · exact MessageDecl.isWithin_scope_of_mem_walkAll h ds p hp

end

theorem Schema.isWithin_of_mem_declared {s : Schema} {d : Declared} (h : d ∈ s.declared) :
    IsWithin s.package d.fullName := by
  rw [Schema.declared_eq, List.mem_append] at h
  rcases h with h | h
  · obtain ⟨e, -, rfl⟩ := List.mem_map.mp h
    exact isWithin_qualify (Or.inl rfl) e.name
  · obtain ⟨p, hp, hd⟩ := List.mem_flatMap.mp h
    have hname : IsWithin s.package p.fullName :=
      isWithin_qualify (MessageDecl.isWithin_scope_of_mem_walkAll (Or.inl rfl) s.messages p hp) _
    rw [MessageSite.declared, List.mem_cons] at hd
    rcases hd with rfl | hd
    · exact hname
    · obtain ⟨e, -, rfl⟩ := List.mem_map.mp hd
      exact isWithin_qualify (Or.inr hname) e.name

/-! ## One type for each class name -/

/-- In a list whose elements have different keys, one element has the key of a given one. -/
theorem filter_eq_singleton_of_nodup_map {α β : Type} [DecidableEq β] (key : α → β) {as : List α}
    (h : (as.map key).Nodup) {a : α} (ha : a ∈ as) : as.filter (fun b => key b = key a) = [a] := by
  induction as with
  | nil => simp at ha
  | cons b bs ih =>
    rw [List.map_cons, List.nodup_cons] at h
    rw [List.mem_cons] at ha
    rcases ha with rfl | ha
    · have hnone : bs.filter (fun b => key b = key a) = [] := by
        rw [List.filter_eq_nil_iff]
        intro b hb hkey
        exact h.1 (of_decide_eq_true hkey ▸ List.mem_map_of_mem hb)
      rw [List.filter_cons_of_pos (by simp), hnone]
    · have hne : key b ≠ key a := fun hkey => h.1 (hkey ▸ List.mem_map_of_mem ha)
      rw [List.filter_cons_of_neg (by simpa using hne)]
      exact ih h.2 ha

/-- The class name of a registered type. -/
def Graph.classOf (g : Graph) (d : Declared) : Text :=
  g.className d.names

/-- The classes of some messages are among the classes of the types that they hold. -/
theorem Graph.message_classes_sublist (g : Graph) (ms : List MessageType) :
    (ms.map fun m => g.className m.toTypeName).Sublist
      ((ms.flatMap MessageType.ownTypes).map g.classOf) := by
  induction ms with
  | nil => exact List.Sublist.refl _
  | cons m ms ih =>
    rw [List.flatMap_cons, MessageType.ownTypes, List.cons_append, List.map_cons, List.map_cons,
      List.map_append]
    exact (ih.trans (List.sublist_append_right _ _)).cons_cons _

namespace Schema.BuildsTo

variable {s : Schema} {g : Graph}

/-- Types of the graph with one class name are one type. -/
theorem classOf_injOn (h : s.BuildsTo g) {d d' : Declared} (hd : d ∈ g.types) (hd' : d' ∈ g.types)
    (heq : g.classOf d = g.classOf d') : d = d' := by
  have hwithin : ∀ {d}, d ∈ g.types → IsWithin g.package d.fullName := fun hd => by
    rw [h.package]
    exact isWithin_of_mem_declared (h.types_eq ▸ hd)
  exact List.inj_on_of_nodup_map h.nodup_types hd hd'
    (classNameOf_injOn (hwithin hd) (hwithin hd') heq)

theorem nodup_classes (h : s.BuildsTo g) : (g.types.map g.classOf).Nodup :=
  h.nodup_types.of_map.map_on fun _ hd _ hd' heq => h.classOf_injOn hd hd' heq

theorem filter_types (h : s.BuildsTo g) {d : Declared} (hd : d ∈ g.types) :
    g.types.filter (fun d' => g.classOf d' = g.classOf d) = [d] :=
  filter_eq_singleton_of_nodup_map g.classOf h.nodup_classes hd

theorem nodup_message_classes (h : s.BuildsTo g) :
    (g.allMessages.map fun m => g.className m.toTypeName).Nodup := by
  refine h.nodup_classes.sublist ((g.message_classes_sublist g.allMessages).trans ?_)
  rw [Graph.types, List.map_append]
  exact List.sublist_append_right _ _

theorem filter_messages (h : s.BuildsTo g) {m : MessageType} (hm : m ∈ g.allMessages) :
    g.allMessages.filter (fun m' => g.className m'.toTypeName = g.className m.toTypeName) = [m] :=
  filter_eq_singleton_of_nodup_map (fun m => g.className m.toTypeName) h.nodup_message_classes hm

/-- Messages of a built graph with one full name are one message. -/
theorem message_injOn (h : s.BuildsTo g) {m m' : MessageType} (hm : m ∈ g.allMessages)
    (hm' : m' ∈ g.allMessages) (heq : m'.fullName = m.fullName) : m' = m := by
  refine List.inj_on_of_nodup_map h.nodup_message_classes hm' hm ?_
  rw [Graph.className, Graph.className, heq]

end Schema.BuildsTo

end FieldCode
