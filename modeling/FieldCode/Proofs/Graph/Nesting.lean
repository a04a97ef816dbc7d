import FieldCode.Proofs.Graph.Independence
import FieldCode.Proofs.Graph.Mirror

/-!
# Class names follow the nesting

A class name is cut out of a full name, and a full name is a text: no list of scopes is kept that
the class could be built from.  That the classes are nested as the types are rests on where the cut
falls.  All full names stand within the package, so the cut takes the package and the dot behind it,
whatever runes there are in the names (`relativeName_append`), and what is nested in a message adds a
dot and its own name behind the cut (`classNameOf_qualify`).

The one message out of line is one with an empty full name.  It adds nothing to the scope of what is
inside it, so its class and theirs stand side by side.

What is before the cut has no influence at all (`classNameOf_append`).  If a tree of declarations is
moved to another package, all its types keep their places in the list of types, and their full names
change in front only (`Schema.declared_moved`).

`class_names_follow_nesting` puts this together with the distinct full names of a built graph.
-/

namespace FieldCode

/-! ## Where the package is cut off -/

/-- What is added at the end of a name within the package stays when the package goes. -/
theorem relativeName_append {package name : Text} (h : IsWithin package name) (tail : Text) :
    relativeName package (name ++ tail) = relativeName package name ++ tail := by
  by_cases hp : package = []
  · rw [relativeName, if_pos hp, relativeName, if_pos hp]
  · have hlength : package.length + 1 ≤ name.length := by
      have hle := (h.resolve_left hp).length_le
      rwa [List.length_append] at hle
    rw [relativeName, if_neg hp, relativeName, if_neg hp, List.drop_append_of_le_length hlength]

theorem nestTypes_dot (name : Text) : nestTypes ("." ++ name) = ".Types." ++ nestTypes name := by
  rw [nestTypes_append]
  rfl

/-- The class of what stands in a named scope within the package is nested in that of the scope. -/
theorem classNameOf_qualify {package scope : Text} (h : IsWithin package scope) (hne : scope ≠ [])
    (o : FileOptions) (name : Text) :
    classNameOf package o (qualify scope name) =
      classNameOf package o scope ++ ".Types." ++ nestTypes name := by
  rw [qualify, if_neg hne, List.append_assoc, classNameOf, relativeName_append h, nestTypes_append,
    nestTypes_dot, classNameOf]
  simp only [List.append_assoc]

/-- The class of what stands in a named package does not depend on the name of the package. -/
theorem classNameOf_append {package : Text} (h : package ≠ []) (o : FileOptions) (tail : Text) :
    classNameOf package o (package ++ tail) =
      "global::" ++ o.classScope ++ nestTypes (tail.drop 1) := by
  rw [classNameOf, relativeName, if_neg h, ← List.drop_drop, List.drop_left]

/-! ## What a message holds -/

/-- The names of the types declared directly inside a message. -/
def MessageType.nested (m : MessageType) : List TypeName :=
  m.messages.map (·.toTypeName) ++ m.enums.map (·.toTypeName)

/-- Mirrored messages have their full names in the scope that they were declared in. -/
theorem MessageDecl.MirroredByAll.fullName_of_mem {scope : Text} {m : MessageType} :
    ∀ {ds : List MessageDecl} {ms : List MessageType}, MessageDecl.MirroredByAll scope ds ms →
      m ∈ ms → m.fullName = qualify scope m.name
  | _, _, .nil, hm => by simp at hm
  | _, _, .cons hd hds, hm => by
    rcases List.mem_cons.mp hm with rfl | hm
    · obtain ⟨hname, hfullName, -, -, -⟩ := hd
      rw [hfullName, hname]
    · exact MessageDecl.MirroredByAll.fullName_of_mem hds hm

theorem MessageDecl.MirroredBy.fullName_of_mem_nested {scope : Text} {d : MessageDecl}
    {m : MessageType} (h : d.MirroredBy scope m) {t : TypeName} (ht : t ∈ m.nested) :
    t.fullName = qualify m.fullName t.name := by
  obtain ⟨-, -, -, henums, hmessages⟩ := h
  rcases List.mem_append.mp ht with ht | ht
  · obtain ⟨n, hn, rfl⟩ := List.mem_map.mp ht
    exact hmessages.fullName_of_mem hn
  · obtain ⟨e, he, rfl⟩ := List.mem_map.mp ht
    obtain ⟨_, -, hmirror⟩ := exists_mem_of_forall₂ henums.flip he
    rw [hmirror.fullName, hmirror.name]

theorem Schema.exists_mirroredBy_of_build {s : Schema} {g : Graph} (h : s.build.result = .ok g)
    {m : MessageType} (hm : m ∈ g.allMessages) : ∃ p ∈ s.messageSites, p.MirroredBy m := by
  obtain ⟨-, hresolve⟩ := Schema.build_eq_ok_iff.mp h
  obtain ⟨ms, hms, rfl⟩ := Schema.resolve_eq_ok_iff.mp hresolve
  exact exists_mem_of_forall₂ (MessageDecl.mirroredByAll_of_resolveAll hms).forall₂_walkAll.flip hm

/-! ## One tree under two packages -/

/-- The types are one declaration under two packages. -/
inductive Declared.MovedTo (package package' : Text) : Declared → Declared → Prop
  | enum (name tail : Text) (members : List EnumMember) :
    MovedTo package package' (.enum ⟨⟨name, package ++ tail⟩, members⟩)
      (.enum ⟨⟨name, package' ++ tail⟩, members⟩)
  | message (name tail : Text) :
    MovedTo package package' (.message ⟨name, package ++ tail⟩)
      (.message ⟨name, package' ++ tail⟩)

section Moved

variable {package package' : Text}

/-- What is declared in scopes that differ in the package differs in the package. -/
theorem qualify_append (h : package ≠ []) (tail name : Text) :
    qualify (package ++ tail) name = package ++ (tail ++ "." ++ name) := by
  have hne : package ++ tail ≠ [] := fun hnil => h (List.append_eq_nil_iff.mp hnil).1
  rw [qualify, if_neg hne]
  simp only [List.append_assoc]

theorem EnumDecl.forall₂_movedTo (h : package ≠ []) (h' : package' ≠ []) (tail : Text)
    (ds : List EnumDecl) :
    List.Forall₂ (Declared.MovedTo package package')
      (ds.map fun d => .enum (d.toType (package ++ tail)))
      (ds.map fun d => .enum (d.toType (package' ++ tail))) := by
  rw [List.forall₂_map_left_iff, List.forall₂_map_right_iff, List.forall₂_same]
  intro d _
  rw [EnumDecl.toType, EnumDecl.toType, qualify_append h, qualify_append h']
  exact .enum ..

mutual

theorem MessageDecl.forall₂_movedTo (h : package ≠ []) (h' : package' ≠ []) (tail : Text) :
    ∀ d : MessageDecl, List.Forall₂ (Declared.MovedTo package package')
      (d.declared (package ++ tail)) (d.declared (package' ++ tail))
  | ⟨name, fields, messages, enums⟩ => by
    rw [MessageDecl.declared, MessageDecl.declared, qualify_append h, qualify_append h']
    exact List.Forall₂.cons (.message ..)
      (List.rel_append (EnumDecl.forall₂_movedTo h h' _ enums)
        (MessageDecl.forall₂_movedToAll h h' _ messages))

theorem MessageDecl.forall₂_movedToAll (h : package ≠ []) (h' : package' ≠ []) (tail : Text) :
    ∀ ds : List MessageDecl, List.Forall₂ (Declared.MovedTo package package')
      (MessageDecl.declaredAll (package ++ tail) ds) (MessageDecl.declaredAll (package' ++ tail) ds)
  | [] => by
    rw [MessageDecl.declaredAll, MessageDecl.declaredAll]
    exact List.Forall₂.nil
  | d :: ds => by
    rw [MessageDecl.declaredAll, MessageDecl.declaredAll]
    exact List.rel_append (MessageDecl.forall₂_movedTo h h' tail d)
      (MessageDecl.forall₂_movedToAll h h' tail ds)

end

end Moved

/-- If two schemas in named packages declare one tree of types, their types are the same but for the
package, in the same order. -/
theorem Schema.declared_moved {s s' : Schema} (hs : s.package ≠ []) (hs' : s'.package ≠ [])
    (htree : s'.withoutFields = { s.withoutFields with package := s'.package }) :
    List.Forall₂ (Declared.MovedTo s.package s'.package) s.declared s'.declared := by
  rw [← s.declared_withoutFields, ← s'.declared_withoutFields, htree, Schema.declared,
    Schema.declared]
  have henums := EnumDecl.forall₂_movedTo hs hs' [] s.enums
  have hmessages := MessageDecl.forall₂_movedToAll hs hs' [] s.withoutFields.messages
  simp only [List.append_nil] at henums hmessages
  exact List.rel_append henums hmessages

theorem Graph.classOf_eq_of_movedTo {g g' : Graph} (hg : g.package ≠ []) (hg' : g'.package ≠ [])
    (hoptions : g'.options = g.options) {d d' : Declared}
    (h : Declared.MovedTo g.package g'.package d d') : g'.classOf d' = g.classOf d := by
  have hclass : ∀ tail, classNameOf g'.package g'.options (g'.package ++ tail) =
      classNameOf g.package g.options (g.package ++ tail) := by
    intro tail
    rw [classNameOf_append hg, classNameOf_append hg', hoptions]
  cases h with
  | enum name tail members => exact hclass tail
  | message name tail => exact hclass tail

/-! ## The classes of a graph -/

theorem Schema.BuildsTo.nodup_classNames {s : Schema} {g : Graph} (h : s.BuildsTo g) :
    (g.typeNames.map g.className).Nodup := by
  have hwithin : ∀ t ∈ g.typeNames, IsWithin g.package t.fullName := by
    intro t ht
    have hmem : ∃ d ∈ g.types, d.names = t := by
      rcases List.mem_append.mp ht with ht | ht
      · obtain ⟨e, he, rfl⟩ := List.mem_map.mp ht
        exact ⟨.enum e, Graph.enum_mem_types.mpr he, rfl⟩
      · obtain ⟨m, hm, rfl⟩ := List.mem_map.mp ht
        exact ⟨.message m.toTypeName, Graph.message_mem_types.mpr ⟨m, hm, rfl⟩, rfl⟩
    obtain ⟨d, hd, rfl⟩ := hmem
    rw [h.package]
    exact Schema.isWithin_of_mem_declared (h.types_eq ▸ hd)
  refine h.nodup_typeNames.of_map.map_on fun t ht t' ht' heq => ?_
  exact List.inj_on_of_nodup_map h.nodup_typeNames ht ht'
    (classNameOf_injOn (hwithin t ht) (hwithin t' ht') heq)

/-- **Class names are distinct and follow the nesting**, whatever the package, the options and the
names are.  No two types of a built graph have one class name.  The class name of a type inside a
message is that of the message, the class for nested types and the name of the type, with its dots
nested.  And a tree of types that is moved from one named package to another keeps its class
names. -/
theorem class_names_follow_nesting {s : Schema} {g : Graph} (h : s.build.result = .ok g) :
    (g.typeNames.map g.className).Nodup ∧
      (∀ m ∈ g.allMessages, m.fullName ≠ [] → ∀ t ∈ m.nested,
        g.className t = g.className m.toTypeName ++ ".Types." ++ nestTypes t.name) ∧
      ∀ (s' : Schema) (g' : Graph), s'.build.result = .ok g' → s.package ≠ [] → s'.package ≠ [] →
        s'.withoutFields = { s.withoutFields with package := s'.package } →
          List.Forall₂ (fun d d' => Declared.MovedTo s.package s'.package d d' ∧
            g'.classOf d' = g.classOf d) g.types g'.types := by
  have hb := Schema.buildsTo_of_build h
  refine ⟨hb.nodup_classNames, ?_, ?_⟩
  · intro m hm hne t ht
    obtain ⟨p, -, hp⟩ := Schema.exists_mirroredBy_of_build h hm
    have hwithin : IsWithin g.package m.fullName := by
      rw [hb.package]
      have hmem : .message m.toTypeName ∈ s.declared :=
        hb.types_eq ▸ Graph.message_mem_types.mpr ⟨m, hm, rfl⟩
      exact Schema.isWithin_of_mem_declared hmem
    rw [Graph.className, MessageDecl.MirroredBy.fullName_of_mem_nested hp ht,
      classNameOf_qualify hwithin hne]
    rfl
  · intro s' g' h' hne hne' htree
    have hb' := Schema.buildsTo_of_build h'
    have hoptions : g'.options = g.options := by
      rw [hb.options, hb'.options]
      simpa [Schema.withoutFields] using congrArg Schema.options htree
    rw [hb.types_eq, hb'.types_eq]
    refine (Schema.declared_moved hne hne' htree).imp fun d d' hd => ⟨hd, ?_⟩
    rw [← hb.package, ← hb'.package] at hd
    exact Graph.classOf_eq_of_movedTo (hb.package ▸ hne) (hb'.package ▸ hne') hoptions hd

/-- The types of the sample schema in another package; the fields, one of which names the old
package, are not there. -/
def Schema.sampleMoved : Schema where
  package := "shop"
  enums := [⟨"Color", [⟨"RED", 0⟩, ⟨"BLUE", 7⟩]⟩]
  messages := [{ name := "Outer", messages := [{ name := "Inner" }] }]

/-- In particular the classes of the sample schema are distinct, what is inside its outer message is
nested there, and they stay as they are when the types are moved. -/
theorem sample_classes_follow_nesting : ∃ g g',
    Schema.sample.build.result = .ok g ∧ Schema.sampleMoved.build.result = .ok g' ∧
      Schema.sampleMoved.withoutFields =
        { Schema.sample.withoutFields with package := Schema.sampleMoved.package } ∧
      (g.typeNames.map g.className).Nodup ∧
      (∃ m ∈ g.allMessages, m.fullName = "a.b.Outer" ∧ m.nested ≠ [] ∧ ∀ t ∈ m.nested,
        g.className t = g.className m.toTypeName ++ ".Types." ++ nestTypes t.name) ∧
      List.Forall₂ (fun d d' => Declared.MovedTo "a.b" "shop" d d' ∧
        g'.classOf d' = g.classOf d) g.types g'.types := by
  obtain ⟨g, hg, hpasses⟩ := Schema.exists_of_buildPasses (s := Schema.sample)
    (t := fun g => g.allMessages.any fun m => m.fullName = "a.b.Outer" ∧ m.nested ≠ [])
    (by decide +kernel)
  obtain ⟨g', hg', -⟩ := Schema.exists_of_buildPasses (s := Schema.sampleMoved)
    (t := fun _ => true) (by decide +kernel)
  obtain ⟨m, hm, hpass⟩ := List.any_eq_true.mp hpasses
  obtain ⟨hname, hnested⟩ := of_decide_eq_true hpass
  have hne : m.fullName ≠ [] := by rw [hname]; decide
  obtain ⟨hnodup, hnesting, hmoved⟩ := class_names_follow_nesting hg
  exact ⟨g, g', hg, hg', rfl, hnodup, ⟨m, hm, hname, hnested, hnesting m hm hne⟩,
    hmoved Schema.sampleMoved g' hg' (by decide) (by decide) rfl⟩

end FieldCode
