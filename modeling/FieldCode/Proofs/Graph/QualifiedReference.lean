import FieldCode.Proofs.Build.ScopeSearch
import FieldCode.Proofs.Graph.ClassName

/-!
# Qualified references

A relative reference with a dot names a type through another one: its first component is meant to
name a message, and the rest something inside it.  In a language with nested scopes the first
component decides: the innermost scope in which it names a message is the one that the whole
reference belongs to, and what is not there is missing.  The search does not look at components.
It tries the whole reference in each scope, and goes on to the outer ones when the message that the
first component names has nothing of the name inside (`shadowed_reference_goes_on`).

`qualified_reference_iff` says where the two readings agree.  The search leads to what the first
component decides exactly if the whole reference is registered in no scope further in, and, unless
it is registered in the deciding one, in none further out.  The first condition is always met where
declared names have no dots (`Schema.find?_eq_none_of_length_lt`), since what is registered inside
a type then shows that the type is a message.
-/

namespace FieldCode

/-! ## Lengths of names -/

theorem length_qualify_lt {p q : Text} (h : p.length < q.length) (name : Text) :
    (qualify p name).length < (qualify q name).length := by
  have hq : q ≠ [] := List.ne_nil_of_length_pos (Nat.zero_lt_of_lt h)
  rw [qualify, qualify, if_neg hq]
  split_ifs
  · simp only [List.length_append]
    have hpos := List.length_pos_iff.mpr hq
    omega
  · simp only [List.length_append]
    omega

theorem length_lt_qualify {scope name : Text} (h : qualify scope name ≠ []) :
    scope.length < (qualify scope name).length := by
  unfold qualify at h ⊢
  split_ifs at h ⊢ with hscope
  · rw [hscope]
    exact List.length_pos_iff.mpr h
  · have hone : (Text.ofString ".").length = 1 := rfl
    rw [List.length_append, List.length_append, hone]
    omega

theorem qualify_name_append (scope first rest : Text) :
    qualify scope (first ++ "." ++ rest) = qualify scope first ++ "." ++ rest := by
  unfold qualify
  split_ifs
  · rfl
  · simp only [List.append_assoc]

/-! ## The scope that decides -/

namespace Registry

variable {r : Registry}

/-- A message is registered under the full name. -/
def HasMessage (r : Registry) (fullName : Text) : Prop :=
  ∃ m ∈ r.messages, m.fullName = fullName

instance (r : Registry) (fullName : Text) : Decidable (r.HasMessage fullName) :=
  inferInstanceAs (Decidable (∃ m ∈ r.messages, m.fullName = fullName))

/-- A search leads to what is registered in one scope of the chain exactly if nothing is found
further in, and, should nothing be found there, nothing further out. -/
theorem resolve_eq_find?_iff {reference scope p : Text} {inner outer : List Text}
    (hdot : reference.head? ≠ some (.char '.')) (hchain : Scope.Chain scope (inner ++ p :: outer)) :
    r.resolve reference scope = r.find? (qualify p reference) ↔
      (∀ q ∈ inner, r.find? (qualify q reference) = none) ∧
        (r.find? (qualify p reference) = none →
          ∀ q ∈ outer, r.find? (qualify q reference) = none) := by
  have hlonger : ∀ q ∈ inner, p.length < q.length := fun q hq =>
    (List.pairwise_append.mp hchain.pairwise_length).2.2 q hq p (List.mem_cons_self ..)
  rw [resolve_of_relative r hdot, ← hchain.eq_outward, List.findSome?_append, List.findSome?_cons]
  cases hinner : inner.findSome? fun q => r.find? (qualify q reference) with
  | some d =>
    obtain ⟨q, hq, hd⟩ := List.exists_of_findSome?_eq_some hinner
    constructor
    · -- what is found further in has a longer full name
      intro h
      have hname := (fullName_of_find? hd).symm.trans (fullName_of_find? h.symm)
      exact absurd (congrArg List.length hname) (length_qualify_lt (hlonger q hq) reference).ne'
    · rintro ⟨hnone, -⟩
      exact nomatch hd.symm.trans (hnone q hq)
  | none =>
    rw [Option.none_or]
    have hnone := List.findSome?_eq_none_iff.mp hinner
    cases hp : r.find? (qualify p reference) with
    | some d => exact iff_of_true rfl ⟨hnone, fun h => nomatch h⟩
    | none =>
      exact List.findSome?_eq_none_iff.trans ⟨fun h => ⟨hnone, fun _ => h⟩, fun h => h.2 rfl⟩

end Registry

/-! ## Schemas without dots in names -/

/-- No declared name of a type has a dot. -/
structure Schema.NamesLackDots (s : Schema) : Prop where
  enums : ∀ e ∈ s.enums, Rune.char '.' ∉ e.name
  messages : ∀ p ∈ s.messageSites, Rune.char '.' ∉ p.decl.name
  nested : ∀ p ∈ s.messageSites, ∀ e ∈ p.decl.enums, Rune.char '.' ∉ e.name

/-- The scope is one that the schema declares something in: its package, or a message. -/
def Schema.Opens (s : Schema) (scope : Text) : Prop :=
  scope = s.package ∨ ∃ p ∈ s.messageSites, p.fullName = scope

mutual

/-- Inside a message, each declaration stands in the scope of another one. -/
theorem MessageDecl.scope_of_mem_walk {scope : Text} : ∀ (d : MessageDecl), ∀ p ∈ d.walk scope,
    p.scope = scope ∨ ∃ q ∈ d.walk scope, q.fullName = p.scope
  | ⟨name, fields, messages, enums⟩, p, hp => by
    rw [MessageDecl.walk, List.mem_cons] at hp
    rcases hp with rfl | hp
    · exact Or.inl rfl
    right
    rcases MessageDecl.scope_of_mem_walkAll messages p hp with heq | ⟨q, hq, heq⟩
    · exact ⟨_, List.mem_cons_self .., heq.symm⟩
    · exact ⟨q, List.mem_cons_of_mem _ hq, heq⟩

theorem MessageDecl.scope_of_mem_walkAll {scope : Text} : ∀ (ds : List MessageDecl),
    ∀ p ∈ MessageDecl.walkAll scope ds,
      p.scope = scope ∨ ∃ q ∈ MessageDecl.walkAll scope ds, q.fullName = p.scope
  | [], p, hp => by simp [MessageDecl.walkAll] at hp
  | d :: ds, p, hp => by
    rw [MessageDecl.walkAll, List.mem_append] at hp
    rcases hp with hp | hp
    · rcases MessageDecl.scope_of_mem_walk d p hp with heq | ⟨q, hq, heq⟩
      · exact Or.inl heq
      · exact Or.inr ⟨q, List.mem_append_left _ hq, heq⟩
    · rcases MessageDecl.scope_of_mem_walkAll ds p hp with heq | ⟨q, hq, heq⟩
      · exact Or.inl heq
      · exact Or.inr ⟨q, List.mem_append_right _ hq, heq⟩

end

namespace Schema

variable {s : Schema}

theorem opens_scope {p : MessageSite} (hp : p ∈ s.messageSites) : s.Opens p.scope :=
  MessageDecl.scope_of_mem_walkAll s.messages p hp

/-- A registered type has a name without dots in a scope that the schema opens. -/
theorem NamesLackDots.exists_opens (h : s.NamesLackDots) {d : Declared} (hd : d ∈ s.declared) :
    ∃ scope name, s.Opens scope ∧ Rune.char '.' ∉ name ∧ d.fullName = qualify scope name := by
  rw [Schema.declared_eq, List.mem_append] at hd
  rcases hd with hd | hd
  · obtain ⟨e, he, rfl⟩ := List.mem_map.mp hd
    exact ⟨s.package, e.name, Or.inl rfl, h.enums e he, rfl⟩
  · obtain ⟨p, hp, hd⟩ := List.mem_flatMap.mp hd
    rw [MessageSite.declared, List.mem_cons] at hd
    rcases hd with rfl | hd
    · exact ⟨p.scope, p.decl.name, opens_scope hp, h.messages p hp, rfl⟩
    · obtain ⟨e, he, rfl⟩ := List.mem_map.mp hd
      exact ⟨p.fullName, e.name, Or.inr ⟨p, hp, rfl⟩, h.nested p hp e he, rfl⟩

/-- What stands before a dot of a name is a scope the schema opens, or a part of the package. -/
theorem NamesLackDots.opens_of_qualify_eq (h : s.NamesLackDots) {scope name a b : Text}
    (hscope : s.Opens scope) (hname : Rune.char '.' ∉ name)
    (heq : qualify scope name = a ++ "." ++ b) :
    s.Opens a ∨ ∃ tail : Text, s.package = a ++ "." ++ tail := by
  have hdot : ∀ a b : Text, Rune.char '.' ∈ a ++ "." ++ b := fun a b =>
    List.mem_append_left _ (List.mem_append_right _ (List.mem_singleton_self _))
  -- on the way to the package, a scope is a name without dots in a shorter scope
  induction hn : scope.length using Nat.strong_induction_on generalizing scope name b with
  | _ n ih =>
    by_cases hempty : scope = []
    · rw [hempty, qualify_empty] at heq
      exact absurd (heq ▸ hdot a b) hname
    rw [qualify, if_neg hempty] at heq
    by_cases hsame : scope = a
    · exact Or.inl (hsame ▸ hscope)
    rcases exists_rest_of_append_dot_eq hsame heq with ⟨rest, -, hrest⟩ | ⟨rest, hrest, -⟩
    · exact absurd (hrest ▸ hdot rest b) hname
    rcases hscope with hpackage | ⟨p, hp, hfull⟩
    · exact Or.inr ⟨rest, hpackage ▸ hrest⟩
    · have hqualify : qualify p.scope p.decl.name = scope := hfull
      have hlt : p.scope.length < n := by
        rw [← hn, ← hqualify]
        exact length_lt_qualify (hqualify ▸ hempty)
      exact ih _ hlt (opens_scope hp) (h.messages p hp) (hqualify.trans hrest) rfl

/-- The package is shorter than the name of any registered message. -/
theorem length_package_lt {name : Text} (hne : name ≠ [])
    (h : (Registry.ofList s.declared).HasMessage name) : s.package.length < name.length := by
  obtain ⟨m, hm, rfl⟩ := h
  rcases isWithin_of_mem_declared (mem_messages_ofList.mp hm) with hpackage | ⟨rest, hprefix⟩
  · rw [hpackage]
    exact List.length_pos_iff.mpr hne
  · have hlength := congrArg List.length hprefix
    have hone : (Text.ofString ".").length = 1 := rfl
    rw [List.length_append, List.length_append, hone] at hlength
    show s.package.length < m.fullName.length
    have hsame : (Declared.message m).fullName = m.fullName := rfl
    rw [hsame] at hlength
    omega

/-- In a scope further in than the one that decides, nothing is registered under a qualified
reference. -/
theorem find?_eq_none_of_length_lt (hdots : s.NamesLackDots) {p q first rest : Text}
    (hne : first ≠ []) (hlt : p.length < q.length)
    (hp : (Registry.ofList s.declared).HasMessage (qualify p first))
    (hq : ¬ (Registry.ofList s.declared).HasMessage (qualify q first)) :
    (Registry.ofList s.declared).find? (qualify q (first ++ "." ++ rest)) = none := by
  rw [find?_ofList_eq_none_iff]
  intro d hd hname
  have hshort : s.package.length < (qualify q first).length := by
    have hpne : qualify p first ≠ [] := by
      unfold qualify
      split_ifs <;> simp [hne]
    exact (length_package_lt hpne hp).trans (length_qualify_lt hlt first)
  obtain ⟨scope, name, hscope, hdot, hfull⟩ := hdots.exists_opens hd
  have hsplit : qualify scope name = qualify q first ++ "." ++ rest := by
    rw [← hfull, hname, qualify_name_append]
  rcases hdots.opens_of_qualify_eq hscope hdot hsplit with
    (hpackage | ⟨m, hm, hfull⟩) | ⟨tail, htail⟩
  · rw [hpackage] at hshort
    exact Nat.lt_irrefl _ hshort
  · refine hq ⟨m.names, mem_messages_ofList.mpr ?_, hfull⟩
    rw [Schema.declared_eq]
    exact List.mem_append_right _ (List.mem_flatMap.mpr ⟨m, hm, List.mem_cons_self ..⟩)
  · have hlength := congrArg List.length htail
    rw [List.length_append, List.length_append] at hlength
    omega

end Schema

/-! ## Both readings -/

/-- **Where the first component decides.**  Let `p` be the innermost scope of the chain in which
the first component of a qualified reference names a message.  The search leads to what is
registered under the reference in `p` exactly if nothing is registered under it further in, and,
unless something is in `p`, nothing further out.  If no declared name has a dot, only what is
further out matters. -/
theorem qualified_reference_iff (r : Registry) {scope p first : Text} {inner outer : List Text}
    (rest : Text) (hne : first ≠ []) (hdot : Rune.char '.' ∉ first)
    (hchain : Scope.Chain scope (inner ++ p :: outer)) (hp : r.HasMessage (qualify p first))
    (hinner : ∀ q ∈ inner, ¬ r.HasMessage (qualify q first)) :
    (r.resolve (first ++ "." ++ rest) scope = r.find? (qualify p (first ++ "." ++ rest)) ↔
      (∀ q ∈ inner, r.find? (qualify q (first ++ "." ++ rest)) = none) ∧
        (r.find? (qualify p (first ++ "." ++ rest)) = none →
          ∀ q ∈ outer, r.find? (qualify q (first ++ "." ++ rest)) = none)) ∧
      ∀ s : Schema, s.NamesLackDots → r = .ofList s.declared →
        (r.resolve (first ++ "." ++ rest) scope = r.find? (qualify p (first ++ "." ++ rest)) ↔
          (r.find? (qualify p (first ++ "." ++ rest)) = none →
            ∀ q ∈ outer, r.find? (qualify q (first ++ "." ++ rest)) = none)) := by
  have hrelative : (first ++ "." ++ rest : Text).head? ≠ some (.char '.') := by
    obtain ⟨c, cs, rfl⟩ := List.exists_cons_of_ne_nil hne
    rw [List.cons_append, List.cons_append, List.head?_cons, Ne, Option.some.injEq]
    rintro rfl
    exact hdot (List.mem_cons_self ..)
  have hiff := Registry.resolve_eq_find?_iff (r := r) hrelative hchain
  refine ⟨hiff, ?_⟩
  rintro s hdots rfl
  refine hiff.trans (and_iff_right fun q hq => ?_)
  have hlonger : p.length < q.length :=
    (List.pairwise_append.mp hchain.pairwise_length).2.2 q hq p (List.mem_cons_self ..)
  exact Schema.find?_eq_none_of_length_lt hdots hne hlonger hp (hinner q hq)

/-- Two messages of one name, one of them inside a message that refers to what the other one
declares; `inside` is what the nearer one declares. -/
def Schema.twofold (inside : List MessageDecl) : Schema where
  messages :=
    [{ name := "A"
       messages :=
         [{ name := "B", messages := inside },
          { name := "X"
            fields :=
              [{ name := "c", number := 1, type := "message", typeName := some "B.C" }] }] },
     { name := "B", messages := [{ name := "C" }] }]

/-- In particular the nearer message decides if it declares what is referred to. -/
theorem twofold_nearer_decides :
    let r := Registry.ofList (Schema.twofold [{ name := "C" }]).declared
    (Schema.twofold [{ name := "C" }]).NamesLackDots ∧ r.HasMessage "A.B" ∧
      r.find? "B.C" = some (.message ⟨"C", "B.C"⟩) ∧
        r.resolve "B.C" "A.X" = some (.message ⟨"C", "A.B.C"⟩) := by
  intro r
  have hdots : (Schema.twofold [{ name := "C" }]).NamesLackDots :=
    ⟨by decide +kernel, by decide +kernel, by decide +kernel⟩
  have hchain : Scope.Chain "A.X" ([Text.ofString "A.X"] ++ Text.ofString "A" :: [[]]) :=
    @Scope.Chain.within "A" "X" _ (by decide) (.outermost (by decide) (by decide))
  have hmessage : r.HasMessage (qualify "A" "B") := by decide +kernel
  obtain ⟨-, hiff⟩ := qualified_reference_iff r "C" (by decide) (by decide) hchain hmessage
    (by decide +kernel)
  have hfound : r.find? "A.B.C" = some (.message ⟨"C", "A.B.C"⟩) := by decide +kernel
  refine ⟨hdots, hmessage, by decide +kernel, ?_⟩
  refine ((hiff _ hdots rfl).mpr fun hnone => ?_).trans hfound
  exact absurd (hfound.symm.trans hnone) (by decide)

/-- If it does not, the schema builds nonetheless, and the field has what the other message
declares, although the first component names the nearer one. -/
theorem shadowed_reference_goes_on :
    let r := Registry.ofList (Schema.twofold []).declared
    Scope.Chain "A.X" ["A.X", "A", []] ∧ ¬ r.HasMessage "A.X.B" ∧ r.HasMessage "A.B" ∧
      r.find? "A.B.C" = none ∧ r.resolve "B.C" "A.X" = some (.message ⟨"C", "B.C"⟩) ∧
        ∃ g, (Schema.twofold []).build.result = .ok g ∧
          g.allFields.map (·.messageType) = [some ⟨"C", "B.C"⟩] := by
  obtain ⟨g, hg, htest⟩ := Schema.exists_of_buildPasses (s := Schema.twofold [])
    (t := fun g => decide (g.allFields.map (·.messageType) = [some ⟨"C", "B.C"⟩]))
    (by decide +kernel)
  exact ⟨@Scope.Chain.within "A" "X" _ (by decide) (.outermost (by decide) (by decide)),
    by decide +kernel, by decide +kernel, by decide +kernel, by decide +kernel, g, hg,
    of_decide_eq_true htest⟩

end FieldCode
