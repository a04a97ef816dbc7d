import FieldCode.Proofs.Build.Outcome
import Mathlib.Data.List.TakeWhile

/-!
# The search for a reference

A relative reference is looked up in the scope it is used in, then in the scope around that one,
and so on to the empty scope.  `Scope.Chain` lists these scopes by taking components off the end of
a name, without the search; `Scope.chain_outward` says that the search follows the list, so each
scope is tried once and the empty one last.

`Registry.Ends` is the search as a loop, with one constructor for each way through its body.  It
ends from every scope, whatever dots are in it, since a turn either decides or leaves a shorter
scope (`Registry.exists_ends`).  Where it ends is said by `Registry.FindsAt`: in the first scope of
the chain in which something is registered under the reference.

Names alone decide.  A registry that has other sorts of types under the same names leads to the
same name (`Registry.map_fullName_resolve_congr`), and a type of the wrong sort is not passed over:
the field is refused, whatever stands further out (`FieldSite.refused_of_not_suits`).
-/

namespace FieldCode

/-! ## The scopes around a scope -/

/-- If names in two scopes make one full name, one scope is inside the other, and the name in the
outer scope leads into the inner one. -/
theorem exists_rest_of_append_dot_eq {scope scope' name name' : Text} (hne : scope ≠ scope')
    (h : scope ++ "." ++ name = scope' ++ "." ++ name') :
    (∃ rest : Text, scope' = scope ++ "." ++ rest ∧ name = rest ++ "." ++ name') ∨
      ∃ rest : Text, scope = scope' ++ "." ++ rest ∧ name' = rest ++ "." ++ name := by
  have hdot : ∀ a b : Text, a ++ "." ++ b = a ++ Rune.char '.' :: b := by
    intro a b
    rw [List.append_assoc]
    rfl
  simp only [hdot] at h ⊢
  rcases List.append_eq_append_iff.mp h with ⟨cs, rfl, hcs⟩ | ⟨cs, rfl, hcs⟩
  · cases cs with
    | nil => exact absurd (List.append_nil scope).symm hne
    | cons c rest =>
      rw [List.cons_append, List.cons.injEq] at hcs
      obtain ⟨rfl, hname⟩ := hcs
      exact Or.inl ⟨rest, rfl, hname⟩
  · cases cs with
    | nil => exact absurd (List.append_nil scope') hne
    | cons c rest =>
      rw [List.cons_append, List.cons.injEq] at hcs
      obtain ⟨rfl, hname⟩ := hcs
      exact Or.inr ⟨rest, rfl, hname⟩

namespace Scope

/-- The scopes from a scope outwards: the scope, the scope without its last component, and so on to
the empty scope. -/
inductive Chain : Text → List Text → Prop
  | empty : Chain [] [[]]
  | outermost {scope : Text} (hne : scope ≠ []) (hdot : Rune.char '.' ∉ scope) :
      Chain scope [scope, []]
  | within {outer last : Text} {ps : List Text} (hdot : Rune.char '.' ∉ last)
      (h : Chain outer ps) : Chain (outer ++ "." ++ last) ((outer ++ "." ++ last) :: ps)

theorem bne_dot_of_mem_reverse {name : Text} (h : Rune.char '.' ∉ name) :
    ∀ r ∈ name.reverse, (r != Rune.char '.') = true := by
  intro r hr
  rw [bne_iff_ne]
  rintro rfl
  exact h (List.mem_reverse.mp hr)

theorem enclosing_of_notMem {scope : Text} (h : Rune.char '.' ∉ scope) : enclosing scope = [] := by
  rw [enclosing, List.dropWhile_eq_nil_iff.mpr (bne_dot_of_mem_reverse h)]
  rfl

/-- Around a scope of more components is the scope without the last one. -/
theorem enclosing_append {outer last : Text} (h : Rune.char '.' ∉ last) :
    enclosing (outer ++ "." ++ last) = outer := by
  have hreverse : (outer ++ "." ++ last : Text).reverse =
      last.reverse ++ .char '.' :: outer.reverse := by
    rw [List.reverse_append, List.reverse_append]
    rfl
  rw [enclosing, hreverse, List.dropWhile_append_of_pos (bne_dot_of_mem_reverse h),
    List.dropWhile_cons_of_neg (by decide)]
  exact List.reverse_reverse outer

/-- A scope with a dot is the scope around it, a dot and a last component. -/
theorem exists_last_component {scope : Text} (h : Rune.char '.' ∈ scope) :
    ∃ last : Text, Rune.char '.' ∉ last ∧ scope = enclosing scope ++ "." ++ last := by
  obtain ⟨last, outer, hsplit, hdot⟩ := List.eq_append_cons_of_mem (List.mem_reverse.mpr h)
  have hscope : scope = outer.reverse ++ "." ++ last.reverse := by
    rw [← List.reverse_reverse scope, hsplit, List.reverse_append, List.reverse_cons]
    rfl
  have hlast : Rune.char '.' ∉ last.reverse := fun hmem => hdot (List.mem_reverse.mp hmem)
  refine ⟨last.reverse, hlast, ?_⟩
  conv_rhs => rw [hscope, enclosing_append hlast]
  exact hscope

theorem chain_outward (scope : Text) : Chain scope (outward scope) := by
  fun_induction outward scope with
  | case1 => exact .empty
  | case2 scope hne ih =>
    by_cases hdot : Rune.char '.' ∈ scope
    · obtain ⟨last, hlast, hscope⟩ := exists_last_component hdot
      have hchain := Chain.within hlast ih
      rwa [← hscope] at hchain
    · rw [enclosing_of_notMem hdot, outward_nil]
      exact .outermost hne hdot

namespace Chain

variable {scope : Text} {ps : List Text}

/-- A scope has one chain. -/
theorem eq_outward (h : Chain scope ps) : ps = outward scope := by
  induction h with
  | empty => exact outward_nil.symm
  | outermost hne hdot => rw [outward_of_ne_nil hne, enclosing_of_notMem hdot, outward_nil]
  | @within outer last ps hdot h ih =>
    have hne : (outer ++ "." ++ last : Text) ≠ [] := by simp [Text.ofString, Text.ofChars]
    rw [outward_of_ne_nil hne, enclosing_append hdot, ih]

theorem length_le (h : Chain scope ps) : ∀ p ∈ ps, p.length ≤ scope.length := by
  induction h with
  | empty => simp
  | outermost hne hdot => simp
  | @within outer last ps hdot h ih =>
    intro p hp
    rcases List.mem_cons.mp hp with rfl | hp
    · exact Nat.le_refl _
    · have hle := ih p hp
      rw [List.length_append, List.length_append]
      omega

theorem pairwise_length (h : Chain scope ps) : ps.Pairwise fun p q => q.length < p.length := by
  induction h with
  | empty => exact List.pairwise_singleton _ _
  | outermost hne hdot => simp [List.length_pos_iff.mpr hne]
  | @within outer last ps hdot h ih =>
    refine List.pairwise_cons.mpr ⟨fun p hp => ?_, ih⟩
    have hle := h.length_le p hp
    have hone : (Text.ofString ".").length = 1 := rfl
    rw [List.length_append, List.length_append, hone]
    omega

/-- The empty scope comes once. -/
theorem count_empty (h : Chain scope ps) : ps.count [] = 1 := by
  refine List.count_eq_one_of_mem (h.pairwise_length.imp fun hlt => ?_) ?_
  · rintro rfl
    exact Nat.lt_irrefl _ hlt
  · rw [h.eq_outward]
    exact List.mem_of_getLast? (getLast?_outward scope)

end Chain

end Scope

/-! ## The search -/

namespace Registry

variable {r r' : Registry} {reference scope : Text}

theorem fullName_of_find? {name : Text} {d : Declared} (h : r.find? name = some d) :
    d.fullName = name := by
  unfold find? at h
  cases hm : r.messages.find? fun m => m.fullName == name with
  | some m =>
    rw [hm, Option.some.injEq] at h
    have hname := List.find?_some (p := fun m : TypeName => m.fullName == name) hm
    rw [← h]
    exact eq_of_beq hname
  | none =>
    rw [hm] at h
    obtain ⟨e, he, rfl⟩ := Option.map_eq_some_iff.mp h
    have hname := List.find?_some (p := fun e : EnumType => e.fullName == name) he
    exact eq_of_beq hname

/-- A relative reference is searched for along the chain of scopes. -/
theorem resolve_of_relative (r : Registry) (hdot : reference.head? ≠ some (.char '.'))
    (scope : Text) : r.resolve reference scope =
      (Scope.outward scope).findSome? fun p => r.find? (qualify p reference) := by
  unfold resolve
  split
  · exact absurd rfl hdot
  · rfl

/-- The search as a loop: from a scope it ends, after so many turns, with a result. -/
inductive Ends (r : Registry) (reference : Text) : Text → Nat → Option Declared → Prop
  /-- The type is registered here. -/
  | found {scope : Text} {d : Declared} (h : r.find? (qualify scope reference) = some d) :
      Ends r reference scope 1 (some d)
  /-- Nothing is registered here, and nothing is around this scope. -/
  | exhausted (h : r.find? (qualify [] reference) = none) : Ends r reference [] 1 none
  /-- Nothing is registered here, and the loop goes on from the scope around this one. -/
  | outwards {scope : Text} {n : Nat} {result : Option Declared} (hne : scope ≠ [])
      (h : r.find? (qualify scope reference) = none)
      (hrest : Ends r reference (Scope.enclosing scope) n result) :
      Ends r reference scope (n + 1) result

theorem ends_iff_of_some {d : Declared} (h : r.find? (qualify scope reference) = some d) {n : Nat}
    {result : Option Declared} : r.Ends reference scope n result ↔ n = 1 ∧ result = some d := by
  constructor
  · intro hends
    cases hends with
    | found hd => exact ⟨rfl, hd.symm.trans h⟩
    | exhausted hnone => exact nomatch h.symm.trans hnone
    | outwards _ hnone _ => exact nomatch h.symm.trans hnone
  · rintro ⟨rfl, rfl⟩
    exact .found h

theorem ends_empty_iff (h : r.find? (qualify [] reference) = none) {n : Nat}
    {result : Option Declared} : r.Ends reference [] n result ↔ n = 1 ∧ result = none := by
  constructor
  · intro hends
    cases hends with
    | found hd => exact nomatch hd.symm.trans h
    | exhausted => exact ⟨rfl, rfl⟩
    | outwards hne => exact absurd rfl hne
  · rintro ⟨rfl, rfl⟩
    exact .exhausted h

theorem ends_iff_of_none (hne : scope ≠ []) (h : r.find? (qualify scope reference) = none) {n : Nat}
    {result : Option Declared} : r.Ends reference scope n result ↔
      ∃ m, n = m + 1 ∧ r.Ends reference (Scope.enclosing scope) m result := by
  constructor
  · intro hends
    cases hends with
    | found hd => exact nomatch hd.symm.trans h
    | exhausted => exact absurd rfl hne
    | outwards _ _ hrest => exact ⟨_, rfl, hrest⟩
  · rintro ⟨m, rfl, hrest⟩
    exact .outwards hne h hrest

/-- The loop ends from every scope, in one way, and after no more turns than there are scopes. -/
theorem exists_ends (r : Registry) (reference scope : Text) :
    ∃ n ≤ (Scope.outward scope).length, ∀ m result, r.Ends reference scope m result ↔
      m = n ∧ result = (Scope.outward scope).findSome? fun p => r.find? (qualify p reference) := by
  fun_induction Scope.outward scope with
  | case1 =>
    refine ⟨1, Nat.le_refl _, fun m result => ?_⟩
    rw [List.findSome?_cons]
    cases hf : r.find? (qualify [] reference) with
    | some d => exact ends_iff_of_some hf
    | none => exact ends_empty_iff hf
  | case2 scope hne ih =>
    obtain ⟨n, hn, hrest⟩ := ih
    rw [List.findSome?_cons]
    cases hf : r.find? (qualify scope reference) with
    | some d => exact ⟨1, Nat.succ_le_succ (Nat.zero_le _), fun m result => ends_iff_of_some hf⟩
    | none =>
      refine ⟨n + 1, Nat.succ_le_succ hn, fun m result => ?_⟩
      rw [ends_iff_of_none hne hf]
      constructor
      · rintro ⟨m, rfl, h⟩
        obtain ⟨rfl, hresult⟩ := (hrest m result).mp h
        exact ⟨rfl, hresult⟩
      · rintro ⟨rfl, hresult⟩
        exact ⟨n, rfl, (hrest n result).mpr ⟨rfl, hresult⟩⟩

/-- The type is registered under the reference in a scope on the way out, and nothing is registered
under it in the scopes before. -/
def FindsAt (r : Registry) (reference scope p : Text) (d : Declared) : Prop :=
  ∃ inner outer, Scope.Chain scope (inner ++ p :: outer) ∧
    (∀ q ∈ inner, r.find? (qualify q reference) = none) ∧ r.find? (qualify p reference) = some d

/-- A relative reference leads to the innermost declaration. -/
theorem resolve_eq_some_iff_findsAt (hdot : reference.head? ≠ some (.char '.')) {d : Declared} :
    r.resolve reference scope = some d ↔ ∃ p, r.FindsAt reference scope p d := by
  rw [resolve_of_relative r hdot, List.findSome?_eq_some_iff]
  constructor
  · rintro ⟨inner, p, outer, hsplit, hfound, hnone⟩
    exact ⟨p, inner, outer, hsplit ▸ Scope.chain_outward scope, hnone, hfound⟩
  · rintro ⟨p, inner, outer, hchain, hnone, hfound⟩
    exact ⟨inner, p, outer, hchain.eq_outward.symm, hfound, hnone⟩

/-- A relative reference leads nowhere exactly if nothing is registered under it in any scope. -/
theorem resolve_eq_none_iff (hdot : reference.head? ≠ some (.char '.')) {ps : List Text}
    (hps : Scope.Chain scope ps) :
    r.resolve reference scope = none ↔ ∀ p ∈ ps, r.find? (qualify p reference) = none := by
  rw [resolve_of_relative r hdot, List.findSome?_eq_none_iff, hps.eq_outward]

/-- Registries with the same names lead to the same name, of whatever sorts their types are. -/
theorem map_fullName_resolve_congr (h : ∀ name, (r.find? name).isSome = (r'.find? name).isSome)
    (reference scope : Text) : (r.resolve reference scope).map Declared.fullName =
      (r'.resolve reference scope).map Declared.fullName := by
  have hfind : ∀ name, (r.find? name).map Declared.fullName =
      (r'.find? name).map Declared.fullName := by
    intro name
    have hsome := h name
    cases hd : r.find? name with
    | none =>
      rw [hd, Option.isSome_none, eq_comm, Option.isSome_eq_false_iff, Option.isNone_iff_eq_none]
        at hsome
      rw [hsome]
    | some d =>
      rw [hd, Option.isSome_some, eq_comm, Option.isSome_iff_exists] at hsome
      obtain ⟨d', hd'⟩ := hsome
      rw [hd', Option.map_some, Option.map_some, fullName_of_find? hd, fullName_of_find? hd']
  unfold resolve
  split
  · exact hfind _
  · rw [List.map_findSome?, List.map_findSome?]
    exact congrArg (fun f => List.findSome? f (Scope.outward scope))
      (funext fun p => hfind (qualify p reference))

end Registry

/-! ## Types of the wrong sort -/

/-- A field whose reference leads to a type of the wrong sort is refused, and if nothing was wrong
with it before, for that reason. -/
theorem FieldSite.refused_of_not_suits {r : Registry} {s : FieldSite} {k : Kind} {d : Declared}
    {reference : Text} (hkind : Kind.ofName? s.decl.type = some k) (hk : k.isComposite = true)
    (href : s.decl.typeName = some reference) (hne : reference ≠ [])
    (hd : r.resolve reference s.owner.fullName = some d) (hsuits : d.suits k = false) :
    ∃ e, s.resolve r = .error e ∧ (0 < s.decl.number → s.decl.number ∉ s.earlier →
      e = .unresolved s.fullName reference k) := by
  obtain ⟨e, he, hcause⟩ : ∃ e, Unreferred r s e ∧ (0 < s.decl.number →
      s.decl.number ∉ s.earlier → e = .unresolved s.fullName reference k) := by
    by_cases hpos : s.decl.number ≤ 0
    · exact ⟨_, .numberNotPositive hkind hpos, fun hpos' => absurd hpos (by omega)⟩
    by_cases hold : s.decl.number ∈ s.earlier
    · by_cases hfits : Numeral.Fits s.decl.number
      · exact ⟨_, .numberReused hkind (by omega) hold hfits, fun _ hnew => absurd hold hnew⟩
      · exact ⟨_, .numberTooLong hkind (by omega) hold hfits, fun _ hnew => absurd hold hnew⟩
    have hreference : s.decl.typeName.getD [] = reference := by rw [href, Option.getD_some]
    refine ⟨_, .unresolved hkind (by omega) hold hk (by rwa [hreference]) fun d' hd' => ?_,
      fun _ _ => by rw [hreference]⟩
    rw [hreference, hd, Option.some.injEq] at hd'
    rw [← hd', hsuits]
  exact ⟨e, resolve_eq_error_iff.mpr (Or.inl (refer_eq_error_iff.mpr he)), hcause⟩

/-- **The search finds the innermost declaration.**  An absolute reference leads to the type with
that full name.  A relative one is searched for along the chain of scopes, in which the empty scope
comes once: the loop ends after no more turns than there are scopes, with the first type that is
registered under the reference, and with none exactly if there is none in any scope.  Which sort of
type it is does not matter to the search, and a type of the wrong sort that is found first has the
field refused. -/
theorem scope_search_innermost (r : Registry) (reference scope : Text) :
    (∀ name, r.resolve (.char '.' :: name) scope = r.find? name) ∧
      (reference.head? ≠ some (.char '.') →
        (∃ ps, Scope.Chain scope ps ∧ ps.count [] = 1 ∧
          (∃ n ≤ ps.length, ∀ m result, r.Ends reference scope m result ↔
            m = n ∧ result = r.resolve reference scope) ∧
          (r.resolve reference scope = none ↔ ∀ p ∈ ps, r.find? (qualify p reference) = none)) ∧
        ∀ d, r.resolve reference scope = some d ↔ ∃ p, r.FindsAt reference scope p d) ∧
      (∀ r' : Registry, (∀ name, (r.find? name).isSome = (r'.find? name).isSome) →
        (r.resolve reference scope).map Declared.fullName =
          (r'.resolve reference scope).map Declared.fullName) ∧
      ∀ (s : FieldSite) (k : Kind) (p : Text) (d : Declared), s.owner.fullName = scope →
        Kind.ofName? s.decl.type = some k → k.isComposite = true →
        s.decl.typeName = some reference → reference ≠ [] →
        reference.head? ≠ some (.char '.') → r.FindsAt reference scope p d → d.suits k = false →
        ∃ e, s.resolve r = .error e ∧ (0 < s.decl.number → s.decl.number ∉ s.earlier →
          e = .unresolved s.fullName reference k) := by
  refine ⟨fun name => rfl, fun hdot => ⟨?_, fun d => ?_⟩, fun r' h => ?_, ?_⟩
  · have hchain := Scope.chain_outward scope
    refine ⟨Scope.outward scope, hchain, hchain.count_empty, ?_, ?_⟩
    · rw [Registry.resolve_of_relative r hdot]
      exact r.exists_ends reference scope
    · exact Registry.resolve_eq_none_iff hdot hchain
  · exact Registry.resolve_eq_some_iff_findsAt hdot
  · exact Registry.map_fullName_resolve_congr h reference scope
  · intro s k p d howner hkind hk href hne hdot hfinds hsuits
    have hd := (Registry.resolve_eq_some_iff_findsAt hdot).mpr ⟨p, hfinds⟩
    exact FieldSite.refused_of_not_suits hkind hk href hne (howner ▸ hd) hsuits

/-- The types of a package in which a message declares an enum by the name of a message outside. -/
def Declared.hiding : List Declared :=
  [.message ⟨"Item", "p.Item"⟩, .message ⟨"Outer", "p.Outer"⟩,
    .enum ⟨⟨"Item", "p.Outer.Item"⟩, [⟨"NONE", 0, 0⟩]⟩]

/-- The same names for types of other sorts. -/
def Declared.exchanged : List Declared :=
  [.message ⟨"Item", "p.Outer.Item"⟩, .message ⟨"Outer", "p.Outer"⟩,
    .enum ⟨⟨"Item", "p.Item"⟩, [⟨"NONE", 0, 0⟩]⟩]

/-- A field that refers to the message outside. -/
def FieldSite.hidden : FieldSite :=
  ⟨⟨"Outer", "p.Outer"⟩, 0, [],
    { name := "item", number := 1, type := "message", typeName := some "Item" }⟩

/-- In particular the enum is found, as the message of the same name would be, and hides the message
outside, so that the field is refused. -/
theorem hidden_message_refused :
    (Registry.ofList Declared.hiding).find? "p.Item" = some (.message ⟨"Item", "p.Item"⟩) ∧
      (Registry.ofList Declared.hiding).FindsAt "Item" "p.Outer" "p.Outer"
        (.enum ⟨⟨"Item", "p.Outer.Item"⟩, [⟨"NONE", 0, 0⟩]⟩) ∧
      (Registry.ofList Declared.hiding).resolve "Item" "p.Outer" =
        some (.enum ⟨⟨"Item", "p.Outer.Item"⟩, [⟨"NONE", 0, 0⟩]⟩) ∧
      ((Registry.ofList Declared.hiding).resolve "Item" "p.Outer").map Declared.fullName =
        ((Registry.ofList Declared.exchanged).resolve "Item" "p.Outer").map Declared.fullName ∧
      ∃ e, FieldSite.hidden.resolve (.ofList Declared.hiding) = .error e ∧
        (0 < FieldSite.hidden.decl.number →
          FieldSite.hidden.decl.number ∉ FieldSite.hidden.earlier →
            e = .unresolved FieldSite.hidden.fullName "Item" .message) := by
  have hdot : (Text.ofString "Item").head? ≠ some (.char '.') := by decide
  have hchain : Scope.Chain "p.Outer" ["p.Outer", "p", []] :=
    @Scope.Chain.within "p" "Outer" _ (by decide) (.outermost (by decide) (by decide))
  have hfinds : (Registry.ofList Declared.hiding).FindsAt "Item" "p.Outer" "p.Outer"
      (.enum ⟨⟨"Item", "p.Outer.Item"⟩, [⟨"NONE", 0, 0⟩]⟩) :=
    ⟨[], ["p", []], hchain, by decide, by decide⟩
  have hnames : ∀ name, ((Registry.ofList Declared.hiding).find? name).isSome =
      ((Registry.ofList Declared.exchanged).find? name).isSome := by
    intro name
    rw [Bool.eq_iff_iff, Option.isSome_iff_ne_none, Option.isSome_iff_ne_none, Ne, Ne,
      find?_ofList_eq_none_iff, find?_ofList_eq_none_iff]
    simp only [Declared.hiding, Declared.exchanged, List.forall_mem_cons, Declared.fullName,
      Declared.names]
    tauto
  obtain ⟨-, hrelative, hsorts, hrefused⟩ :=
    scope_search_innermost (.ofList Declared.hiding) "Item" "p.Outer"
  obtain ⟨-, hfound⟩ := hrelative hdot
  exact ⟨by decide, hfinds, (hfound _).mpr ⟨_, hfinds⟩, hsorts _ hnames,
    hrefused FieldSite.hidden .message _ _ rfl (by decide +kernel) rfl rfl (by decide) hdot hfinds
      rfl⟩

end FieldCode
