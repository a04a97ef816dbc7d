import FieldCode.Build
import Mathlib.Data.List.Duplicate
import Mathlib.Data.List.Nodup

/-!
# What the registration decides

Registering types goes through one list and carries the full names met so far.  Nothing of that
order is left in the outcome: the registration succeeds exactly if the full names are pairwise
distinct and no enum is empty (`register_eq_ok_iff`), and a failure names a type that is at fault
(`register_eq_error`).

In a registry of distinct names a search is membership, `find?_ofList_eq_some_iff`: messages are
looked up before enums, but under distinct names the first hit is the only one.
-/

namespace FieldCode

/-! ## The outcome -/

/-- One step of the registration: it goes on behind a type whose name is free and that is no empty
enum. -/
theorem register_cons_eq_ok_iff (taken : List Text) (d : Declared) (ds : List Declared) :
    register taken (d :: ds) = .ok () ↔
      d.fullName ∉ taken ∧ d.isEmptyEnum = false ∧ register (d.fullName :: taken) ds = .ok () := by
  rw [register]
  by_cases ht : d.fullName ∈ taken
  · simp [ht]
  · cases he : d.isEmptyEnum <;> simp [ht]

/-- The registration with some names taken succeeds exactly if the new names are distinct and free
and no enum is empty. -/
theorem register_eq_ok_iff (taken : List Text) (ds : List Declared) :
    register taken ds = .ok () ↔
      (ds.map Declared.fullName).Nodup ∧ (∀ d ∈ ds, d.fullName ∉ taken) ∧
        ∀ d ∈ ds, d.isEmptyEnum = false := by
  induction ds generalizing taken with
  | nil => simp [register]
  | cons d ds ih =>
    rw [register_cons_eq_ok_iff, ih, List.forall_mem_cons, List.forall_mem_cons]
    simp only [List.map_cons, List.nodup_cons, List.mem_map, List.mem_cons, not_or, not_exists,
      not_and]
    constructor
    · rintro ⟨hfree, hfull, hnodup, hrest, hall⟩
      exact ⟨⟨fun e he => (hrest e he).1, hnodup⟩, ⟨hfree, fun e he => (hrest e he).2⟩, hfull, hall⟩
    · rintro ⟨⟨hnew, hnodup⟩, ⟨hfree, hrest⟩, hfull, hall⟩
      exact ⟨hfree, hfull, hnodup, fun e he => ⟨hnew e he, hrest e he⟩, hall⟩

/-- A registration that fails names a type whose name is met a second time, or an empty enum. -/
theorem register_eq_error {taken : List Text} {ds : List Declared} {e : BuildError}
    (h : register taken ds = .error e) :
    (∃ n, e = .alreadyDefined n ∧ (n ∈ taken ∧ n ∈ ds.map Declared.fullName ∨
      List.Duplicate n (ds.map Declared.fullName))) ∨
    ∃ d ∈ ds, d.isEmptyEnum = true ∧ e = .emptyEnum d.fullName := by
  induction ds generalizing taken with
  | nil => simp [register] at h
  | cons d ds ih =>
    rw [register] at h
    by_cases ht : d.fullName ∈ taken
    · left
      simp only [List.contains_eq_mem, ht, decide_true, if_true, Except.error.injEq] at h
      exact ⟨d.fullName, h.symm, Or.inl ⟨ht, List.mem_cons_self ..⟩⟩
    · cases he : d.isEmptyEnum with
      | true =>
        right
        simp only [List.contains_eq_mem, ht, decide_false, Bool.false_eq_true, if_false, he,
          if_true, Except.error.injEq] at h
        exact ⟨d, List.mem_cons_self .., he, h.symm⟩
      | false =>
        simp only [List.contains_eq_mem, ht, decide_false, Bool.false_eq_true, if_false, he] at h
        rcases ih h with ⟨n, hn, hmem | hdup⟩ | ⟨d', hd', hempty, hd⟩
        · left
          obtain ⟨htaken, hin⟩ := hmem
          refine ⟨n, hn, ?_⟩
          rcases List.mem_cons.mp htaken with rfl | hold
          · exact Or.inr (List.Mem.duplicate_cons_self hin)
          · exact Or.inl ⟨hold, List.mem_cons_of_mem _ hin⟩
        · exact Or.inl ⟨n, hn, Or.inr (hdup.duplicate_cons _)⟩
        · exact Or.inr ⟨d', List.mem_cons_of_mem _ hd', hempty, hd⟩

/-! ## The search in a registry -/

theorem eq_of_fullName_eq {ds : List Declared} (hnodup : (ds.map Declared.fullName).Nodup)
    {d e : Declared} (hd : d ∈ ds) (he : e ∈ ds) (h : d.fullName = e.fullName) : d = e :=
  List.inj_on_of_nodup_map hnodup hd he h

theorem mem_messages_ofList {ds : List Declared} {m : TypeName} :
    m ∈ (Registry.ofList ds).messages ↔ .message m ∈ ds := by
  simp only [Registry.ofList, List.mem_filterMap]
  constructor
  · rintro ⟨d, hd, h⟩
    cases d <;> simp_all
  · intro h
    exact ⟨_, h, rfl⟩

theorem mem_enums_ofList {ds : List Declared} {e : EnumType} :
    e ∈ (Registry.ofList ds).enums ↔ .enum e ∈ ds := by
  simp only [Registry.ofList, List.mem_filterMap]
  constructor
  · rintro ⟨d, hd, h⟩
    cases d <;> simp_all
  · intro h
    exact ⟨_, h, rfl⟩

theorem mem_of_find?_ofList {ds : List Declared} {name : Text} {d : Declared}
    (h : (Registry.ofList ds).find? name = some d) : d ∈ ds ∧ d.fullName = name := by
  unfold Registry.find? at h
  cases hm : (Registry.ofList ds).messages.find? fun m => m.fullName == name with
  | some m =>
    rw [hm] at h
    have hd : d = .message m := (Option.some.inj h).symm
    have hname : (m.fullName == name) = true :=
      List.find?_some (p := fun m : TypeName => m.fullName == name) hm
    rw [hd]
    exact ⟨mem_messages_ofList.mp (List.mem_of_find?_eq_some hm), eq_of_beq hname⟩
  | none =>
    rw [hm] at h
    obtain ⟨e, he, hd⟩ := Option.map_eq_some_iff.mp h
    have hname : (e.fullName == name) = true :=
      List.find?_some (p := fun e : EnumType => e.fullName == name) he
    rw [← hd]
    exact ⟨mem_enums_ofList.mp (List.mem_of_find?_eq_some he), eq_of_beq hname⟩

/-- A search fails exactly if nothing was registered under the name. -/
theorem find?_ofList_eq_none_iff {ds : List Declared} {name : Text} :
    (Registry.ofList ds).find? name = none ↔ ∀ d ∈ ds, d.fullName ≠ name := by
  unfold Registry.find?
  cases hm : (Registry.ofList ds).messages.find? fun m => m.fullName == name with
  | some m =>
    have hname : (m.fullName == name) = true :=
      List.find?_some (p := fun m : TypeName => m.fullName == name) hm
    simp only [reduceCtorEq, false_iff]
    exact fun h => h _ (mem_messages_ofList.mp (List.mem_of_find?_eq_some hm)) (eq_of_beq hname)
  | none =>
    rw [Option.map_eq_none_iff, List.find?_eq_none]
    rw [List.find?_eq_none] at hm
    constructor
    · intro h d hd heq
      cases d with
      | message m => exact hm m (mem_messages_ofList.mpr hd) (beq_iff_eq.mpr heq)
      | enum e => exact h e (mem_enums_ofList.mpr hd) (beq_iff_eq.mpr heq)
    · intro h e he heq
      exact h (.enum e) (mem_enums_ofList.mp he) (eq_of_beq heq)

/-- Under distinct names a search finds exactly the type with the name. -/
theorem find?_ofList_eq_some_iff {ds : List Declared} (hnodup : (ds.map Declared.fullName).Nodup)
    {name : Text} {d : Declared} :
    (Registry.ofList ds).find? name = some d ↔ d ∈ ds ∧ d.fullName = name := by
  refine ⟨mem_of_find?_ofList, ?_⟩
  rintro ⟨hd, hname⟩
  cases hf : (Registry.ofList ds).find? name with
  | none => exact absurd hname (find?_ofList_eq_none_iff.mp hf d hd)
  | some e =>
    obtain ⟨he, hename⟩ := mem_of_find?_ofList hf
    rw [eq_of_fullName_eq hnodup hd he (hname.trans hename.symm)]

end FieldCode
