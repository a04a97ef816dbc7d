import FieldCode.Proofs.Json.Halves
import FieldCode.Proofs.Number.Literal
import Mathlib.Data.List.Lex
import Mathlib.Order.Bounds.Basic

/-!
# Tables are checked exactly

A table is held against the tags that it is meant for, and both are lists, in which tags stand in any
order and any number of times.  What the check says depends on their members only.  Tags are ordered by
the code points of their texts, the lexicographic order on lists of numbers, and in this order the tag
that is reported is the least of those that the table lacks, or, if it lacks none, the least of those
that it has in excess (`KindTag.mismatch?_eq_some_iff`).  So the report can be told without the lists,
and two tables with the same members have the same report.

The suffixes of number literals are a table that was checked.  The check is about keys, the literal
needs an entry; `Suffixes.exists_suffix?_iff` leads from one to the other.  For the numeric kinds, then,
no number lacks a suffix (`Suffixes.literal_eq_noSuffix_iff`).
-/

namespace FieldCode

/-! ## The order by code points -/

theorem Rune.code_injective : Function.Injective Rune.code :=
  Function.LeftInverse.injective Rune.ofCode_code

theorem Text.precedes_iff {a b : Text} :
    precedes a b = true ↔ a.map Rune.code < b.map Rune.code := by
  induction a generalizing b with
  | nil =>
    cases b with
    | nil => exact ⟨fun h => (nomatch h), fun h => absurd h (lt_irrefl _)⟩
    | cons d b => exact ⟨fun _ => List.nil_lt_cons _ _, fun _ => rfl⟩
  | cons c a ih =>
    cases b with
    | nil => exact ⟨fun h => (nomatch h), fun h => absurd h (List.not_lt_nil _)⟩
    | cons d b =>
      rw [precedes, List.map_cons, List.map_cons, List.cons_lt_cons_iff, ← ih]
      rcases lt_trichotomy c.code d.code with hlt | heq | hgt
      · simp [hlt]
      · simp [heq]
      · simp [hgt, hgt.not_gt, hgt.ne']

namespace KindTag

/-- The code points of a tag. -/
def codes (t : KindTag) : List Nat :=
  t.text.map Rune.code

theorem codes_injective : Function.Injective codes := by
  intro t u h
  have htext : t.text = u.text := List.map_injective_iff.mpr Rune.code_injective h
  rw [← ofText_text t, htext, ofText_text]

/-- Tags are ordered by the code points of their texts. -/
instance : PartialOrder KindTag :=
  PartialOrder.lift codes codes_injective

/-! ## The least tag -/

theorem isLeast_lesser (a b : KindTag) : IsLeast {a, b} (lesser a b) := by
  unfold lesser
  by_cases h : Text.precedes b.text a.text = true
  · rw [if_pos h]
    have hlt : b.codes < a.codes := Text.precedes_iff.mp h
    refine ⟨Or.inr rfl, ?_⟩
    rintro u (rfl | rfl)
    · exact hlt.le
    · exact le_rfl
  · rw [if_neg h]
    have hle : a.codes ≤ b.codes := not_lt.mp fun hlt => h (Text.precedes_iff.mpr hlt)
    refine ⟨Or.inl rfl, ?_⟩
    rintro u (rfl | rfl)
    · exact le_rfl
    · exact hle

/-- Keeping the lesser of two tags leaves the least of all. -/
theorem isLeast_foldl_lesser (a : KindTag) (ts : List KindTag) :
    IsLeast {u | u ∈ a :: ts} (ts.foldl lesser a) := by
  induction ts generalizing a with
  | nil => exact ⟨List.mem_singleton_self a, fun u hu => (List.mem_singleton.mp hu).ge⟩
  | cons b ts ih =>
    obtain ⟨hmem, hle⟩ := ih (lesser a b)
    obtain ⟨hpair, hpairle⟩ := isLeast_lesser a b
    refine ⟨?_, fun u hu => ?_⟩
    · rcases List.mem_cons.mp hmem with heq | hin
      · show (b :: ts).foldl lesser a ∈ a :: b :: ts
        rw [List.foldl_cons, heq]
        rcases hpair with h | h <;> rw [h] <;> simp
      · exact List.mem_cons_of_mem _ (List.mem_cons_of_mem _ hin)
    · have hfirst := hle (List.mem_cons_self ..)
      rcases List.mem_cons.mp hu with rfl | hu
      · exact hfirst.trans (hpairle (Or.inl rfl))
      · rcases List.mem_cons.mp hu with rfl | hu
        · exact hfirst.trans (hpairle (Or.inr rfl))
        · exact hle (List.mem_cons_of_mem _ hu)

theorem least?_eq_some_iff {ts : List KindTag} {t : KindTag} :
    least? ts = some t ↔ IsLeast {u | u ∈ ts} t := by
  cases ts with
  | nil => exact ⟨fun h => (nomatch h), fun h => absurd h.1 List.not_mem_nil⟩
  | cons a ts =>
    have hleast := isLeast_foldl_lesser a ts
    rw [least?, Option.some.injEq]
    exact ⟨fun h => h ▸ hleast, fun h => hleast.unique h⟩

/-! ## The report -/

/-- The tags among `kinds` that a table lacks. -/
def lacking (table kinds : List KindTag) : Set KindTag :=
  {t | t ∈ kinds ∧ t ∉ table}

theorem setOf_mem_filter_not_contains (table kinds : List KindTag) :
    {t | t ∈ kinds.filter fun t => !table.contains t} = lacking table kinds := by
  ext t
  simp [lacking]

theorem least?_filter_eq_some_iff {table kinds : List KindTag} {t : KindTag} :
    least? (kinds.filter fun t => !table.contains t) = some t ↔ IsLeast (lacking table kinds) t := by
  rw [least?_eq_some_iff, setOf_mem_filter_not_contains]

theorem least?_filter_eq_none_iff {table kinds : List KindTag} :
    least? (kinds.filter fun t => !table.contains t) = none ↔ lacking table kinds = ∅ := by
  rw [least?_eq_none, ← setOf_mem_filter_not_contains, Set.eq_empty_iff_forall_notMem,
    List.eq_nil_iff_forall_not_mem]
  rfl

/-- The tag that is reported: the least that the table lacks, or, if it lacks none, the least that it
has in excess. -/
theorem mismatch?_eq_some_iff {table kinds : List KindTag} {t : KindTag} :
    mismatch? table kinds = some t ↔ IsLeast (lacking table kinds) t ∨
      lacking table kinds = ∅ ∧ IsLeast (lacking kinds table) t := by
  unfold mismatch?
  split
  · rename_i u hu
    have hleast := least?_filter_eq_some_iff.mp hu
    have hsome : lacking table kinds ≠ ∅ := Set.nonempty_iff_ne_empty.mp hleast.nonempty
    rw [Option.some.injEq, or_iff_left fun h => hsome h.1]
    exact ⟨fun h => h ▸ hleast, fun h => hleast.unique h⟩
  · rename_i hnone
    have hempty := least?_filter_eq_none_iff.mp hnone
    rw [least?_filter_eq_some_iff, hempty, or_iff_right fun h => h.nonempty.ne_empty rfl,
      and_iff_right rfl]

theorem mismatch?_congr {table table' kinds kinds' : List KindTag}
    (htable : ∀ t, t ∈ table' ↔ t ∈ table) (hkinds : ∀ t, t ∈ kinds' ↔ t ∈ kinds) :
    mismatch? table' kinds' = mismatch? table kinds := by
  have hmissing : lacking table' kinds' = lacking table kinds :=
    Set.ext fun t => and_congr (hkinds t) (not_congr (htable t))
  have hexcess : lacking kinds' table' = lacking kinds table :=
    Set.ext fun t => and_congr (htable t) (not_congr (hkinds t))
  refine Option.ext fun t => ?_
  rw [mismatch?_eq_some_iff, mismatch?_eq_some_iff, hmissing, hexcess]

theorem covers_eq_ok_iff {table kinds : List KindTag} {name : Text} :
    covers table kinds name = .ok () ↔ mismatch? table kinds = none := by
  unfold covers
  split <;> simp_all

theorem covers_eq_error_iff {table kinds : List KindTag} {name : Text} {e : UnhandledKind} :
    covers table kinds name = .error e ↔
      mismatch? table kinds = some e.tag ∧ e.place = "<" ++ name ++ ">" := by
  obtain ⟨tag, place⟩ := e
  unfold covers
  split
  · rename_i t h
    rw [h, Except.error.injEq, UnhandledKind.mk.injEq, Option.some.injEq, @eq_comm _ _ place]
  · rename_i h
    rw [h]
    exact ⟨fun h => (nomatch h), fun h => (nomatch h.1)⟩

/-- The check of a table with a name against some tags is exact. -/
structure ChecksExactly (table kinds : List KindTag) (name : Text) : Prop where
  /-- It passes if the two have the same members. -/
  passes_iff : covers table kinds name = .ok () ↔ ∀ t, t ∈ table ↔ t ∈ kinds
  /-- It complains of the least tag that is missing, or else of the least in excess, and of the
  table. -/
  complains_iff : ∀ e, covers table kinds name = .error e ↔
    (IsLeast (lacking table kinds) e.tag ∨
      lacking table kinds = ∅ ∧ IsLeast (lacking kinds table) e.tag) ∧
        e.place = "<" ++ name ++ ">"
  /-- The complaint is put into words that hold the tag and the name. -/
  message_eq : ∀ e, covers table kinds name = .error e →
    e.message = "Invalid field descriptor type: " ++ e.tag.shown ++ " (field <" ++ name ++ ">)"
  /-- Order and repetitions play no part. -/
  congr : ∀ table' kinds', (∀ t, t ∈ table' ↔ t ∈ table) → (∀ t, t ∈ kinds' ↔ t ∈ kinds) →
    covers table' kinds' name = covers table kinds name

theorem checksExactly (table kinds : List KindTag) (name : Text) :
    ChecksExactly table kinds name where
  passes_iff := covers_eq_ok_iff.trans mismatch?_eq_none
  complains_iff e := by rw [covers_eq_error_iff, mismatch?_eq_some_iff]
  message_eq e h := by
    have hplace : e.place ≠ [] := by
      rw [(covers_eq_error_iff.mp h).2]
      exact List.append_ne_nil_of_right_ne_nil _ (List.cons_ne_nil _ _)
    rw [UnhandledKind.message, if_neg hplace, (covers_eq_error_iff.mp h).2]
    simp [Text.ofString, Text.ofChars]
  congr table' kinds' htable hkinds := by
    rw [covers, covers, mismatch?_congr htable hkinds]

end KindTag

/-! ## Suffixes -/

namespace Suffixes

variable {table : List (KindTag × Text)} {s : Suffixes}

/-- Suffixes are made from their own table and from no other. -/
theorem ofTable_eq_ok_iff : ofTable table = .ok s ↔ s.table = table := by
  unfold ofTable
  split
  · rw [Except.ok.injEq]
    constructor
    · rintro rfl
      rfl
    · rintro rfl
      rfl
  · rename_i t h
    refine ⟨fun heq => (nomatch heq), fun heq => ?_⟩
    rw [← heq, s.covers] at h
    cases h

theorem ofTable_eq_error_iff {e : UnhandledKind} : ofTable table = .error e ↔
    KindTag.covers (table.map (·.1)) KindTag.numeric "FormatPolicy.literal_suffixes" = .error e := by
  have hname : ("<FormatPolicy.literal_suffixes>" : Text) =
      "<" ++ Text.ofString "FormatPolicy.literal_suffixes" ++ ">" := by decide
  obtain ⟨tag, place⟩ := e
  rw [KindTag.covers_eq_error_iff, ← hname]
  unfold ofTable
  split
  · rename_i h
    exact ⟨fun heq => (nomatch heq), fun heq => (nomatch h.symm.trans heq.1)⟩
  · rename_i t h
    rw [h, Except.error.injEq, UnhandledKind.mk.injEq, Option.some.injEq, @eq_comm _ _ place]

/-- Suffixes are there for the numeric kinds and nothing else. -/
structure ServesExactly (s : Suffixes) : Prop where
  /-- The tags with a suffix. -/
  found_iff : ∀ tag, (∃ suffix, s.suffix? tag = some suffix) ↔
    ∃ k : Kind, k.isNumeric = true ∧ tag = .known k
  /-- A suffix is missed for no numeric kind and no number, and for all other tags as soon as the
  number could be written. -/
  noSuffix_iff : ∀ tag v t, s.literal tag v = .error (.noSuffix t) ↔
    t = tag ∧ (∀ k : Kind, k.isNumeric = true → tag ≠ .known k) ∧ ∃ n, v.toInt = .ok n

/-- Suffixes are made from a table exactly if its keys are the tags of the numeric kinds. -/
structure MadeExactly (table : List (KindTag × Text)) : Prop where
  made_iff : (∃ s, ofTable table = .ok s) ↔
    ∀ tag, tag ∈ table.map (·.1) ↔ ∃ k : Kind, k.isNumeric = true ∧ tag = .known k
  refused_iff : ∀ e, ofTable table = .error e ↔
    KindTag.covers (table.map (·.1)) KindTag.numeric "FormatPolicy.literal_suffixes" = .error e
  serves : ∀ s, ofTable table = .ok s → s.table = table ∧ s.ServesExactly

theorem madeExactly (table : List (KindTag × Text)) : MadeExactly table where
  made_iff := by
    simp only [← KindTag.mem_numeric_iff]
    rw [← KindTag.mismatch?_eq_none]
    constructor
    · rintro ⟨s, hs⟩
      rw [← ofTable_eq_ok_iff.mp hs]
      exact s.covers
    · exact fun h => ⟨⟨table, h⟩, ofTable_eq_ok_iff.mpr rfl⟩
  refused_iff _ := ofTable_eq_error_iff
  serves s hs := ⟨ofTable_eq_ok_iff.mp hs, fun _ => s.exists_suffix?_iff, fun _ _ _ =>
    literal_eq_noSuffix_iff⟩

end Suffixes

/-- **The check of tables is exact.**  It passes exactly the tables that have the same members as the
tags they are held against, and complains of the least tag that is missing, or else of the least in
excess, in whatever order and how often the tags stand in the lists.  So suffixes are made from those
tables only that cover the numeric kinds and nothing else, and no number lacks a suffix for a numeric
kind. -/
theorem coverage_check_exact :
    (∀ (table kinds : List KindTag) (name : Text), KindTag.ChecksExactly table kinds name) ∧
      ∀ table : List (KindTag × Text), Suffixes.MadeExactly table :=
  ⟨KindTag.checksExactly, Suffixes.madeExactly⟩

/-- A table with both faults: of the two tags that it lacks the lesser one is reported, also with
the lists in another order. -/
theorem mixed_faults_reported : ∃ table kinds : List KindTag,
    table = [.known .int32, .ofText "Weird", .known .int32] ∧
      kinds = [.known .uint64, .ofText "Alpha", .known .int32, .known .uint64] ∧
        IsLeast (KindTag.lacking table kinds) (.ofText "Alpha") ∧
          KindTag.covers table kinds "sizes" = .error ⟨.ofText "Alpha", "<sizes>"⟩ ∧
            KindTag.covers table.reverse kinds.reverse "sizes" =
              .error ⟨.ofText "Alpha", "<sizes>"⟩ := by
  refine ⟨_, _, rfl, rfl, ?_⟩
  obtain ⟨-, hcomplains, -, hcongr⟩ := coverage_check_exact.1
    [.known .int32, .ofText "Weird", .known .int32]
    [.known .uint64, .ofText "Alpha", .known .int32, .known .uint64] "sizes"
  have hreport : KindTag.covers [.known .int32, .ofText "Weird", .known .int32]
      [.known .uint64, .ofText "Alpha", .known .int32, .known .uint64] "sizes" =
        .error ⟨.ofText "Alpha", "<sizes>"⟩ := by rfl
  refine ⟨?_, hreport, ?_⟩
  · rcases ((hcomplains _).mp hreport).1 with hleast | ⟨hempty, -⟩
    · exact hleast
    · exact absurd hempty (Set.nonempty_iff_ne_empty.mp ⟨.known .uint64, by decide, by decide⟩)
  · rw [hcongr _ _ (fun _ => List.mem_reverse) (fun _ => List.mem_reverse), hreport]

end FieldCode
