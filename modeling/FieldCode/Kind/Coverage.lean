import FieldCode.Kind

/-!
# Tables that cover a set of kinds

A table keyed by kinds has to have an entry for each kind it is meant for and for nothing else.  The
check reports one tag: the least of those that are missing, and only if none is missing the least of
those in excess.  Least is meant by code points, so the report depends neither on the order of the
table nor on repetitions in it.
-/

namespace FieldCode

namespace Text

/-- The order of texts by code points; a text precedes its continuations. -/
def precedes : Text → Text → Bool
  | [], [] => false
  | [], _ :: _ => true
  | _ :: _, [] => false
  | a :: as, b :: bs =>
    if a.code < b.code then true
    else if b.code < a.code then false
    else precedes as bs

end Text

namespace KindTag

/-- The first of two tags by code points. -/
def lesser (a b : KindTag) : KindTag :=
  if Text.precedes b.text a.text then b else a

/-- The least of some tags by code points. -/
def least? : List KindTag → Option KindTag
  | [] => none
  | t :: ts => some (ts.foldl lesser t)

/-- There is a least tag unless there is none at all. -/
theorem least?_eq_none {ts : List KindTag} : least? ts = none ↔ ts = [] := by
  cases ts <;> simp [least?]

/-- The tag that shows a table not to cover exactly the given tags. -/
def mismatch? (table kinds : List KindTag) : Option KindTag :=
  match least? (kinds.filter fun t => !table.contains t) with
  | some t => some t
  | none => least? (table.filter fun t => !kinds.contains t)

/-- No tag shows a mismatch exactly if the table and the given tags have the same members. -/
theorem mismatch?_eq_none {table kinds : List KindTag} :
    mismatch? table kinds = none ↔ ∀ t, t ∈ table ↔ t ∈ kinds := by
  unfold mismatch?
  split
  · rename_i t h
    have missing : kinds.filter (fun t => !table.contains t) ≠ [] := by
      intro e
      rw [e] at h
      simp [least?] at h
    obtain ⟨u, hu⟩ := List.exists_mem_of_ne_nil _ missing
    simp only [List.mem_filter, List.contains_eq_mem, Bool.not_eq_true', decide_eq_false_iff_not]
      at hu
    simp only [reduceCtorEq, false_iff]
    exact fun same => hu.2 ((same u).2 hu.1)
  · rename_i h
    rw [least?_eq_none] at h ⊢
    simp only [List.filter_eq_nil_iff, List.contains_eq_mem, Bool.not_eq_true',
      decide_eq_false_iff_not, Decidable.not_not] at h ⊢
    exact ⟨fun extra t => ⟨extra t, h t⟩, fun same t ht => (same t).1 ht⟩

/-- Checks that a table covers exactly the given tags; the complaint names the table. -/
def covers (table kinds : List KindTag) (name : Text) : Except UnhandledKind Unit :=
  match mismatch? table kinds with
  | some t => .error ⟨t, "<" ++ name ++ ">"⟩
  | none => .ok ()

end KindTag

end FieldCode
