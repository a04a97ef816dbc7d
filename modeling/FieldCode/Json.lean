import FieldCode.Number.Double
import FieldCode.Text.Rune

/-!
# JSON values

The values that schema files, option files and the machine-readable listing are made of.  Integers
and other numbers are kept apart, as are the texts `1` and `1.0` in a file.  An object is a list of
members in the order of their first mention, so no key occurs twice in an object that was read.
-/

namespace FieldCode

/-- A JSON value. -/
inductive Json where
  | null
  | bool (value : Bool)
  | int (value : Int)
  | number (value : Double)
  | text (value : Text)
  | array (items : List Json)
  | object (members : List (Text × Json))

namespace Json

/-- Sets the value of a key: in its place if the key is there already, at the end otherwise. -/
def put {α : Type} (key : Text) (value : α) : List (Text × α) → List (Text × α)
  | [] => [(key, value)]
  | (k, v) :: rest => if k = key then (key, value) :: rest else (k, v) :: put key value rest

/-- Members with each key once: its last value, in the place of its first mention. -/
def assemble {α : Type} (members : List (Text × α)) : List (Text × α) :=
  members.foldl (fun done m => put m.1 m.2 done) []

/-- The value of a key. -/
def get? {α : Type} (key : Text) : List (Text × α) → Option α
  | [] => none
  | (k, v) :: rest => if k = key then some v else get? key rest

/-- Setting a key changes its value and no other. -/
theorem get?_put {α : Type} (key : Text) (value : α) (ms : List (Text × α)) (k : Text) :
    get? k (put key value ms) = if k = key then some value else get? k ms := by
  induction ms with
  | nil => simp [put, get?, eq_comm]
  | cons m ms ih =>
    obtain ⟨j, v⟩ := m
    by_cases hj : j = key <;> by_cases hk : k = key <;> by_cases h : j = k <;>
      simp_all [put, get?]

/-- Setting a key leaves the order of the keys as it is; a key that is new comes last. -/
theorem keys_put {α : Type} (key : Text) (value : α) (ms : List (Text × α)) :
    (put key value ms).map (·.1) =
      if key ∈ ms.map (·.1) then ms.map (·.1) else ms.map (·.1) ++ [key] := by
  induction ms with
  | nil => simp [put]
  | cons m ms ih =>
    obtain ⟨k, v⟩ := m
    by_cases h : k = key
    · simp [put, h]
    · have h' : ¬key = k := fun e => h e.symm
      simp only [put, h, if_false, List.map_cons, ih, List.mem_cons, h', false_or]
      split <;> rfl

end Json

end FieldCode
