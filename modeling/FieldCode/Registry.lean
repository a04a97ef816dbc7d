import FieldCode.ClassName

/-!
# The registry of types and the search in it

Before any field is resolved, every message and enum of a schema is registered under its full name.
A reference is looked up in the registry: an absolute one under its own name, a relative one in the
scope it is used in, then in the scope around that, and so on out to the empty scope.  The search
knows only names.  What is found first hides everything of that name further out, whether or not it
is of the sort that the reference wants.
-/

namespace FieldCode

/-- A registered type: an enum, held whole, or a message, held by its names. -/
inductive Declared where
  | enum (type : EnumType)
  | message (names : TypeName)
  deriving DecidableEq

/-- The names of a registered type. -/
def Declared.names : Declared → TypeName
  | enum e => e.toTypeName
  | message m => m

/-- The full name of a registered type. -/
def Declared.fullName (d : Declared) : Text :=
  d.names.fullName

/-- The registered messages and enums. -/
structure Registry where
  /-- The messages. -/
  messages : List TypeName
  /-- The enums. -/
  enums : List EnumType

namespace Registry

/-- The registry of some types. -/
def ofList (ds : List Declared) : Registry where
  messages := ds.filterMap fun
    | .message m => some m
    | .enum _ => none
  enums := ds.filterMap fun
    | .enum e => some e
    | .message _ => none

/-- The type registered under a full name. -/
def find? (r : Registry) (fullName : Text) : Option Declared :=
  match r.messages.find? fun m => m.fullName == fullName with
  | some m => some (.message m)
  | none => (r.enums.find? fun e => e.fullName == fullName).map .enum

end Registry

/-! ## Scopes -/

namespace Scope

/-- The scope around a scope: what stands before its last dot, and the empty scope if it has none. -/
def enclosing (scope : Text) : Text :=
  ((scope.reverse.dropWhile (· != .char '.')).drop 1).reverse

/-- The scope around a scope is shorter. -/
theorem length_enclosing_lt {scope : Text} (h : scope ≠ []) :
    (enclosing scope).length < scope.length := by
  have hle := List.Sublist.length_le
    (List.dropWhile_sublist (fun r => r != .char '.') (l := scope.reverse))
  have hpos := List.length_pos_iff.mpr h
  simp only [List.length_reverse] at hle
  simp only [enclosing, List.length_reverse, List.length_drop]
  omega

/-- A scope and all scopes around it, from the inside out; the empty scope comes last. -/
def outward (scope : Text) : List Text :=
  if _h : scope = [] then [[]] else scope :: outward (enclosing scope)
termination_by scope.length
decreasing_by exact length_enclosing_lt _h

/-- Nothing is around the empty scope. -/
theorem outward_nil : outward [] = [[]] := by
  rw [outward]
  rfl

/-- The search goes on from a scope to the scope around it. -/
theorem outward_of_ne_nil {scope : Text} (h : scope ≠ []) :
    outward scope = scope :: outward (enclosing scope) := by
  rw [outward]
  simp [h]

/-- Every search ends in the empty scope. -/
theorem getLast?_outward (scope : Text) : (outward scope).getLast? = some [] := by
  fun_induction outward scope with
  | case1 => rfl
  | case2 scope h ih =>
    rw [List.getLast?_cons, ih]
    rfl

end Scope

/-- The type that a reference used in a scope refers to. -/
def Registry.resolve (r : Registry) (reference scope : Text) : Option Declared :=
  match reference with
  | .char '.' :: absolute => r.find? absolute
  | _ => (Scope.outward scope).findSome? fun s => r.find? (qualify s reference)

end FieldCode
