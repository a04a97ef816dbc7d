import FieldCode.Graph

/-!
# Class names

Every message and every enum has a generated class.  Its name is the full name of the type without
the package, in which each dot opens a class `Types` that holds what is nested, behind the namespace
of the file and its umbrella class, if the file nests its classes there.
-/

namespace FieldCode

/-- A name within a scope; the empty scope adds nothing. -/
def qualify (scope name : Text) : Text :=
  if scope = [] then name else scope ++ "." ++ name

/-- The empty scope adds nothing. -/
@[simp]
theorem qualify_empty (name : Text) : qualify [] name = name :=
  if_pos rfl

/-- What stands before every class name of a file. -/
def FileOptions.classScope (o : FileOptions) : Text :=
  let outer := o.rootNamespace
  let inner :=
    if o.nested ∧ o.umbrella ≠ [] then
      (if outer ≠ [] then outer ++ "." else outer) ++ o.umbrella
    else outer
  if inner ≠ [] then inner ++ "." else inner

/-- A full name without its package. -/
def relativeName (package fullName : Text) : Text :=
  if package = [] then fullName else fullName.drop (package.length + 1)

/-- A name in which every dot opens a class for nested types. -/
def nestTypes (name : Text) : Text :=
  name.flatMap fun r => if r = .char '.' then ".Types." else [r]

/-- The dots of a name are nested one by one. -/
theorem nestTypes_append (a b : Text) : nestTypes (a ++ b) = nestTypes a ++ nestTypes b :=
  List.flatMap_append

/-- The class name of a type with a full name. -/
def classNameOf (package : Text) (options : FileOptions) (fullName : Text) : Text :=
  "global::" ++ options.classScope ++ nestTypes (relativeName package fullName)

/-- The class name of a type of a graph. -/
def Graph.className (g : Graph) (t : TypeName) : Text :=
  classNameOf g.package g.options t.fullName

end FieldCode
