import FieldCode.Text.Lower
import FieldCode.Text.Quoted

/-!
# Field kinds

The kinds a message field can have form a closed set of eighteen, each with a *tag*, the capitalised
name that picks the reading and writing routines of the kind.  What a kind implies is said here once,
by functions on the set: the family that decides how its default is written, the sets it belongs to,
the type that holds its values, and the number of bytes it always takes, if there is one.

A *tag text* need not name a kind.  `KindTag` keeps the two cases apart, and its second case holds the
proof that the text is no tag, so that equal texts are equal tags.
-/

namespace FieldCode

/-- The eighteen kinds of field. -/
inductive Kind where
  | float
  | double
  | int32
  | int64
  | uint32
  | uint64
  | sint32
  | sint64
  | fixed32
  | fixed64
  | sfixed32
  | sfixed64
  | bool
  | string
  | bytes
  | enum
  | message
  | group
  deriving DecidableEq, Repr

/-- Which rule writes the default of a kind. -/
inductive Family where
  | numeric
  | bool
  | string
  | bytes
  | enum
  | message
  deriving DecidableEq, Repr

/-- The sets that kinds are sorted into. -/
inductive KindSet where
  | numeric
  | floating
  | varint
  | composite
  | scalar
  | value
  | reference
  deriving DecidableEq, Repr

namespace Kind

/-- All kinds, in the order in which they are tried and listed. -/
def all : List Kind :=
  [float, double, int32, int64, uint32, uint64, sint32, sint64, fixed32, fixed64, sfixed32,
    sfixed64, bool, string, bytes, enum, message, group]

/-- The tag of a kind. -/
def tag : Kind → Text
  | float => "Float"
  | double => "Double"
  | int32 => "Int32"
  | int64 => "Int64"
  | uint32 => "UInt32"
  | uint64 => "UInt64"
  | sint32 => "SInt32"
  | sint64 => "SInt64"
  | fixed32 => "Fixed32"
  | fixed64 => "Fixed64"
  | sfixed32 => "SFixed32"
  | sfixed64 => "SFixed64"
  | bool => "Bool"
  | string => "String"
  | bytes => "Bytes"
  | enum => "Enum"
  | message => "Message"
  | group => "Group"

/-- The kind with exactly this tag. -/
def ofTag? (text : Text) : Option Kind :=
  all.find? fun k => k.tag == text

/-- Every kind is listed. -/
theorem mem_all (k : Kind) : k ∈ all := by
  cases k <;> decide

/-- A kind is found under its tag. -/
@[simp]
theorem ofTag?_tag (k : Kind) : ofTag? k.tag = some k := by
  cases k <;> decide

/-- A kind is found under no other text. -/
theorem tag_of_ofTag? {text : Text} {k : Kind} (h : ofTag? text = some k) : k.tag = text := by
  have found := List.find?_some h
  simpa using found

/-- The kind with this tag, upper and lower case taken as one. -/
def ofName? (name : Text) : Option Kind :=
  all.find? fun k => Text.lower k.tag == Text.lower name

/-- The constant of a kind: its tag in capitals. -/
def constant (k : Kind) : Text :=
  k.tag.map Rune.toUpper

/-- The family of a kind. -/
def family : Kind → Family
  | bool => .bool
  | string => .string
  | bytes => .bytes
  | enum => .enum
  | message | group => .message
  | _ => .numeric

/-- The kind holds binary floating-point numbers. -/
def isFloating : Kind → Bool
  | float | double => true
  | _ => false

/-- The kind is written with a variable number of seven-bit groups. -/
def isVarint : Kind → Bool
  | int32 | int64 | uint32 | uint64 | sint32 | sint64 => true
  | _ => false

/-- The type of a field of this kind is declared elsewhere and named by the field. -/
def isComposite : Kind → Bool
  | enum | message | group => true
  | _ => false

/-- The kind is numeric. -/
def isNumeric (k : Kind) : Bool :=
  k.family == .numeric

/-- A value of the kind can be absent, and is guarded against that. -/
def isReference : Kind → Bool
  | string | bytes | message | group => true
  | _ => false

/-- The kind holds integers without a sign, which some languages on the platform lack. -/
def isUnsigned : Kind → Bool
  | uint32 | uint64 | fixed32 | fixed64 => true
  | _ => false

/-- How many bytes every value of the kind takes; none if that depends on the value. -/
def fixedSize? : Kind → Option Nat
  | float | fixed32 | sfixed32 => some 4
  | double | fixed64 | sfixed64 => some 8
  | bool => some 1
  | _ => none

/-- The least and the greatest value of an integer kind. -/
def integerRange? : Kind → Option (Int × Int)
  | int32 | sint32 | sfixed32 => some (-2147483648, 2147483647)
  | int64 | sint64 | sfixed64 => some (-9223372036854775808, 9223372036854775807)
  | uint32 | fixed32 => some (0, 4294967295)
  | uint64 | fixed64 => some (0, 18446744073709551615)
  | _ => none

/-- The type that holds the values of a scalar kind, given how a name of the runtime library is
qualified. -/
def typeName? (runtime : Text → Text) : Kind → Option Text
  | float => some "float"
  | double => some "double"
  | int32 | sint32 | sfixed32 => some "int"
  | int64 | sint64 | sfixed64 => some "long"
  | uint32 | fixed32 => some "uint"
  | uint64 | fixed64 => some "ulong"
  | bool => some "bool"
  | string => some "string"
  | bytes => some (runtime "ByteString")
  | enum | message | group => none

end Kind

namespace KindSet

/-- All sets, in the order in which they are listed. -/
def all : List KindSet :=
  [numeric, floating, varint, composite, scalar, value, reference]

/-- The set holds the kind. -/
def holds : KindSet → Kind → Bool
  | numeric, k => k.isNumeric
  | floating, k => k.isFloating
  | varint, k => k.isVarint
  | composite, k => k.isComposite
  | scalar, k => !k.isComposite
  | value, k => !k.isReference
  | reference, k => k.isReference

/-- The sets that hold a kind. -/
def of (k : Kind) : List KindSet :=
  all.filter (holds · k)

end KindSet

/-- A tag as written: that of a kind, or a text that is no tag. -/
inductive KindTag where
  | known (kind : Kind)
  | unknown (text : Text) (unlisted : Kind.ofTag? text = none)
  deriving DecidableEq

namespace KindTag

/-- Reads a tag text. -/
def ofText (text : Text) : KindTag :=
  match h : Kind.ofTag? text with
  | some k => known k
  | none => unknown text h

/-- The text of a tag. -/
def text : KindTag → Text
  | known k => k.tag
  | unknown s _ => s

/-- Reading a tag text loses nothing of it. -/
@[simp]
theorem text_ofText (s : Text) : (ofText s).text = s := by
  unfold ofText
  split
  · exact Kind.tag_of_ofTag? (by assumption)
  · rfl

/-- Every tag is read from its text, so tags with one text are one tag. -/
@[simp]
theorem ofText_text (t : KindTag) : ofText t.text = t := by
  unfold ofText
  cases t with
  | known k =>
    split
    · rename_i j h
      simp only [text, Kind.ofTag?_tag, Option.some.injEq] at h
      rw [h]
    · rename_i h
      simp [text] at h
  | unknown s unlisted =>
    split
    · rename_i j h
      simp [text, unlisted] at h
    · rfl

/-- How a message shows a tag: a kind by its constant and its tag, any other text between quotes. -/
def shown : KindTag → Text
  | known k => "<WireFieldType." ++ k.constant ++ ": '" ++ k.tag ++ "'>"
  | unknown s _ => Text.quoted s

/-- The tags of all kinds. -/
def all : List KindTag :=
  Kind.all.map known

/-- The tags of the numeric kinds. -/
def numeric : List KindTag :=
  (Kind.all.filter Kind.isNumeric).map known

end KindTag

/-- A tag reached a place that has no rule for it.  `place` says where, and may be empty. -/
structure UnhandledKind where
  /-- The tag without a rule. -/
  tag : KindTag
  /-- The field or table that it was met in. -/
  place : Text
  deriving DecidableEq

/-- What is said of a tag without a rule. -/
def UnhandledKind.message (e : UnhandledKind) : Text :=
  "Invalid field descriptor type: " ++ e.tag.shown ++
    (if e.place = [] then [] else " (field " ++ e.place ++ ")" : Text)

/-- The kind of a tag, or the complaint that there is none. -/
def KindTag.kind (place : Text) : KindTag → Except UnhandledKind Kind
  | .known k => .ok k
  | .unknown s h => .error ⟨.unknown s h, place⟩

end FieldCode
