import FieldCode.Default
import FieldCode.Document
import FieldCode.Json
import FieldCode.Text.Quoted

/-!
# Decoding documents

A record is read from a JSON object, entry by entry in the order of declaration.  A key that is not
there takes the default of its entry, and is a fault if the entry has none; a key that no entry has is
passed over.  `null` is accepted everywhere and leaves the entry missing.

A value of another type than the entry's is converted.  Everything can become a text, namely the one
that a message would show; a number or a numeral can become a whole number, which cuts off what stands
behind the point; everything can become a truth value, false for what is empty or zero.  A list and a
record are not converted to.
-/

namespace FieldCode

/-- Why a JSON value is no record. -/
inductive DecodeFault where
  /-- An entry without a default has no key. -/
  | missingKey (key : Text)
  /-- Something else stands where a record is expected. -/
  | notRecord
  /-- Something that has no items stands where a list is expected. -/
  | notList
  /-- An array or an object stands where a whole number is expected. -/
  | notWhole
  /-- A text that is no numeral stands where a whole number is expected. -/
  | notInteger (text : Text)
  /-- A numeral that is too long stands where a whole number is expected. -/
  | tooManyDigits (digits : Nat)
  /-- What is not a number stands where a whole number is expected. -/
  | notANumber
  /-- An infinity stands where a whole number is expected. -/
  | infinite
  /-- Messages are nested too deeply. -/
  | tooDeep
  deriving DecidableEq, Repr

/-- What is said of a fault; nothing if something of the wrong sort stands in a place. -/
def DecodeFault.message? : DecodeFault → Option Text
  | missingKey key => some (Text.quoted key)
  | notInteger text => some (notIntegerMessage .decimal text)
  | tooManyDigits digits => some (tooManyDigitsMessage digits)
  | notANumber => some NumberFault.notANumber.message
  | infinite => some NumberFault.infinite.message
  | notRecord | notList | notWhole | tooDeep => none

/-! ## Conversions -/

namespace Json

mutual

/-- A value as a message shows it inside another one. -/
def shown : Json → Text
  | null => "None"
  | bool true => "True"
  | bool false => "False"
  | int n => Text.ofInt n
  | number x => Text.ofChars x.shown
  | text s => Text.quoted s
  | array [] => "[]"
  | array (item :: items) => "[" ++ item.shown ++ shownItems items ++ "]"
  | object [] => "\x7b\x7d"
  | object ((key, value) :: members) =>
    "\x7b" ++ Text.quoted key ++ ": " ++ value.shown ++ shownMembers members ++ "\x7d"

/-- The items after the first one. -/
def shownItems : List Json → Text
  | [] => []
  | item :: items => ", " ++ item.shown ++ shownItems items

/-- The members after the first one. -/
def shownMembers : List (Text × Json) → Text
  | [] => []
  | (key, value) :: members =>
    ", " ++ Text.quoted key ++ ": " ++ value.shown ++ shownMembers members

end

/-- A value as a text entry holds it. -/
def asText : Json → Option Text
  | null => none
  | text s => some s
  | j => some j.shown

/-- A value as a truth entry holds it. -/
def asFlag : Json → Option Bool
  | null => none
  | bool b => some b
  | int n => some (n != 0)
  | number (.finite _ m) => some (m.significand != 0)
  | number _ => some true
  | text s => some (!s.isEmpty)
  | array items => some (!items.isEmpty)
  | object members => some (!members.isEmpty)

/-- A value as a number entry holds it. -/
def asWhole : Json → Except DecodeFault (Option Whole)
  | null => .ok none
  | bool b => .ok (some (.flag b))
  | int n => .ok (some (.int n))
  | number .nan => .error .notANumber
  | number (.infinite _) => .error .infinite
  | number (.finite negative m) => .ok (some (.int (Double.truncate negative m)))
  | text s =>
    match Numeral.readGrouped s with
    | .ok n => .ok (some (.int n))
    | .error .malformed => .error (.notInteger s)
    | .error (.tooLong digits) => .error (.tooManyDigits digits)
  | array _ | object _ => .error .notWhole

/-- The members of a record. -/
def asRecord : Json → Except DecodeFault (List (Text × Json))
  | object members => .ok members
  | _ => .error .notRecord

/-- The items of a list; what has items but is no array has none that is a record. -/
def asItems : Json → Except DecodeFault (Option (List Json))
  | null => .ok none
  | array items => .ok (some items)
  | text s => if s.isEmpty then .ok (some []) else .error .notRecord
  | object members => if members.isEmpty then .ok (some []) else .error .notRecord
  | bool _ | int _ | number _ => .error .notList

end Json

/-! ## Entries -/

/-- A text entry with a default. -/
def textEntry (key : Text) (default : Option Text) (members : List (Text × Json)) :
    Option Text :=
  match Json.get? key members with
  | some j => j.asText
  | none => default

/-- A text entry without a default. -/
def textRequired (key : Text) (members : List (Text × Json)) :
    Except DecodeFault (Option Text) :=
  match Json.get? key members with
  | some j => .ok j.asText
  | none => .error (.missingKey key)

/-- A truth entry with a default. -/
def flagEntry (key : Text) (default : Option Bool) (members : List (Text × Json)) :
    Option Bool :=
  match Json.get? key members with
  | some j => j.asFlag
  | none => default

/-- A number entry without a default. -/
def wholeRequired (key : Text) (members : List (Text × Json)) :
    Except DecodeFault (Option Whole) :=
  match Json.get? key members with
  | some j => j.asWhole
  | none => .error (.missingKey key)

/-- Decodes items one after the other. -/
def decodeAll {α : Type} (decode : Json → Except DecodeFault α) :
    List Json → Except DecodeFault (List α)
  | [] => .ok []
  | j :: js =>
    match decode j with
    | .error e => .error e
    | .ok a => (decodeAll decode js).map (a :: ·)

/-- Decodes a list of records. -/
def decodeList {α : Type} (decode : Json → Except DecodeFault α) (j : Json) :
    Except DecodeFault (Option (List α)) :=
  match j.asItems with
  | .error e => .error e
  | .ok none => .ok none
  | .ok (some items) => (decodeAll decode items).map some

/-- A list entry that is empty by default. -/
def listEntry {α : Type} (decode : Json → Except DecodeFault α) (key : Text)
    (members : List (Text × Json)) : Except DecodeFault (Option (List α)) :=
  match Json.get? key members with
  | some j => decodeList decode j
  | none => .ok (some [])

/-- A list entry without a default. -/
def listRequired {α : Type} (decode : Json → Except DecodeFault α) (key : Text)
    (members : List (Text × Json)) : Except DecodeFault (Option (List α)) :=
  match Json.get? key members with
  | some j => decodeList decode j
  | none => .error (.missingKey key)

/-! ## Records -/

/-- Decodes the options of a schema file. -/
def FileOptionsDoc.decode (j : Json) : Except DecodeFault FileOptionsDoc :=
  j.asRecord.map fun ms =>
    { rootNamespace := textEntry "namespace" (some []) ms
      umbrella := textEntry "umbrella_classname" (some []) ms
      nested := flagEntry "nest_classes" (some false) ms
      marksCompliance := flagEntry "cls_compliance" (some true) ms }

/-- Decodes the names of the runtime library. -/
def RuntimeNamesDoc.decode (j : Json) : Except DecodeFault RuntimeNamesDoc :=
  j.asRecord.map fun ms =>
    { qualifier := textEntry "runtime_alias" (some "pb::") ms
      nullCheck := textEntry "null_check" (some "ThrowHelper.ThrowIfNull") ms
      compliance := textEntry "cls_compliant_attribute" (some "global::System.CLSCompliant") ms }

/-- Decodes a value of an enum. -/
def EnumValueDoc.decode (j : Json) : Except DecodeFault EnumValueDoc := do
  let ms ← j.asRecord
  let name ← textRequired "name" ms
  let number ← wholeRequired "number" ms
  return ⟨name, number⟩

/-- Decodes an enum. -/
def EnumDoc.decode (j : Json) : Except DecodeFault EnumDoc := do
  let ms ← j.asRecord
  let name ← textRequired "name" ms
  let values ← listRequired EnumValueDoc.decode "values" ms
  return ⟨name, values⟩

/-- Decodes a field. -/
def FieldDoc.decode (j : Json) : Except DecodeFault FieldDoc := do
  let ms ← j.asRecord
  let name ← textRequired "name" ms
  let number ← wholeRequired "number" ms
  let type ← textRequired "type" ms
  return ⟨name, number, type, textEntry "type_name" none ms, textEntry "default" none ms,
    textEntry "property_name" none ms⟩

/-- How deeply messages may be nested. -/
def MessageDoc.maxDepth : Nat :=
  195

mutual

/-- Decodes a message that has other messages inside it to a depth less than `room`. -/
def MessageDoc.decodeWithin (room : Nat) : Json → Except DecodeFault MessageDoc
  | .object ms =>
    if room = 0 then .error .tooDeep
    else
      match textRequired "name" ms, listEntry FieldDoc.decode "fields" ms with
      | .error e, _ => .error e
      | .ok _, .error e => .error e
      | .ok name, .ok fields =>
        match MessageDoc.decodeInner (room - 1) ms with
        | .error e => .error e
        | .ok messages =>
          (listEntry EnumDoc.decode "enums" ms).map fun enums => ⟨name, fields, messages, enums⟩
  | _ => .error .notRecord

/-- Decodes the messages inside a message, found among its members. -/
def MessageDoc.decodeInner (room : Nat) :
    List (Text × Json) → Except DecodeFault (Option (List MessageDoc))
  | [] => .ok (some [])
  | (key, j) :: ms =>
    if key = "messages" then MessageDoc.decodeItems room j else decodeInner room ms

/-- Decodes a list of messages. -/
def MessageDoc.decodeItems (room : Nat) : Json → Except DecodeFault (Option (List MessageDoc))
  | .array items => (MessageDoc.decodeEach room items).map some
  | j => j.asItems.map fun items => items.map fun _ => []

/-- Decodes messages one after the other. -/
def MessageDoc.decodeEach (room : Nat) : List Json → Except DecodeFault (List MessageDoc)
  | [] => .ok []
  | j :: js =>
    match MessageDoc.decodeWithin room j with
    | .error e => .error e
    | .ok m => (decodeEach room js).map (m :: ·)

end

/-- Decodes a message. -/
def MessageDoc.decode (j : Json) : Except DecodeFault MessageDoc :=
  MessageDoc.decodeWithin MessageDoc.maxDepth j

/-- Decodes a schema file. -/
def SchemaDoc.decode (j : Json) : Except DecodeFault SchemaDoc := do
  let ms ← j.asRecord
  let package := textEntry "package" (some []) ms
  let options ←
    match Json.get? "options" ms with
    | none => .ok (some {})
    | some .null => .ok none
    | some j => (FileOptionsDoc.decode j).map some
  let messages ← listEntry MessageDoc.decode "messages" ms
  let enums ← listEntry EnumDoc.decode "enums" ms
  return ⟨package, options, messages, enums⟩

end FieldCode
