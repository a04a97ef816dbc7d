import FieldCode.Graph
import FieldCode.Text.Blank
import FieldCode.Text.Escape
import FieldCode.Text.Lower

/-!
# Default values

The default of a field is either implied by its kind or read from a text in the schema, and how the
text is read depends on the family of the kind.  An integer may be written in base ten, behind a zero
in base eight, and behind `0x` in base sixteen; its sign and the announcement of its base are taken
off here, and the rest is read as a numeral of that base.
-/

namespace FieldCode

/-- Why a text is no default of a kind. -/
inductive DefaultFault where
  /-- The text of a number groups its digits. -/
  | grouped (text : Text)
  /-- The rest of an integer is no numeral of its base. -/
  | notInteger (base : Base) (rest : Text)
  /-- The rest of an integer is too long a numeral. -/
  | tooManyDigits (digits : Nat)
  /-- The integer is outside the range of the kind. -/
  | outOfRange (text : Text) (kind : Kind)
  /-- The trimmed text in lower case is no number. -/
  | notDouble (text : Text)
  /-- The text is neither of the two truth values. -/
  | notBool (text : Text)
  /-- The text stands for no byte string. -/
  | escape (fault : Text.EscapeFault)
  /-- There is no enum to look the text up in. -/
  | noEnum
  /-- The enum has no value of this name. -/
  | noMember (enum text : Text)
  /-- Fields of the kind have no explicit defaults. -/
  | notAllowed
  deriving DecidableEq

/-- How many characters of a refused numeral are shown. -/
def shownNumeral : Nat :=
  200

/-- What is said of a refused integer numeral. -/
def notIntegerMessage (base : Base) (rest : Text) : Text :=
  "invalid literal for int() with base " ++ toString base.size ++ ": " ++
    (Text.quoted rest).take shownNumeral

/-- What is said of an integer numeral with too many digits. -/
def tooManyDigitsMessage (digits : Nat) : Text :=
  "Exceeds the limit (" ++ toString Numeral.maxDigits ++
    " digits) for integer string conversion: value has " ++ toString digits ++
    " digits; use sys.set_int_max_str_digits() to increase the limit"

/-- What is said of a refused default. -/
def DefaultFault.message : DefaultFault → Text
  | grouped text => "digit separators are not allowed in " ++ Text.quoted text
  | notInteger base rest => notIntegerMessage base rest
  | tooManyDigits digits => tooManyDigitsMessage digits
  | outOfRange text kind => text ++ " out of range for " ++ kind.tag
  | notDouble text =>
    "could not convert string to float: " ++ Text.quoted text
  | notBool text => "expected true or false, got " ++ Text.quoted text
  | escape fault => fault.message
  | noEnum => "enum field has no enum type"
  | noMember enum text => enum ++ " has no value named " ++ text
  | notAllowed => "message and group fields cannot have default values"

/-! ## Numbers -/

/-- The base that an unsigned integer is written in, and its text without the announcement. -/
def splitBase : Text → Base × Text
  | .char '0' :: r :: t => if r = 'x' ∨ r = 'X' then (.hexadecimal, t) else (.octal, r :: t)
  | t => (.decimal, t)

/-- A minus sign, if one stands first, and the rest. -/
def splitMinus : Text → Bool × Text
  | .char '-' :: t => (true, t)
  | t => (false, t)

/-- The integer that a text writes. -/
def readInteger (text : Text) : Except DefaultFault Int :=
  let signRest := splitMinus (Text.trim text)
  let baseRest := splitBase signRest.2
  match Numeral.readInteger baseRest.1 baseRest.2 with
  | .ok n => .ok (if signRest.1 then -n else n)
  | .error .malformed => .error (.notInteger baseRest.1 baseRest.2)
  | .error (.tooLong digits) => .error (.tooManyDigits digits)

/-- The integer lies in the range of the kind. -/
def Kind.inRange (k : Kind) (n : Int) : Bool :=
  match k.integerRange? with
  | some (low, high) => low ≤ n && n ≤ high
  | none => true

/-- The double that a text writes. -/
def readDouble (text : Text) : Except DefaultFault Double :=
  let lowered := Text.lower (Text.trim text)
  match Numeral.readDouble? lowered with
  | some x => .ok x
  | none => .error (.notDouble lowered)

/-- The default of a numeric kind that a text writes. -/
def Kind.readNumber (k : Kind) (text : Text) : Except DefaultFault Value :=
  if text.contains (.char '_') then .error (.grouped text)
  else if k.isFloating then (readDouble text).map .double
  else
    match readInteger text with
    | .error e => .error e
    | .ok n => if k.inRange n then .ok (.int n) else .error (.outOfRange text k)

/-! ## All kinds -/

/-- The default that a text writes for a field of a kind; `enum` is the enum of an enum field. -/
def Kind.readDefault (k : Kind) (text : Text) (enum : Option EnumType) :
    Except DefaultFault Value :=
  match k.family with
  | .numeric => k.readNumber text
  | .bool =>
    if text = "true" then .ok (.bool true)
    else if text = "false" then .ok (.bool false)
    else .error (.notBool text)
  | .string => .ok (.text text)
  | .bytes =>
    match Text.readBytes text with
    | .ok bs => .ok (.bytes bs)
    | .error e => .error (.escape e)
  | .enum =>
    match enum with
    | none => .error .noEnum
    | some e =>
      match e.find? text with
      | some m => .ok (.member m)
      | none => .error (.noMember e.fullName text)
  | .message => .error .notAllowed

/-- The default that a kind implies: zero, false, nothing, or the first value of the enum. -/
def Kind.impliedDefault (k : Kind) (enum : Option EnumType) : Value :=
  match k.family with
  | .numeric => if k.isFloating then .double (.zero false) else .int 0
  | .bool => .bool false
  | .string => .text []
  | .bytes => .bytes []
  | .enum =>
    match enum.bind (·.members.head?) with
    | some m => .member m
    | none => .none
  | .message => .none

end FieldCode
