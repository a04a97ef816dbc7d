/-!
# Texts

A text is a sequence of *runes*.  Most runes are characters; the others are halves of surrogate pairs
that stand alone, which a JSON file can name by escapes although no encoding of text has them.  A text
with a half in it can be stored, compared, joined and shown, but it cannot be printed, and
`Text.toString?` is where that is found out.

String and character literals stand for texts and runes wherever these are wanted.
-/

namespace FieldCode

/-- A unit of text: a character, or half of a surrogate pair that stands alone. -/
inductive Rune where
  | char (c : Char)
  | half (n : Fin 2048)
  deriving DecidableEq, Repr

/-- A text. -/
abbrev Text :=
  List Rune

/-- What follows a word at the front of some characters. -/
def after? (word cs : List Char) : Option (List Char) :=
  if word.isPrefixOf cs then some (cs.drop word.length) else none

namespace Rune

/-- The code point of a rune. -/
def code : Rune → Nat
  | char c => c.toNat
  | half n => 0xd800 + n

/-- The rune with a code point; what is no code point has the replacement character. -/
def ofCode (n : Nat) : Rune :=
  if h : 0xd800 ≤ n ∧ n < 0xe000 then half ⟨n - 0xd800, by omega⟩
  else if n < 0x110000 then char (Char.ofNat n)
  else char '\ufffd'

/-- The character that a rune is. -/
def toChar? : Rune → Option Char
  | char c => some c
  | half _ => none

/-- A rune satisfies a test for characters. -/
def satisfies (p : Char → Bool) : Rune → Bool
  | char c => p c
  | half _ => false

/-- A rune with a small letter of ASCII replaced by its capital. -/
def toUpper : Rune → Rune
  | char c => char c.toUpper
  | half n => half n

end Rune

namespace Text

/-- The text of some characters. -/
def ofChars (cs : List Char) : Text :=
  cs.map .char

/-- The text of a string. -/
def ofString (s : String) : Text :=
  ofChars s.toList

/-- The characters of a text; none if a half of a pair is among its runes. -/
def toChars? : Text → Option (List Char)
  | [] => some []
  | .char c :: rest => (toChars? rest).map (c :: ·)
  | .half _ :: _ => none

/-- The string that a text prints as; none if it cannot be printed. -/
def toString? (t : Text) : Option String :=
  (toChars? t).map String.ofList

/-- A text of characters has its characters. -/
@[simp]
theorem toChars?_ofChars (cs : List Char) : toChars? (ofChars cs) = some cs := by
  induction cs with
  | nil => rfl
  | cons c cs ih =>
    simp only [ofChars, List.map_cons, toChars?] at ih ⊢
    rw [ih]
    rfl

end Text

instance : Coe Char Rune :=
  ⟨.char⟩

instance : Coe String Text :=
  ⟨Text.ofString⟩

end FieldCode
