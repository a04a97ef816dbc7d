import FieldCode.Text.Printable

/-!
# Quoted text in messages

A message shows a text between quotes so that blanks and odd characters can be seen.  The quote is
an apostrophe, unless the text holds apostrophes and no double quote.  The backslash and the quote in
use are escaped, line feed, carriage return and tab have escapes of their own, and every other
rune without a shape of its own is written by its code point, in two, four or eight hexadecimal
digits.  Byte strings follow the same rule over bytes, where everything outside the
plain range is written in two digits.
-/

namespace FieldCode.Text

/-- The lower-case hexadecimal digits of a number, padded with zeros to a width. -/
def hex (width : Nat) (n : Nat) : List Char :=
  let ds := Nat.toDigits 16 n
  List.replicate (width - ds.length) '0' ++ ds

/-- The escape of a code point, in the least of three widths that holds it. -/
def codeEscape (n : Nat) : List Char :=
  if n < 0x100 then '\\' :: 'x' :: hex 2 n
  else if n < 0x10000 then '\\' :: 'u' :: hex 4 n
  else '\\' :: 'U' :: hex 8 n

/-- The quote that a text is put between. -/
def quoteFor (t : Text) : Char :=
  if t.contains (.char '\'') && !t.contains (.char '"') then '"' else '\''

/-- One character between quotes. -/
def quotedChar (quote c : Char) : List Char :=
  if c = quote ∨ c = '\\' then ['\\', c]
  else if c = '\n' then ['\\', 'n']
  else if c = '\r' then ['\\', 'r']
  else if c = '\t' then ['\\', 't']
  else if isShown c then [c]
  else codeEscape c.toNat

/-- One rune between quotes. -/
def quotedRune (quote : Char) : Rune → List Char
  | .char c => quotedChar quote c
  | .half n => codeEscape (Rune.half n).code

/-- A text between quotes. -/
def quoted (t : Text) : Text :=
  let quote := quoteFor t
  Text.ofChars (quote :: t.flatMap (quotedRune quote) ++ [quote])

/-- One byte of a byte string between quotes. -/
def quotedByte (quote : Char) (b : UInt8) : List Char :=
  let c := Char.ofNat b.toNat
  if isPlainChar c then quotedChar quote c
  else if c = '\n' then ['\\', 'n']
  else if c = '\r' then ['\\', 'r']
  else if c = '\t' then ['\\', 't']
  else '\\' :: 'x' :: hex 2 b.toNat

/-- A byte string between quotes, marked as one by a leading `b`. -/
def quotedBytes (bs : List UInt8) : Text :=
  let quote := quoteFor (bs.map fun b => .char (Char.ofNat b.toNat))
  Text.ofChars ('b' :: quote :: bs.flatMap (quotedByte quote) ++ [quote])

end FieldCode.Text
