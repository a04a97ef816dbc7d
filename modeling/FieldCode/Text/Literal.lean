import FieldCode.Text.Printable

/-!
# String literals

A text of plain characters can be written as a literal between double quotes.  Three characters are
escaped in it, each by a backslash in front: the backslash, the double quote and the apostrophe.
Every other plain character stands for itself, so the escaped text is found in one pass.
-/

namespace FieldCode.Text

/-- Every character is plain, that is printable ASCII. -/
def allPlain (t : Text) : Bool :=
  t.all isPlain

/-- One rune inside a literal. -/
def literalRune (r : Rune) : Text :=
  if r = '\\' ∨ r = '"' ∨ r = '\'' then [.char '\\', r] else [r]

/-- The literal of a plain text. -/
def literal (t : Text) : Text :=
  .char '"' :: t.flatMap literalRune ++ [.char '"']

end FieldCode.Text
