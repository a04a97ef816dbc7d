import FieldCode.Table.Picture

/-!
# Markup in printed text

A printed text may hold tags between square brackets, which style what stands between an opening and a
closing one and are not printed themselves.  A bracket opens a tag if a small letter or one of three
signs follows it and the next bracket closes it; every other bracket is text.  Backslashes in front of a
tag escape it: each two of them are one backslash of text, and one that is left over makes the tag text.
In front of a bracket that opens no tag, a backslash is dropped.

`escaped` prepares a text for printing, so that its tags are shown.  It says nothing of brackets that
open no tag, so a backslash in front of one of these is lost, and a backslash that ends the text is
doubled.
-/

namespace FieldCode

namespace Text

/-- A piece of a text with markup: text without tags, or a tag with the backslashes in front of it. -/
inductive Piece where
  | plain (text : Text)
  | tag (slashes : Nat) (inside : Text)
  deriving DecidableEq, Repr

/-- Why a text with markup cannot be printed. -/
inductive MarkupFault where
  /-- A closing tag has no opening one. -/
  | unopened (inside : Text)
  deriving DecidableEq, Repr

/-- The first character inside a tag. -/
def opensTag (c : Char) : Bool :=
  c.isLower || c == '#' || c == '/' || c == '@'

/-- The rune is a square bracket. -/
def isBracket (r : Rune) : Bool :=
  r == .char '[' || r == .char ']'

/-- How many runes stand inside the tag whose bracket has just been opened, if it is one. -/
def tagLength? : Text → Option Nat
  | [] => none
  | r :: rest =>
    let n := (rest.takeWhile fun r => !isBracket r).length
    if r.satisfies opensTag ∧ rest[n]? = some (.char ']') then some (n + 1) else none

/-- Backslashes. -/
def backslashes (n : Nat) : Text :=
  List.replicate n (.char '\\')

/-- The pieces of a text, behind some text without tags, last rune first, and some backslashes. -/
def piecesAfter (passed : Text) (slashes : Nat) : Text → List Piece
  | [] => [.plain (backslashes slashes ++ passed).reverse]
  | r :: rest =>
    if r = '\\' then piecesAfter passed (slashes + 1) rest
    else
      match if r = '[' then tagLength? rest else none with
      | some n =>
        .plain passed.reverse :: .tag slashes (rest.take n) :: piecesAfter [] 0 (rest.drop (n + 1))
      | none => piecesAfter (r :: (backslashes slashes ++ passed)) 0 rest
termination_by t => t.length
decreasing_by all_goals (simp only [List.length_drop, List.length_cons]; omega)

/-- The pieces of a text with markup. -/
def pieces (t : Text) : List Piece :=
  piecesAfter [] 0 t

/-! ## Escaping -/

/-- A piece with its tag escaped. -/
def Piece.escaped : Piece → Text
  | plain t => t
  | tag slashes inside => backslashes (2 * slashes + 1) ++ "[" ++ inside ++ "]"

/-- A text with its tags escaped. -/
def escaped (t : Text) : Text :=
  let e := (pieces t).flatMap Piece.escaped
  match e.reverse with
  | [.char '\\'] => e ++ "\\"
  | .char '\\' :: r :: _ => if r = '\\' then e else e ++ "\\"
  | _ => e

/-! ## Printing -/

/-- A text without the backslashes in front of its opening brackets. -/
def bareBrackets : Text → Text
  | .char '\\' :: .char '[' :: rest => .char '[' :: bareBrackets rest
  | r :: rest => r :: bareBrackets rest
  | [] => []

/-- The name of a style: what stands before an equals sign, upper and lower case taken as one. -/
def styleName (inside : Text) : Text :=
  lower (trim (inside.takeWhile (· != .char '=')))

/-- The open styles after a tag, the last one opened first. -/
def styled (styles : List Text) (inside : Text) : Except MarkupFault (List Text) :=
  match inside with
  | .char '/' :: name =>
    if styleName name = [] then
      match styles with
      | _ :: styles => .ok styles
      | [] => .error (.unopened inside)
    else if styles.contains (styleName name) then .ok (styles.erase (styleName name))
    else .error (.unopened inside)
  | _ => .ok (styleName inside :: styles)

/-- The text of some pieces between open styles. -/
def printedPieces : List Text → List Piece → Except MarkupFault Text
  | _, [] => .ok []
  | styles, .plain t :: rest =>
    (printedPieces styles rest).map (withPictures (bareBrackets t) ++ ·)
  | styles, .tag slashes inside :: rest =>
    if slashes % 2 = 1 then
      (printedPieces styles rest).map
        (backslashes (slashes / 2) ++ withPictures ("[" ++ inside ++ "]") ++ ·)
    else
      match styled styles inside with
      | .error e => .error e
      | .ok styles => (printedPieces styles rest).map (backslashes (slashes / 2) ++ ·)

/-- The rune is a control character that is left out in print: bell, backspace, vertical tab, form feed
or carriage return. -/
def isSuppressed (r : Rune) : Bool :=
  [0x7, 0x8, 0xb, 0xc, 0xd].contains r.code

/-- The text that a text with markup is printed as. -/
def printed (t : Text) : Except MarkupFault Text :=
  (printedPieces [] (pieces t)).map fun t => t.filter fun r => !isSuppressed r

end Text

end FieldCode
