import FieldCode.Table.Width

/-!
# Lines of printed text

A text is printed line by line.  Tabs go on to the next eighth place; a line that is too wide is divided
between words, and a word with the blanks behind it stays whole, unless it is wider than a line itself
and may be folded.  Blanks at the end of a line give way before anything else does.  What is too wide
even then is cut.

Dividing keeps every rune (`flatten_divided`): the lines are the line again, one after the other.
-/

namespace FieldCode

namespace Text

/-- The lines of a text, which the line feeds in it part. -/
def lines : Text → List Text
  | [] => [[]]
  | r :: rest =>
    if r = '\n' then [] :: lines rest
    else
      match lines rest with
      | line :: more => (r :: line) :: more
      | [] => [[r]]

/-- The rune parts lines when the room that a text needs is measured. -/
def partsLines (r : Rune) : Bool :=
  [0xa, 0x1c, 0x1d, 0x1e, 0x85, 0x2028, 0x2029].contains r.code

/-- The room that a text needs: the width of its widest line. -/
def room (t : Text) : Nat :=
  go 0 0 t
where
  /-- The room, given the widest line so far and the width of the line at hand. -/
  go (widest current : Nat) : Text → Nat
    | [] => max widest current
    | r :: rest =>
      if partsLines r then go (max widest current) 0 rest
      else go widest (current + runeWidth r) rest

/-- A line with blanks in the place of its tabs; `place` is that of its first rune. -/
def tabbed (place : Nat) : Text → Text
  | [] => []
  | r :: rest =>
    if r = '\t' then
      let step := 8 - place % 8
      blanks step ++ tabbed (place + step) rest
    else r :: tabbed (place + runeWidth r) rest

/-! ## Dividing lines -/

/-- The length of the word at the front of a text, with the blanks around it. -/
def wordLength (t : Text) : Nat :=
  let before := t.takeWhile isBlank
  let word := (t.drop before.length).takeWhile fun r => !isBlank r
  let after := (t.drop (before.length + word.length)).takeWhile isBlank
  before.length + word.length + after.length

/-- There is a word, or a blank, at the front of a text that is not empty. -/
theorem wordLength_pos {t : Text} (h : t ≠ []) : 0 < wordLength t := by
  obtain ⟨r, rest, rfl⟩ := List.exists_cons_of_ne_nil h
  by_cases blank : isBlank r
  · simp only [wordLength, List.takeWhile_cons, blank, if_true, List.length_cons]
    omega
  · simp only [wordLength, List.takeWhile_cons, blank, Bool.not_false, Bool.false_eq_true, if_false,
      if_true, List.length_nil, List.drop_zero, List.length_cons]
    omega

/-- The words of a line, each with the blanks behind it, the first one also with those in front. -/
def words (t : Text) : List Text :=
  if _h : t = [] then [] else t.take (wordLength t) :: words (t.drop (wordLength t))
termination_by t.length
decreasing_by
  have := List.length_pos_iff.mpr _h
  have := wordLength_pos _h
  rw [List.length_drop]
  omega

/-- The words of a line make up the line. -/
theorem flatten_words (t : Text) : (words t).flatten = t := by
  fun_induction words t with
  | case1 => rfl
  | case2 t h ih => rw [List.flatten_cons, ih, List.take_append_drop]

/-- A text without the blanks at its end. -/
def trimEnd (t : Text) : Text :=
  (t.reverse.dropWhile isBlank).reverse

/-- The chunks of a word that fit a width, behind the chunk at hand, last rune first. -/
def folded (places : Nat) (chunk : Text) (taken : Nat) : Text → List Text
  | [] => [chunk.reverse]
  | r :: rest =>
    if places < taken + runeWidth r then
      chunk.reverse :: folded places [r] (runeWidth r) rest
    else folded places (r :: chunk) (taken + runeWidth r) rest

/-- Folding loses nothing. -/
theorem flatten_folded (places : Nat) (chunk : Text) (taken : Nat) (word : Text) :
    (folded places chunk taken word).flatten = chunk.reverse ++ word := by
  induction word generalizing chunk taken with
  | nil => simp [folded]
  | cons r rest ih =>
    rw [folded]
    split
    · simp [ih]
    · simp [ih]

/-- The chunks that a word takes on lines of its own: the word, or what it is folded into. -/
def chunks (places : Nat) (folds : Bool) (word : Text) : List Text :=
  if folds ∧ places < width (trimEnd word) then folded places [] 0 word else [word]

/-- The chunks of a word make up the word. -/
theorem flatten_chunks (places : Nat) (folds : Bool) (word : Text) :
    (chunks places folds word).flatten = word := by
  rw [chunks]
  split
  · rw [flatten_folded]
    rfl
  · simp

/-- All chunks but the last, and then the last, make up the chunks. -/
theorem flatten_dropLast (cs : List Text) : cs.dropLast.flatten ++ cs.getLastD [] = cs.flatten := by
  induction cs with
  | nil => rfl
  | cons c cs ih =>
    cases cs with
    | nil => simp
    | cons d ds =>
      rw [List.dropLast_cons_cons, List.flatten_cons, List.flatten_cons, List.append_assoc, ← ih]
      rfl

/-- Puts words into lines: `line` is the line at hand, and `taken` is how much of it the words before
have taken. -/
def dividedFrom (places : Nat) (folds : Bool) (line : Text) (taken : Nat) : List Text → List Text
  | [] => [line]
  | word :: rest =>
    if taken + width (trimEnd word) ≤ places then
      dividedFrom places folds (line ++ word) (taken + width word) rest
    else
      let done := if line = [] then [] else [line]
      let whole := (chunks places folds word).dropLast
      let last := (chunks places folds word).getLastD []
      done ++ whole ++ dividedFrom places folds last (width last) rest

/-- A line divided into lines of some places. -/
def divided (places : Nat) (folds : Bool) (line : Text) : List Text :=
  dividedFrom places folds [] 0 (words line)

/-- Putting words into lines loses nothing. -/
theorem flatten_dividedFrom (places : Nat) (folds : Bool) (line : Text) (taken : Nat)
    (ws : List Text) :
    (dividedFrom places folds line taken ws).flatten = line ++ ws.flatten := by
  induction ws generalizing line taken with
  | nil => simp [dividedFrom]
  | cons word rest ih =>
    have parts : (chunks places folds word).dropLast.flatten ++
        (chunks places folds word).getLastD [] = word := by
      rw [flatten_dropLast, flatten_chunks]
    have done : (if line = [] then [] else [line]).flatten = line := by
      split <;> simp_all
    rw [dividedFrom]
    split
    · rw [ih, List.flatten_cons, List.append_assoc]
    · rw [List.flatten_append, List.flatten_append, ih, done, List.flatten_cons, List.append_assoc,
        ← List.append_assoc (chunks places folds word).dropLast.flatten, parts]

/-- The lines that a line is divided into make up the line. -/
theorem flatten_divided (places : Nat) (folds : Bool) (line : Text) :
    (divided places folds line).flatten = line := by
  rw [divided, flatten_dividedFrom, flatten_words, List.nil_append]

/-- A line without as many of its last blanks as it has runes too many. -/
def trimExcess (places : Nat) (line : Text) : Text :=
  let blanksAtEnd := line.length - (trimEnd line).length
  line.take (line.length - min blanksAtEnd (line.length - places))

/-- The lines that a text is divided into. -/
def wrapped (places : Nat) (folds : Bool) (t : Text) : List Text :=
  (lines t).flatMap fun line =>
    (divided places folds (tabbed 0 line)).map (trimExcess places)

/-! ## Filling lines -/

/-- A line of at most some places; a cut is marked by three dots. -/
def shortened (places : Nat) (line : Text) : Text :=
  if places < width line then cut (places - 1) line ++ "\u2026" else line

/-- A line of exactly some places, with blanks behind the text. -/
def filledRight (places : Nat) (line : Text) : Text :=
  let short := shortened places line
  short ++ blanks (places - width short)

/-- A line of exactly some places, with blanks before the text. -/
def filledLeft (places : Nat) (line : Text) : Text :=
  let short := shortened places (trimEnd line)
  blanks (places - width short) ++ short

end Text

end FieldCode
