import FieldCode.Text.Rune

/-!
# Identifier case

A declared name such as `foo_bar9baz` becomes the identifiers `fooBar9Baz` and `FooBar9Baz`.  Only
the ASCII letters and digits of the name are kept.  One left-to-right pass with one bit of state does
the work: the bit says whether the next lower-case letter opens a word.  A dropped character and a
digit set it, a letter clears it.  The two conversions share the pass and differ only in how they
enter it: the Pascal form starts with the bit set, the camel form starts with it clear and lowers a
capital that stands first.
-/

namespace FieldCode.Text

/-- The common pass: `opens` says whether the next lower-case letter opens a word. -/
def joinWords (opens : Bool) : Text → Text
  | [] => []
  | .half _ :: rest => joinWords true rest
  | .char c :: rest =>
    if c.isLower then .char (if opens then c.toUpper else c) :: joinWords false rest
    else if c.isUpper then .char c :: joinWords false rest
    else if c.isDigit then .char c :: joinWords true rest
    else joinWords true rest

/-- The Pascal form of a name: the identifier that opens every word with a capital. -/
def pascal (name : Text) : Text :=
  joinWords true name

/-- The camel form of a name: the identifier that opens every word but the first with a capital.  Only
a capital in the very first place is lowered, so a name that opens with a separator may still open with
a capital. -/
def camel : Text → Text
  | .char c :: rest =>
    if c.isUpper then .char c.toLower :: joinWords false rest
    else joinWords false (.char c :: rest)
  | name => joinWords false name

end FieldCode.Text
