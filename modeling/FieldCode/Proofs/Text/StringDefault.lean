import FieldCode.Proofs.Graph.Reference

/-!
# String defaults are exact

The default of a string field is written in one of two ways.  A text of printable ASCII becomes a
literal between double quotes, and every other text a reference that does not depend on the text at
all.  A literal is made by `Text.literal` in one pass; to replace the backslashes first, then the
apostrophes and then the double quotes over the whole text comes to the same
(`literalInPasses_eq_literal`), because the only rune that a later pass could meet twice is the
backslash, and its pass is the first one.

What a literal is good for is said from the side of its reader.  `Text.closeLiteral?` looks for the
double quote that ends it, a backslash taking whatever stands behind it, and `Text.unescape?`
undoes the three escapes and knows no others.  `Text.IsLiteralOf` says that a reader of this sort
comes to the end of the literal and to nothing else, and finds the text there.
-/

namespace FieldCode

namespace Text

/-! ## Three passes and one -/

/-- A text in which each occurrence of a rune is replaced by a text. -/
def replaceEach (old : Rune) (new : Text) (t : Text) : Text :=
  t.flatMap fun r => if r = old then new else [r]

/-- The literal of a text, made by three passes over the whole text, one for each escape. -/
def literalInPasses (t : Text) : Text :=
  "\"" ++ replaceEach '"' "\\\"" (replaceEach '\'' "\\'" (replaceEach '\\' "\\\\" t)) ++ "\""

/-- A pass over what was put together from pieces is a pass over each piece. -/
theorem replaceEach_flatMap (old : Rune) (new : Text) (f : Rune → Text) (t : Text) :
    replaceEach old new (t.flatMap f) = t.flatMap fun r => replaceEach old new (f r) :=
  List.flatMap_assoc

/-- The three passes and the one pass make the same literal. -/
theorem literalInPasses_eq_literal (t : Text) : literalInPasses t = literal t := by
  have hrune : ∀ r : Rune, replaceEach '"' "\\\"" (replaceEach '\'' "\\'"
      (if r = '\\' then "\\\\" else [r])) = literalRune r := by
    intro r
    by_cases hbackslash : r = '\\'
    · rw [hbackslash]
      decide
    by_cases happostrophe : r = '\''
    · rw [happostrophe]
      decide
    by_cases hquote : r = '"'
    · rw [hquote]
      decide
    · simp [replaceEach, literalRune, hbackslash, happostrophe, hquote]
  have hpasses : replaceEach '"' "\\\"" (replaceEach '\'' "\\'" (replaceEach '\\' "\\\\" t)) =
      t.flatMap literalRune := by
    rw [← funext hrune, ← replaceEach_flatMap, ← replaceEach_flatMap]
    rfl
  rw [literalInPasses, hpasses]
  rfl

/-! ## Reading a literal -/

/-- What stands before the first double quote that is not escaped, and what stands behind it; none
if there is no such quote.  A backslash takes the rune behind it, whichever that is. -/
def closeLiteral? : Text → Option (Text × Text)
  | [] => none
  | [.char '\\'] => none
  | .char '"' :: rest => some ([], rest)
  | .char '\\' :: r :: rest => (closeLiteral? rest).map fun p => (.char '\\' :: r :: p.1, p.2)
  | r :: rest => (closeLiteral? rest).map fun p => (r :: p.1, p.2)

/-- The text that the inside of a literal stands for; none if a backslash stands before anything
but a backslash, a double quote or an apostrophe. -/
def unescape? : Text → Option Text
  | [] => some []
  | [.char '\\'] => none
  | .char '\\' :: r :: rest =>
    if r = '\\' ∨ r = '"' ∨ r = '\'' then (unescape? rest).map (r :: ·) else none
  | r :: rest => (unescape? rest).map (r :: ·)

/-- Every rune is a character from the space to the tilde. -/
def IsPrintable (t : Text) : Prop :=
  ∀ r ∈ t, 0x20 ≤ r.code ∧ r.code ≤ 0x7e

instance (t : Text) : Decidable t.IsPrintable :=
  inferInstanceAs (Decidable (∀ r ∈ t, 0x20 ≤ r.code ∧ r.code ≤ 0x7e))

/-- The text is a literal of printable characters for another text: the first double quote that is
not escaped is the last rune, and between the quotes stands the other text but for escapes. -/
structure IsLiteralOf (lit t : Text) : Prop where
  printable : lit.IsPrintable
  closed : ∃ inside, lit = .char '"' :: inside ++ [.char '"'] ∧
    closeLiteral? (inside ++ [.char '"']) = some (inside, []) ∧ unescape? inside = some t

/-- A literal stands for one text. -/
theorem IsLiteralOf.unique {lit t t' : Text} (h : lit.IsLiteralOf t) (h' : lit.IsLiteralOf t') :
    t = t' := by
  obtain ⟨inside, hlit, -, hread⟩ := h.closed
  obtain ⟨inside', hlit', -, hread'⟩ := h'.closed
  have hinside : inside = inside' :=
    List.append_cancel_right (List.cons.inj (hlit.symm.trans hlit')).2
  rw [hinside, hread', Option.some.injEq] at hread
  exact hread.symm

/-! ## The literal of a plain text -/

/-- A rune is escaped by a backslash, or it is none of the three that have to be and stands for
itself. -/
theorem literalRune_cases (r : Rune) :
    ((r = '\\' ∨ r = '"' ∨ r = '\'') ∧ literalRune r = [.char '\\', r]) ∨
      (r ≠ '\\' ∧ r ≠ '"') ∧ literalRune r = [r] := by
  unfold literalRune
  split_ifs with h
  · exact Or.inl ⟨h, rfl⟩
  · rw [not_or, not_or] at h
    exact Or.inr ⟨⟨h.1, h.2.1⟩, rfl⟩

/-- The search for the end of a literal passes over each of its runes. -/
theorem closeLiteral?_literalRune_append (r : Rune) (rest : Text) :
    closeLiteral? (literalRune r ++ rest) =
      (closeLiteral? rest).map fun p => (literalRune r ++ p.1, p.2) := by
  rcases literalRune_cases r with ⟨-, h⟩ | ⟨⟨hbackslash, hquote⟩, h⟩
  · rw [h]
    rfl
  · rw [h, List.singleton_append, closeLiteral?]
    · rfl
    · rintro rfl
      exact absurd rfl hbackslash
    · exact hquote
    · rintro - - rfl
      exact absurd rfl hbackslash

theorem unescape?_literalRune_append (r : Rune) (rest : Text) :
    unescape? (literalRune r ++ rest) = (unescape? rest).map (r :: ·) := by
  rcases literalRune_cases r with ⟨hr, h⟩ | ⟨⟨hbackslash, -⟩, h⟩
  · rw [h]
    exact if_pos hr
  · rw [h, List.singleton_append, unescape?]
    · rintro rfl
      exact absurd rfl hbackslash
    · rintro - - rfl
      exact absurd rfl hbackslash

/-- The end of a literal is found behind its runes, whatever stands behind the literal. -/
theorem closeLiteral?_flatMap_append (t rest : Text) :
    closeLiteral? (t.flatMap literalRune ++ .char '"' :: rest) =
      some (t.flatMap literalRune, rest) := by
  induction t with
  | nil => rfl
  | cons r t ih =>
    rw [List.flatMap_cons, List.append_assoc, closeLiteral?_literalRune_append, ih]
    rfl

/-- Undoing the escapes gives the text back. -/
theorem unescape?_flatMap (t : Text) : unescape? (t.flatMap literalRune) = some t := by
  induction t with
  | nil => rfl
  | cons r t ih =>
    rw [List.flatMap_cons, unescape?_literalRune_append, ih]
    rfl

/-- The test for plain characters is about the range from the space to the tilde. -/
theorem allPlain_iff (t : Text) : allPlain t = true ↔ t.IsPrintable := by
  rw [allPlain, List.all_eq_true]
  refine forall₂_congr fun r _ => ?_
  cases r with
  | char c =>
    show isPlainChar c = true ↔ 0x20 ≤ c.toNat ∧ c.toNat ≤ 0x7e
    rw [isPlainChar, Bool.and_eq_true, decide_eq_true_iff, decide_eq_true_iff]
  | half n =>
    -- a lone half of a pair stands far behind the tilde
    show false = true ↔ 0x20 ≤ 0xd800 + n.val ∧ 0xd800 + n.val ≤ 0x7e
    simp only [Bool.false_eq_true, false_iff]
    omega

theorem isPrintable_literal {t : Text} (h : t.IsPrintable) : (literal t).IsPrintable := by
  intro r hr
  rw [literal, List.cons_append, List.mem_cons, List.mem_append, List.mem_flatMap,
    List.mem_singleton] at hr
  rcases hr with rfl | ⟨r', hr', hr⟩ | rfl
  · decide
  · rcases literalRune_cases r' with ⟨-, hrune⟩ | ⟨-, hrune⟩
    · rw [hrune, List.mem_cons, List.mem_singleton] at hr
      rcases hr with rfl | rfl
      · decide
      · exact h _ hr'
    · rw [hrune, List.mem_singleton] at hr
      exact hr ▸ h r' hr'
  · decide

theorem isLiteralOf_literal {t : Text} (h : t.IsPrintable) : (literal t).IsLiteralOf t where
  printable := isPrintable_literal h
  closed := ⟨t.flatMap literalRune, rfl, closeLiteral?_flatMap_append t [], unescape?_flatMap t⟩

end Text

/-! ## The default of a string field -/

/-- The field with an explicit default. -/
def Field.withExplicit (f : Field) (t : Text) : Field :=
  { f with rawDefault := some t }

namespace Field

variable {g : Graph} {f : Field} {style : Style} {t : Text}

theorem defaultText_withExplicit (hkind : f.kind = .known .string) (ht : t.IsPrintable) :
    (f.withExplicit t).defaultText (g.settings style) = .ok (Text.literal t) := by
  have hkind' : (f.withExplicit t).kind? = .ok .string := kind?_of_kind hkind
  have hplain : Text.allPlain ((f.withExplicit t).rawDefault.getD []) = true :=
    (Text.allPlain_iff t).mpr ht
  rw [defaultText, hkind']
  exact if_pos hplain

/-- A default that is not printable is written as the reference to the place of the field. -/
theorem defaultText_withExplicit_of_not (hkind : f.kind = .known .string) (ht : ¬ t.IsPrintable) :
    (f.withExplicit t).defaultText (g.settings style) =
      .ok (referenceText "string" (style.namer.getD g.className f.container) f.index) := by
  have hback : (f.withExplicit t).ReadsDefaultBack :=
    Or.inr ⟨hkind, Bool.eq_false_iff.mpr fun h => ht ((Text.allPlain_iff t).mp h)⟩
  obtain ⟨cast, hcast, hdefault⟩ := hback.exists_defaultText (g.settings style)
  rw [typeName_string (f := f.withExplicit t) hkind, Except.ok.injEq] at hcast
  rw [hdefault, ← hcast, reference_eq]
  rfl

end Field

/-- **String defaults are exact.**  In a string field, every explicit default of printable
characters is written as a closed literal that stands for exactly this text, so different texts
have different literals; every other one is written as one and the same reference, to the place of
the field.  The literal is the text with its backslashes, then its apostrophes and then its double
quotes escaped. -/
theorem string_defaults_exact (g : Graph) (style : Style) {f : Field}
    (hkind : f.kind = .known .string) :
    (∀ t : Text, t.IsPrintable → ∃ lit : Text,
      (f.withExplicit t).defaultText (g.settings style) = .ok lit ∧ lit.IsLiteralOf t ∧
        lit = Text.literalInPasses t) ∧
      (∀ t t' : Text, t.IsPrintable → t'.IsPrintable →
        (f.withExplicit t).defaultText (g.settings style) =
          (f.withExplicit t').defaultText (g.settings style) → t = t') ∧
        (∀ t : Text, ¬ t.IsPrintable → (f.withExplicit t).defaultText (g.settings style) =
          .ok (referenceText "string" (style.namer.getD g.className f.container) f.index)) ∧
          ∀ t : Text, Text.literalInPasses t = "\"" ++ t.flatMap Text.literalRune ++ "\"" := by
  refine ⟨fun t ht => ?_, fun t t' ht ht' heq => ?_, fun t ht => ?_, fun t => ?_⟩
  · exact ⟨Text.literal t, Field.defaultText_withExplicit hkind ht, Text.isLiteralOf_literal ht,
      (Text.literalInPasses_eq_literal t).symm⟩
  · rw [Field.defaultText_withExplicit hkind ht, Field.defaultText_withExplicit hkind ht',
      Except.ok.injEq] at heq
    exact (Text.isLiteralOf_literal ht).unique (heq ▸ Text.isLiteralOf_literal ht')
  · exact Field.defaultText_withExplicit_of_not hkind ht
  · exact Text.literalInPasses_eq_literal t

/-- A string field without a default. -/
def Field.note : Field where
  name := "note"
  fullName := "Letter.note"
  number := 1
  kind := .known .string
  container := ⟨"Letter", "Letter"⟩
  index := 0
  default := .text []
  rawDefault := none
  propertyName := "Note"
  isCompliant := true
  messageType := none
  enumType := none

/-- A file with the one message that the field stands in. -/
def Graph.letter : Graph where
  package := []
  options := {}
  messages := [⟨⟨"Letter", "Letter"⟩, [.note], [], []⟩]
  enums := []

/-- In particular a default in which a backslash stands before a double quote is exact, and one with
a character beyond ASCII is written as a reference. -/
theorem note_defaults_exact :
    Field.note.kind = .known .string ∧ Text.IsPrintable "it's \\\"" ∧ ¬ Text.IsPrintable "\u00e9" ∧
      (∃ lit : Text,
        (Field.note.withExplicit "it's \\\"").defaultText (Graph.letter.settings {}) = .ok lit ∧
          lit.IsLiteralOf "it's \\\"" ∧ lit = Text.literalInPasses "it's \\\"") ∧
      (Field.note.withExplicit "\u00e9").defaultText (Graph.letter.settings {}) =
        .ok "(string) global::Letter.Descriptor.Fields[0].DefaultValue" := by
  have hplain : Text.IsPrintable "it's \\\"" := by decide
  have hbeyond : ¬ Text.IsPrintable "\u00e9" := by decide
  obtain ⟨hliteral, -, hreference, -⟩ := string_defaults_exact .letter {} (f := .note) rfl
  exact ⟨rfl, hplain, hbeyond, hliteral _ hplain,
    (hreference _ hbeyond).trans (congrArg Except.ok (by decide))⟩

end FieldCode
