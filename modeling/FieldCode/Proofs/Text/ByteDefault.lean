import FieldCode.Default
import FieldCode.Proofs.Text.Escape

/-!
# Default texts of byte strings

A byte has several spellings: its character, if that is printable, and escapes by a letter, by octal
and by hexadecimal digits (`SpellsByte`).  A text of such spellings is the default it spells
(`bytes_default_of_spelling`): every spelling is a segment of its own, whatever stands behind it.

A text is refused for one of its segments, or for half of a surrogate pair, which has no bytes
although it is no escape (`bytes_default_refused_iff`).
-/

namespace FieldCode

/-! ## Spellings -/

/-- The ways to spell a byte. -/
inductive SpellsByte : UInt8 → List Char → Prop where
  /-- A printable ASCII character other than the backslash spells its number. -/
  | printable {c : Char} (hlow : 32 ≤ c.toNat) (hhigh : c.toNat ≤ 126) (hslash : c ≠ '\\') :
      SpellsByte (UInt8.ofNat c.toNat) [c]
  /-- A backslash and a character that stands for the byte. -/
  | short {c : Char} {b : UInt8} (h : (c, b) ∈ Text.shortEscapes) : SpellsByte b ['\\', c]
  /-- A backslash and three octal digits. -/
  | octal {b : UInt8} {ds : List Char} (hlength : ds.length = 3)
      (hnumber : Base.octal.number? ds = some b.toNat) : SpellsByte b ('\\' :: ds)
  /-- A backslash, a letter and the digits that it asks for, which are zeros and two hexadecimal
  digits. -/
  | hexadecimal {b : UInt8} (escape : Text.HexEscape) {ds : List Char} (hlength : ds.length = 2)
      (hnumber : Base.hexadecimal.number? ds = some b.toNat) :
      SpellsByte b ('\\' :: escape.letter :: (List.replicate (escape.width - 2) '0' ++ ds))

/-- The texts of spellings of bytes, with characters beyond ASCII among them that stand for their
UTF-8 bytes. -/
inductive SpellsBytes : List UInt8 → List Char → Prop where
  | nil : SpellsBytes [] []
  | byte {b : UInt8} {ds : List Char} {bs : List UInt8} {cs : List Char} (hfirst : SpellsByte b ds)
      (hrest : SpellsBytes bs cs) : SpellsBytes (b :: bs) (ds ++ cs)
  | beyond {c : Char} {bs : List UInt8} {cs : List Char} (hfirst : 128 ≤ c.toNat)
      (hrest : SpellsBytes bs cs) : SpellsBytes (String.utf8EncodeChar c ++ bs) (c :: cs)

namespace Text

/-! ## Spellings as segments -/

theorem segments_of_ne {c : Char} (hc : c ≠ '\\') (cs : List Char) :
    segments (c :: cs) = .plain c :: segments cs := by
  rw [segments, if_neg hc]

/-- A backslash opens the segment that takes what stands behind it. -/
theorem segments_of_opened {ds cs : List Char} {s : Segment} (h : opened (ds ++ cs) = s)
    (hbehind : s.behind = ds) : segments ('\\' :: ds ++ cs) = s :: segments cs := by
  rw [List.cons_append, segments, if_pos rfl, h, hbehind, List.drop_left]

/-- Digits up to the last that is wanted are taken, whatever stands behind them. -/
theorem takeWhile_take_append {p : Char → Bool} {n : Nat} {ds : List Char} (hlength : ds.length = n)
    (h : ∀ d ∈ ds, p d = true) (cs : List Char) : ((ds ++ cs).take n).takeWhile p = ds := by
  rw [← hlength, List.take_left, List.takeWhile_eq_self_iff.mpr h]

theorem opened_octal {ds : List Char} (hlength : ds.length = 3)
    (h : ∀ d ∈ ds, Base.octal.isDigit d = true) (cs : List Char) :
    opened (ds ++ cs) = .octal ds := by
  have htaken := takeWhile_take_append hlength h cs
  cases ds with
  | nil => exact nomatch hlength
  | cons d ds =>
    rw [List.cons_append] at htaken ⊢
    rw [opened, if_pos (h d (List.mem_cons_self ..)), htaken]

theorem opened_hexadecimal (escape : HexEscape) {ds : List Char}
    (hlength : ds.length = escape.width) (h : ∀ d ∈ ds, Base.hexadecimal.isDigit d = true)
    (cs : List Char) : opened (escape.letter :: (ds ++ cs)) = .hexadecimal escape ds := by
  have hletter : Base.octal.isDigit escape.letter = false ∧
      HexEscape.ofLetter? escape.letter = some escape := by
    cases escape <;> decide
  rw [opened, if_neg (by simp [hletter.1]), hletter.2]
  dsimp only
  rw [takeWhile_take_append hlength h]

theorem opened_short {c : Char} {b : UInt8} (h : (c, b) ∈ shortEscapes) (cs : List Char) :
    opened (c :: cs) = .single c ∧ c ≠ 'N' ∧ shortEscapes.lookup c = some b := by
  have hall : ∀ p ∈ shortEscapes, Base.octal.isDigit p.1 = false ∧
      HexEscape.ofLetter? p.1 = none ∧ p.1 ≠ 'N' ∧ shortEscapes.lookup p.1 = some p.2 := by
    decide
  obtain ⟨hdigit, hletter, hname, hlookup⟩ := hall _ h
  refine ⟨?_, hname, hlookup⟩
  rw [opened, if_neg (by simp [hdigit]), hletter]

end Text

theorem Base.number?_replicate_zero (b : Base) (n : Nat) (cs : List Char) :
    b.number? (List.replicate n '0' ++ cs) = b.number? cs := by
  induction n with
  | zero => rfl
  | succ n ih => rw [List.replicate_succ, List.cons_append, number?_zero_cons, ih]

/-! ## Bytes of spellings -/

/-- The segment is accepted, and its bytes are these. -/
structure Text.Segment.StandsFor (s : Text.Segment) (bs : List UInt8) : Prop where
  ne_name : s ≠ .single 'N'
  not_isRefused : ¬ s.IsRefused
  bytes_eq : s.bytes = bs

/-- The segments are accepted, and their bytes, one after the other, are these. -/
structure Text.Segment.AllStandFor (ss : List Text.Segment) (bs : List UInt8) : Prop where
  name_notMem : .single 'N' ∉ ss
  forall_not_isRefused : ∀ s ∈ ss, ¬ s.IsRefused
  flatMap_bytes : ss.flatMap Text.Segment.bytes = bs

namespace Text.Segment

theorem allStandFor_nil : AllStandFor [] [] where
  name_notMem := List.not_mem_nil
  forall_not_isRefused := by simp
  flatMap_bytes := rfl

theorem StandsFor.cons {s : Segment} {ss : List Segment} {bs bs' : List UInt8}
    (hs : s.StandsFor bs) (h : AllStandFor ss bs') : AllStandFor (s :: ss) (bs ++ bs') where
  name_notMem := List.not_mem_cons_of_ne_of_not_mem hs.ne_name.symm h.name_notMem
  forall_not_isRefused := List.forall_mem_cons.mpr ⟨hs.not_isRefused, h.forall_not_isRefused⟩
  flatMap_bytes := by rw [List.flatMap_cons, hs.bytes_eq, h.flatMap_bytes]

section StandsFor

variable {ds : List Char} {b : UInt8}

theorem standsFor_plain (c : Char) : (plain c).StandsFor (String.utf8EncodeChar c) where
  ne_name := by simp
  not_isRefused := not_false
  bytes_eq := by
    rw [bytes, codePoints, List.map_map]
    exact List.map_id'' (fun _ => UInt8.ofNat_toNat) _

theorem standsFor_single {c : Char} (hname : c ≠ 'N') (h : shortEscapes.lookup c = some b) :
    (single c).StandsFor [b] where
  ne_name := fun heq => hname (single.inj heq)
  not_isRefused := not_false
  bytes_eq := by
    rw [bytes, codePoints, h, List.map_singleton, UInt8.ofNat_toNat]

/-- The number of a byte is no number beyond bytes. -/
theorem not_exists_mem_toNat {n? : Option Nat} (h : n? = some b.toNat) :
    ¬ ∃ n ∈ n?, 255 < n := by
  rintro ⟨n, hn, hlt⟩
  obtain rfl : b.toNat = n := Option.some.inj (h.symm.trans hn)
  exact absurd hlt (Nat.not_lt.mpr (Nat.le_of_lt_succ b.toNat_lt))

theorem standsFor_octal (h : Base.octal.number? ds = some b.toNat) : (octal ds).StandsFor [b] where
  ne_name := by simp
  not_isRefused := not_exists_mem_toNat h
  bytes_eq := by
    rw [bytes, codePoints, h, Option.toList_some, List.map_singleton, UInt8.ofNat_toNat]

theorem standsFor_hexadecimal {escape : HexEscape} (hlength : ds.length = escape.width)
    (h : Base.hexadecimal.number? ds = some b.toNat) : (hexadecimal escape ds).StandsFor [b] where
  ne_name := by simp
  not_isRefused := not_or.mpr ⟨Nat.not_lt.mpr hlength.ge, not_exists_mem_toNat h⟩
  bytes_eq := by
    rw [bytes, codePoints, h, Option.toList_some, List.map_singleton, UInt8.ofNat_toNat]

end StandsFor

end Text.Segment

/-- A spelling of a byte is a segment that stands for the byte, whatever stands behind it. -/
theorem SpellsByte.exists_segment {b : UInt8} {ds : List Char} (h : SpellsByte b ds)
    (cs : List Char) :
    ∃ s, Text.segments (ds ++ cs) = s :: Text.segments cs ∧ s.StandsFor [b] := by
  cases h with
  | printable hlow hhigh hslash =>
    rw [← Text.utf8EncodeChar_of_lt (by omega)]
    exact ⟨_, Text.segments_of_ne hslash cs, Text.Segment.standsFor_plain _⟩
  | short h =>
    obtain ⟨hopened, hname, hlookup⟩ := Text.opened_short h cs
    exact ⟨_, Text.segments_of_opened hopened rfl, Text.Segment.standsFor_single hname hlookup⟩
  | octal hlength hnumber =>
    have hopened := Text.opened_octal hlength (Base.isDigit_of_number? hnumber) cs
    exact ⟨_, Text.segments_of_opened hopened rfl, Text.Segment.standsFor_octal hnumber⟩
  | @hexadecimal _ escape ds hlength hnumber =>
    rw [← Base.number?_replicate_zero _ (escape.width - 2)] at hnumber
    have hwidth : (List.replicate (escape.width - 2) '0' ++ ds).length = escape.width := by
      rw [List.length_append, List.length_replicate, hlength]
      cases escape <;> rfl
    have hopened := Text.opened_hexadecimal escape hwidth (Base.isDigit_of_number? hnumber) cs
    exact ⟨_, Text.segments_of_opened hopened rfl,
      Text.Segment.standsFor_hexadecimal hwidth hnumber⟩

theorem SpellsBytes.allStandFor {bs : List UInt8} {cs : List Char} (h : SpellsBytes bs cs) :
    Text.Segment.AllStandFor (Text.segments cs) bs := by
  induction h with
  | nil =>
    rw [Text.segments]
    exact Text.Segment.allStandFor_nil
  | byte hfirst hrest ih =>
    obtain ⟨s, hsegments, hs⟩ := hfirst.exists_segment _
    rw [hsegments]
    exact hs.cons ih
  | @beyond c _ _ hfirst hrest ih =>
    have hslash : c ≠ '\\' := by
      rintro rfl
      exact absurd hfirst (by decide)
    rw [Text.segments_of_ne hslash]
    exact (Text.Segment.standsFor_plain c).cons ih

/-! ## Defaults -/

theorem Kind.readDefault_bytes (t : Text) (enum : Option EnumType) :
    Kind.bytes.readDefault t enum = match Text.readBytes t with
      | .ok bs => .ok (.bytes bs)
      | .error fault => .error (.escape fault) :=
  rfl

/-- A text of spellings is read as the bytes that it spells, whichever spelling was chosen for each.
-/
theorem bytes_default_of_spelling {bs : List UInt8} {cs : List Char} (h : SpellsBytes bs cs)
    (enum : Option EnumType) :
    Kind.bytes.readDefault (Text.ofChars cs) enum = .ok (.bytes bs) := by
  obtain ⟨hname, hrefused, hbytes⟩ := h.allStandFor
  rw [Kind.readDefault_bytes, Text.readBytes_of_forall_not_isRefused hname hrefused, hbytes]

/-- An octal escape in front of a figure, a hexadecimal one, a character beyond ASCII behind an
escaped backslash, and an escape of eight digits. -/
theorem bytes_default_of_mixed_spelling :
    SpellsBytes [1, 55, 255, 92, 0xc3, 0xa9, 200] "\\0017\\u00Ff\\\\é\\U000000c8".toList ∧
      Kind.bytes.readDefault (Text.ofChars "\\0017\\u00Ff\\\\é\\U000000c8".toList) none =
        .ok (.bytes [1, 55, 255, 92, 0xc3, 0xa9, 200]) := by
  have hspells : SpellsBytes [1, 55, 255, 92, 0xc3, 0xa9, 200]
      "\\0017\\u00Ff\\\\é\\U000000c8".toList :=
    .byte (@SpellsByte.octal 1 ['0', '0', '1'] rfl rfl)
      (.byte (.printable (c := '7') (by decide) (by decide) (by decide))
        (.byte (@SpellsByte.hexadecimal 255 .four ['F', 'f'] rfl rfl)
          (.byte (.short (c := '\\') (by decide))
            (.beyond (c := 'é') (by decide)
              (.byte (@SpellsByte.hexadecimal 200 .eight ['c', '8'] rfl rfl) .nil)))))
  exact ⟨hspells, bytes_default_of_spelling hspells none⟩

/-- The text holds half of a surrogate pair, or it is one of characters and one of its segments is
refused. -/
def Text.IsMalformed (t : Text) : Prop :=
  (∃ n, .half n ∈ t) ∨ ∃ cs, t = Text.ofChars cs ∧ ∃ s ∈ Text.segments cs, s.IsRefused

/-- A text in which a character never follows a backslash has no segment of the two. -/
theorem Text.single_notMem_segments {c : Char} {t : Text} (h : ¬ Text.ofChars ['\\', c] <:+: t) :
    ∀ cs, t = Text.ofChars cs → .single c ∉ Text.segments cs := by
  rintro cs rfl hs
  have hpart : Text.Segment.chars (.single c) <:+: (Text.segments cs).flatMap Text.Segment.chars :=
    List.infix_of_mem_flatten (List.mem_map_of_mem hs)
  rw [Text.flatMap_chars_segments] at hpart
  exact h (hpart.map Rune.char)

/-- A text without escapes by name is refused exactly if it is malformed, and otherwise it stands
for the bytes of its segments. -/
theorem bytes_default_refused_iff {t : Text}
    (hname : ∀ cs, t = Text.ofChars cs → .single 'N' ∉ Text.segments cs) (enum : Option EnumType) :
    ((∃ fault, Kind.bytes.readDefault t enum = .error (.escape fault)) ↔ t.IsMalformed) ∧
      (¬ t.IsMalformed → ∃ cs, t = Text.ofChars cs ∧ Kind.bytes.readDefault t enum =
        .ok (.bytes ((Text.segments cs).flatMap Text.Segment.bytes))) := by
  have hread : ¬ t.IsMalformed → ∃ cs, t = Text.ofChars cs ∧ Kind.bytes.readDefault t enum =
      .ok (.bytes ((Text.segments cs).flatMap Text.Segment.bytes)) := by
    intro h
    obtain ⟨hhalf, hsegments⟩ := not_or.mp h
    obtain ⟨cs, rfl⟩ := (Text.exists_ofChars_or_half t).resolve_right hhalf
    refine ⟨cs, rfl, ?_⟩
    rw [Kind.readDefault_bytes, Text.readBytes_of_forall_not_isRefused (hname cs rfl)
      fun s hs hrefused => hsegments ⟨cs, rfl, s, hs, hrefused⟩]
  refine ⟨⟨fun ⟨fault, hfault⟩ => ?_, fun h => ?_⟩, hread⟩
  · by_contra h
    obtain ⟨cs, -, hok⟩ := hread h
    rw [hfault] at hok
    cases hok
  · have hbytes : ∃ fault, Text.readBytes t = .error fault := by
      obtain ⟨n, hn⟩ | ⟨cs, rfl, s, hs, hrefused⟩ := h
      · exact Text.readBytes_of_half hn
      · exact Text.readBytes_of_isRefused (hname cs rfl) hs hrefused
    obtain ⟨fault, hfault⟩ := hbytes
    exact ⟨fault, by rw [Kind.readDefault_bytes, hfault]⟩

/-- Behind an escaped backslash, an escape of a number beyond bytes. -/
theorem byte_beyond_range_refused :
    (∀ cs, Text.ofChars "\\\\\\u0100".toList = Text.ofChars cs → .single 'N' ∉ Text.segments cs) ∧
      (Text.ofChars "\\\\\\u0100".toList).IsMalformed ∧
      ∃ fault, Kind.bytes.readDefault (Text.ofChars "\\\\\\u0100".toList) none =
        .error (.escape fault) := by
  have hname := Text.single_notMem_segments (c := 'N') (t := Text.ofChars "\\\\\\u0100".toList)
    (by decide +kernel)
  have hsegments : Text.segments "\\\\\\u0100".toList =
      [.single '\\', .hexadecimal .four ['0', '1', '0', '0']] := by
    cbv
  have hmalformed : (Text.ofChars "\\\\\\u0100".toList).IsMalformed :=
    .inr ⟨"\\\\\\u0100".toList, rfl, .hexadecimal .four ['0', '1', '0', '0'],
      by rw [hsegments]; decide, .inr ⟨256, rfl, by decide⟩⟩
  exact ⟨hname, hmalformed, (bytes_default_refused_iff hname none).1.mpr hmalformed⟩

/-- Half of a surrogate pair is refused, although no backslash stands in the text. -/
theorem half_refused_without_escape :
    .char '\\' ∉ [Rune.half 0] ∧
      Kind.bytes.readDefault [.half 0] none = .error (.escape (.half 0xd800 0)) :=
  ⟨by decide, rfl⟩

end FieldCode
