import FieldCode.Text.Case
import Mathlib

/-!
# The normal form of identifier case

A text without anything to drop and without a small letter where a capital is due is left alone by
the Pascal form, and only such a text is (`Text.IsPascal`).  What has been joined is such a text, so
joining twice is joining once.

Each of the laws runs the pass over a text that the pass has made, and the bits of the two runs
differ at every dropped character.  The invariant that carries them is that the second run opens a
word only where the first one did: after a digit both do, after a letter neither does, and where the
first run drops something only its own bit is set.  `Text.Settled` says of a text that a run which
enters it with a given bit finds nothing to change, and `Text.settled_joinWords` that a run leaves a
text that is settled for every bit that is set only if its own was.

The two forms differ at most in the case of their first character, since the Pascal form is the
camel form with a capital in front (`Text.pascal_eq_modifyHead_camel`).
-/

namespace FieldCode

namespace Rune

/-! ## Capitals and small letters -/

/-- A rune with a capital of ASCII replaced by its small letter. -/
def toLower : Rune → Rune
  | char c => char c.toLower
  | half n => half n

theorem isDigit_of_isAlpha {c : Char} (h : c.isAlpha = true) : c.isDigit = false := by
  simp only [Char.isAlpha, Char.isUpper, Char.isLower, Char.isDigit, Bool.or_eq_true,
    Bool.and_eq_true, decide_eq_true_eq, Bool.and_eq_false_iff, decide_eq_false_iff_not, ge_iff_le,
    UInt32.le_iff_toNat_le, Char.reduceVal, UInt32.reduceToNat] at h ⊢
  omega

theorem isDigit_of_isAlpha_eq {c d : Char} (halpha : d.isAlpha = c.isAlpha)
    (hkept : c.isAlpha = false → d = c) : d.isDigit = c.isDigit := by
  cases h : c.isAlpha with
  | false => rw [hkept h]
  | true => rw [isDigit_of_isAlpha h, isDigit_of_isAlpha (halpha.trans h)]

@[simp]
theorem isDigit_toUpper (r : Rune) :
    r.toUpper.satisfies Char.isDigit = r.satisfies Char.isDigit := by
  cases r with
  | half n => rfl
  | char c =>
    refine isDigit_of_isAlpha_eq (Char.isAlpha_toUpper_eq_isAlpha c) fun h => ?_
    exact Char.toUpper_eq_of_not_isLower (by simp_all [Char.isAlpha])

@[simp]
theorem isDigit_toLower (r : Rune) :
    r.toLower.satisfies Char.isDigit = r.satisfies Char.isDigit := by
  cases r with
  | half n => rfl
  | char c =>
    refine isDigit_of_isAlpha_eq (Char.isAlpha_toLower_eq_isAlpha c) fun h => ?_
    exact Char.toLower_eq_of_not_isUpper (by simp_all [Char.isAlpha])

@[simp]
theorem isAlphanum_toUpper (r : Rune) :
    r.toUpper.satisfies Char.isAlphanum = r.satisfies Char.isAlphanum := by
  cases r with
  | half n => rfl
  | char c =>
    exact congrArg₂ or (Char.isAlpha_toUpper_eq_isAlpha c) (isDigit_toUpper (.char c))

@[simp]
theorem isAlphanum_toLower (r : Rune) :
    r.toLower.satisfies Char.isAlphanum = r.satisfies Char.isAlphanum := by
  cases r with
  | half n => rfl
  | char c =>
    exact congrArg₂ or (Char.isAlpha_toLower_eq_isAlpha c) (isDigit_toLower (.char c))

@[simp]
theorem isLower_toUpper (r : Rune) : r.toUpper.satisfies Char.isLower = false := by
  cases r with
  | half n => rfl
  | char c => exact Char.isLower_toUpper_eq_false c

theorem toUpper_of_not_isLower {r : Rune} (h : r.satisfies Char.isLower = false) :
    r.toUpper = r := by
  cases r with
  | half n => rfl
  | char c => exact congrArg char (Char.toUpper_eq_of_not_isLower (Bool.eq_false_iff.mp h))

@[simp]
theorem toUpper_toUpper (r : Rune) : r.toUpper.toUpper = r.toUpper :=
  toUpper_of_not_isLower (isLower_toUpper r)

@[simp]
theorem toUpper_toLower (r : Rune) : r.toLower.toUpper = r.toUpper := by
  cases r with
  | half n => rfl
  | char c => exact congrArg char (Char.toUpper_toLower_eq_toUpper c)

@[simp]
theorem toLower_toUpper (r : Rune) : r.toUpper.toLower = r.toLower := by
  cases r with
  | half n => rfl
  | char c => exact congrArg char (Char.toLower_toUpper_eq_toLower c)

@[simp]
theorem toLower_toLower (r : Rune) : r.toLower.toLower = r.toLower := by
  cases r with
  | half n => rfl
  | char c => exact congrArg char (Char.toLower_toLower_eq_toLower c)

end Rune

namespace Text

/-! ## The pass -/

/-- A letter or a digit is kept, with a capital where a word is opened, and the next word is opened
behind a digit only. -/
theorem joinWords_cons_of_isAlphanum {r : Rune} (h : r.satisfies Char.isAlphanum = true)
    (opens : Bool) (rest : Text) :
    joinWords opens (r :: rest) =
      (if opens then r.toUpper else r) :: joinWords (r.satisfies Char.isDigit) rest := by
  cases r with
  | half n => cases h
  | char c =>
    show joinWords opens (.char c :: rest) =
      (if opens then .char c.toUpper else .char c) :: joinWords c.isDigit rest
    have hkinds : c.isLower = true ∨ c.isUpper = true ∨ c.isDigit = true := by
      simpa [Rune.satisfies, Char.isAlphanum, Char.isAlpha, or_assoc, or_left_comm] using h
    rw [joinWords]
    by_cases hlower : c.isLower = true
    · rw [if_pos hlower, Rune.isDigit_of_isAlpha (by simp [Char.isAlpha, hlower])]
      cases opens <;> rfl
    · rw [if_neg hlower, Char.toUpper_eq_of_not_isLower hlower, ite_self]
      by_cases hupper : c.isUpper = true
      · rw [if_pos hupper, Rune.isDigit_of_isAlpha (by simp [Char.isAlpha, hupper])]
      · have hd : c.isDigit = true := by simpa [hlower, hupper] using hkinds
        rw [if_neg hupper, if_pos hd, hd]

/-- What is no letter and no digit is dropped, and the next word is opened behind it. -/
theorem joinWords_cons_of_not_isAlphanum {r : Rune} (h : r.satisfies Char.isAlphanum = false)
    (opens : Bool) (rest : Text) : joinWords opens (r :: rest) = joinWords true rest := by
  cases r with
  | half n => rw [joinWords]
  | char c =>
    simp only [Rune.satisfies, Char.isAlphanum, Char.isAlpha, Bool.or_eq_false_iff] at h
    rw [joinWords, if_neg (by simp [h.1.2]), if_neg (by simp [h.1.1]), if_neg (by simp [h.2])]

/-- A run that enters the text with this bit finds nothing to change. -/
def Settled (opens : Bool) : Text → Prop
  | [] => True
  | r :: rest =>
    r.satisfies Char.isAlphanum = true ∧ (opens = true → r.satisfies Char.isLower = false) ∧
      Settled (r.satisfies Char.isDigit) rest

theorem joinWords_of_settled {opens : Bool} {t : Text} (h : Settled opens t) :
    joinWords opens t = t := by
  induction t generalizing opens with
  | nil => rw [joinWords]
  | cons r rest ih =>
    obtain ⟨hword, hlower, hrest⟩ := h
    rw [joinWords_cons_of_isAlphanum hword, ih hrest]
    cases opens with
    | false => rfl
    | true => rw [if_pos rfl, Rune.toUpper_of_not_isLower (hlower rfl)]

/-- What a run leaves is settled for every run that opens no word where it did not. -/
theorem settled_joinWords {opens opens' : Bool} (h : opens' = true → opens = true) (t : Text) :
    Settled opens' (joinWords opens t) := by
  induction t generalizing opens opens' with
  | nil => rw [joinWords]; trivial
  | cons r rest ih =>
    by_cases hword : r.satisfies Char.isAlphanum = true
    · rw [joinWords_cons_of_isAlphanum hword]
      cases opens with
      | false => exact ⟨hword, fun hopens => absurd (h hopens) Bool.false_ne_true, ih id⟩
      | true =>
        rw [if_pos rfl]
        refine ⟨by simpa using hword, fun _ => Rune.isLower_toUpper r, ?_⟩
        rw [Rune.isDigit_toUpper]
        exact ih id
    · rw [joinWords_cons_of_not_isAlphanum (Bool.eq_false_iff.mpr hword)]
      exact ih fun _ => rfl

/-- A text is left alone by a run exactly if it is settled for it. -/
theorem joinWords_eq_self_iff {opens : Bool} {t : Text} :
    joinWords opens t = t ↔ Settled opens t :=
  ⟨fun h => h ▸ settled_joinWords id t, joinWords_of_settled⟩

/-- Whatever the bit, the letters and digits are kept in their order. -/
theorem map_toUpper_joinWords (opens : Bool) (t : Text) :
    (joinWords opens t).map Rune.toUpper =
      (t.filter (·.satisfies Char.isAlphanum)).map Rune.toUpper := by
  induction t generalizing opens with
  | nil => rw [joinWords]; rfl
  | cons r rest ih =>
    by_cases hword : r.satisfies Char.isAlphanum = true
    · rw [joinWords_cons_of_isAlphanum hword, List.filter_cons_of_pos hword, List.map_cons,
        List.map_cons, ih]
      cases opens with
      | false => rfl
      | true => rw [if_pos rfl, Rune.toUpper_toUpper]
    · rw [joinWords_cons_of_not_isAlphanum (Bool.eq_false_iff.mpr hword),
        List.filter_cons_of_neg hword, ih]

/-! ## The two forms -/

/-- A text that is settled where a word is opened has a capital in front, if a letter. -/
theorem modifyHead_of_settled {t : Text} (h : Settled true t) : t.modifyHead Rune.toUpper = t := by
  cases t with
  | nil => rfl
  | cons r rest => exact congrArg (· :: rest) (Rune.toUpper_of_not_isLower (h.2.1 rfl))

/-- The bit at the entrance decides on the case of the first character and on nothing else. -/
theorem joinWords_true_eq_modifyHead (t : Text) :
    joinWords true t = (joinWords false t).modifyHead Rune.toUpper := by
  cases t with
  | nil => rw [joinWords, joinWords]; rfl
  | cons r rest =>
    by_cases hword : r.satisfies Char.isAlphanum = true
    · rw [joinWords_cons_of_isAlphanum hword, joinWords_cons_of_isAlphanum hword]
      rfl
    · rw [joinWords_cons_of_not_isAlphanum (Bool.eq_false_iff.mpr hword),
        joinWords_cons_of_not_isAlphanum (Bool.eq_false_iff.mpr hword),
        modifyHead_of_settled (settled_joinWords id rest)]

/-- The camel form is the pass over the text with a small letter in front. -/
theorem camel_eq_joinWords (t : Text) : camel t = joinWords false (t.modifyHead Rune.toLower) := by
  cases t with
  | nil => rfl
  | cons r rest =>
    cases r with
    | half n => rfl
    | char c =>
      show camel (.char c :: rest) = joinWords false (.char c.toLower :: rest)
      rw [camel]
      by_cases hupper : c.isUpper = true
      · have halpha : c.toLower.isLower = true := by simp [Char.isAlpha, hupper]
        rw [if_pos hupper, joinWords, if_pos halpha]
        rfl
      · rw [if_neg hupper, Char.toLower_eq_of_not_isUpper hupper]

theorem pascal_eq_modifyHead_camel (t : Text) : pascal t = (camel t).modifyHead Rune.toUpper := by
  rw [camel_eq_joinWords, ← joinWords_true_eq_modifyHead, pascal]
  cases t with
  | nil => rfl
  | cons r rest =>
    show joinWords true (r :: rest) = joinWords true (r.toLower :: rest)
    by_cases hword : r.satisfies Char.isAlphanum = true
    · rw [joinWords_cons_of_isAlphanum hword, joinWords_cons_of_isAlphanum (by simpa using hword)]
      simp
    · rw [joinWords_cons_of_not_isAlphanum (Bool.eq_false_iff.mpr hword),
        joinWords_cons_of_not_isAlphanum (by simpa using hword)]

theorem joinWords_camel (t : Text) : joinWords false (camel t) = camel t := by
  rw [camel_eq_joinWords]
  exact joinWords_of_settled (settled_joinWords id _)

theorem exists_camel_eq_cons {t : Text} {r : Rune} (hfirst : t.head? = some r)
    (hword : r.satisfies Char.isAlphanum = true) : ∃ rest, camel t = r.toLower :: rest := by
  obtain ⟨rest, rfl⟩ := List.head?_eq_some_iff.mp hfirst
  rw [camel_eq_joinWords, List.modifyHead_cons,
    joinWords_cons_of_isAlphanum (by simpa using hword)]
  exact ⟨_, rfl⟩

/-! ## The normal form -/

/-- The text has the Pascal form: nothing but ASCII letters and digits, and no small letter where a
word is opened, which is in front and behind each digit. -/
structure IsPascal (t : Text) : Prop where
  isAlphanum : ∀ r ∈ t, r.satisfies Char.isAlphanum = true
  front : ∀ r ∈ t.head?, r.satisfies Char.isLower = false
  behindDigit : t.IsChain fun d r => d.satisfies Char.isDigit = true →
    r.satisfies Char.isLower = false

/-- What a run finds nothing to change in, without the run. -/
theorem settled_iff {opens : Bool} {t : Text} :
    Settled opens t ↔ (∀ r ∈ t, r.satisfies Char.isAlphanum = true) ∧
      (∀ r ∈ t.head?, opens = true → r.satisfies Char.isLower = false) ∧
        t.IsChain fun d r => d.satisfies Char.isDigit = true →
          r.satisfies Char.isLower = false := by
  induction t generalizing opens with
  | nil => simp [Settled]
  | cons r rest ih =>
    rw [Settled, ih, List.isChain_cons, List.forall_mem_cons, List.head?_cons]
    constructor
    · rintro ⟨hword, hfront, hwords, hbehind, hchain⟩
      exact ⟨⟨hword, hwords⟩, fun _ h => Option.some.inj h ▸ hfront, hbehind, hchain⟩
    · rintro ⟨⟨hword, hwords⟩, hfront, hbehind, hchain⟩
      exact ⟨hword, hfront r rfl, hwords, hbehind, hchain⟩

/-- The texts that the Pascal form leaves alone are those that have it. -/
theorem pascal_eq_self_iff {t : Text} : pascal t = t ↔ t.IsPascal := by
  rw [pascal, joinWords_eq_self_iff, settled_iff]
  exact ⟨fun ⟨hwords, hfront, hchain⟩ => ⟨hwords, fun r hr => hfront r hr rfl, hchain⟩,
    fun h => ⟨h.isAlphanum, fun r hr _ => h.front r hr, h.behindDigit⟩⟩

theorem map_toUpper_pascal (t : Text) :
    (pascal t).map Rune.toUpper =
      (t.filter (·.satisfies Char.isAlphanum)).map Rune.toUpper :=
  map_toUpper_joinWords true t

theorem map_toUpper_camel (t : Text) :
    (camel t).map Rune.toUpper = (t.filter (·.satisfies Char.isAlphanum)).map Rune.toUpper := by
  rw [← map_toUpper_pascal, pascal_eq_modifyHead_camel]
  cases camel t with
  | nil => rfl
  | cons r rest => simp

theorem pascal_camel (t : Text) : pascal (camel t) = pascal t := by
  rw [pascal, joinWords_true_eq_modifyHead, joinWords_camel, ← pascal_eq_modifyHead_camel]

/-- **The normal form of identifier case.**  Taking the Pascal form twice is taking it once, and the
texts that it leaves alone are those of ASCII letters and digits with no small letter in front or
right behind a digit.  But for the case of letters both forms are the ASCII letters and digits of the
text in their order.  The Pascal form does not see whether the camel form was taken before, and if
the text begins with a letter or digit, the camel form does not see which was. -/
theorem case_normal_form (t : Text) :
    pascal (pascal t) = pascal t ∧ (pascal t = t ↔ t.IsPascal) ∧
      (pascal t).map Rune.toUpper =
        (t.filter (·.satisfies Char.isAlphanum)).map Rune.toUpper ∧
      (camel t).map Rune.toUpper =
        (t.filter (·.satisfies Char.isAlphanum)).map Rune.toUpper ∧
      pascal (camel t) = pascal t ∧
      ∀ r, t.head? = some r → r.satisfies Char.isAlphanum = true →
        camel (camel t) = camel t ∧ camel (pascal t) = camel t := by
  refine ⟨joinWords_of_settled (settled_joinWords id t), pascal_eq_self_iff, map_toUpper_pascal t,
    map_toUpper_camel t, pascal_camel t, fun r hfirst hword => ?_⟩
  have hcamel := joinWords_camel t
  obtain ⟨rest, hrest⟩ := exists_camel_eq_cons hfirst hword
  constructor
  · rw [camel_eq_joinWords (camel t)]
    nth_rewrite 1 [hrest]
    rw [List.modifyHead_cons, Rune.toLower_toLower, ← hrest, hcamel]
  · rw [camel_eq_joinWords (pascal t), pascal_eq_modifyHead_camel, hrest, List.modifyHead_cons,
      List.modifyHead_cons, Rune.toLower_toUpper, Rune.toLower_toLower, ← hrest, hcamel]

/-- In particular this holds of a name with separators, digits and a character beyond ASCII. -/
theorem mixed_name_normal :
    ("x1_y-Z\u00e92a" : Text).head? = some 'x' ∧
      (Rune.char 'x').satisfies Char.isAlphanum = true ∧
        camel (camel "x1_y-Z\u00e92a") = "x1YZ2A" ∧ camel (pascal "x1_y-Z\u00e92a") = "x1YZ2A" :=
  have hcamel := (case_normal_form "x1_y-Z\u00e92a").2.2.2.2.2 _ rfl rfl
  ⟨rfl, rfl, hcamel.1.trans (by decide), hcamel.2.trans (by decide)⟩

/-- Behind a separator in front the camel form has a capital, which a second one lowers. -/
example : camel "_ab" = "Ab" ∧ camel (camel "_ab") = "ab" := by decide

end Text

end FieldCode
