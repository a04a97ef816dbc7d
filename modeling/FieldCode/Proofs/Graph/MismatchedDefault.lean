import FieldCode.Proofs.Graph.WellTyped

/-!
# Defaults that do not go with their kind

Nothing about a `Field` makes its default a value of its kind.  Which values go with a kind is said
by `Kind.Takes`, and every other one should be refused as an invalid value.

For each family whose expressions are made of the default there is a guard in front, and what a
guard turns away is refused with the name of the field (`Field.exists_refusal`).  The guards of
truth values and of enum values turn away all that does not go with the kind.  The guard of the
numeric kinds turns away what is no number, but it is the same for all of them, so a double passes
it on the way to an integer kind.  What becomes of the double is decided by the conversion behind
the guard (`Field.defaultText_double`): a finite one is written as the integer before its point, an
infinite one is too large, and only the one that is not a number is refused as invalid after all.

So a double for an integer kind, other than the one that is not a number, is the only value that
does not go with its kind and is not refused as invalid (`mismatched_default_refused_iff`).
-/

namespace FieldCode

/-- The value goes with the kind: a number with a numeric one, where a double asks for a floating
kind, a truth value with that of truth values, an enum value with that of enums.  The expressions
of the other kinds are not made of the default, and every value goes with them. -/
def Kind.Takes (k : Kind) (value : Value) : Prop :=
  match k.family with
  | .numeric => (∃ n, value = .int n) ∨ k.isFloating = true ∧ ∃ x, value = .double x
  | .bool => ∃ b, value = .bool b
  | .enum => ∃ m, value = .member m
  | .string | .bytes | .message => True

/-- The fault is that a value is invalid.  The others are a tag without a rule, a number beyond all
bounds, a table without an entry, and something that is not there. -/
def FragmentFault.isInvalidValue : FragmentFault → Bool
  | notNumeric _ _ | notBool _ _ | noMember _ | noEnum _ | noMessage _ => true
  | number .notANumber => true
  | number _ | unhandled _ | lacking | absent => false

namespace Field

variable {s : Settings} {f : Field} {k : Kind}

/-! ## What the guards turn away -/

theorem numericDefault_eq_error (hint : ∀ n, f.default ≠ .int n)
    (hdouble : ∀ x, f.default ≠ .double x) :
    f.numericDefault s = .error (.notNumeric f.fullName f.default) := by
  unfold numericDefault
  cases hdefault : f.default with
  | int n => exact absurd hdefault (hint n)
  | double x => exact absurd hdefault (hdouble x)
  | _ => rfl

theorem boolDefault_eq_error (h : ∀ b, f.default ≠ .bool b) :
    f.boolDefault = .error (.notBool f.fullName f.default) := by
  unfold boolDefault
  cases hdefault : f.default with
  | bool b => exact absurd hdefault (h b)
  | _ => rfl

theorem enumDefault_eq_error (h : ∀ m, f.default ≠ .member m) :
    f.enumDefault s = .error (.noMember f.fullName) := by
  unfold enumDefault
  cases hdefault : f.default with
  | member m => exact absurd hdefault (h m)
  | _ => rfl

theorem defaultText_of_kind (hkind : f.kind = .known k) :
    f.defaultText s = match k.family with
      | .numeric => f.numericDefault s
      | .bool => f.boolDefault
      | .string => f.textDefault s
      | .bytes => f.bytesDefault s
      | .enum => f.enumDefault s
      | .message => (f.typeName s).map (· ++ ".DefaultInstance") := by
  rewrite [defaultText, kind?_of_kind hkind]
  rfl

theorem defaultText_numeric (hkind : f.kind = .known k) (hk : k.isNumeric = true) :
    f.defaultText s = f.numericDefault s := by
  rw [defaultText_of_kind hkind, eq_of_beq hk]

/-- A value that does not go with its kind is turned away by a guard, with the name of the field,
unless it is a double for an integer kind. -/
theorem exists_refusal (hkind : f.kind = .known k) (hmismatch : ¬ k.Takes f.default)
    (hdouble : k.isNumeric = true → ∀ x, f.default ≠ .double x) :
    ∃ e, f.defaultText s = .error e ∧ e.isInvalidValue = true ∧
      ∃ rest, e.message? = some (f.fullName ++ rest) := by
  rw [Kind.Takes] at hmismatch
  have htext := defaultText_of_kind (s := s) hkind
  cases hfamily : k.family with
  | numeric =>
    simp only [hfamily, not_or, not_exists] at hmismatch htext
    have hguard := numericDefault_eq_error (s := s) hmismatch.1 (hdouble (beq_iff_eq.mpr hfamily))
    refine ⟨_, htext.trans hguard, rfl, " has non-numeric default " ++ f.default.shown, ?_⟩
    rw [FragmentFault.message?, List.append_assoc]
  | bool =>
    simp only [hfamily, not_exists] at hmismatch htext
    refine ⟨_, htext.trans (boolDefault_eq_error hmismatch), rfl,
      " has non-bool default " ++ f.default.shown, ?_⟩
    rw [FragmentFault.message?, List.append_assoc]
  | enum =>
    simp only [hfamily, not_exists] at hmismatch htext
    exact ⟨_, htext.trans (enumDefault_eq_error hmismatch), rfl, _, rfl⟩
  -- the other families take every value
  | _ => simp [hfamily] at hmismatch

/-! ## A double for an integer kind -/

/-- A double that has a part before its point is written as that integer would be, and the others
are refused for what the conversion says. -/
theorem defaultText_double (hkind : f.kind = .known k) (hk : k.isNumeric = true)
    (hint : k.isFloating = false) {x : Double} (hx : f.default = .double x) :
    f.defaultText s = match (Number.double x).toInt with
      | .ok n => { f with default := .int n }.defaultText s
      | .error e => .error (.number e) := by
  have hliteral : s.suffixes.literal (.known k) (.double x) =
      (Number.double x).toInt.bind fun n => s.suffixes.literal (.known k) (.int n) := by
    cases k <;> first | rfl | cases hint
  rw [defaultText_numeric hkind hk, numericDefault, hkind]
  simp only [hx, hliteral]
  cases (Number.double x).toInt with
  | error e => rfl
  | ok n =>
    have hkind' : { f with default := .int n }.kind = .known k := hkind
    have htext := defaultText_numeric (s := s) hkind' hk
    rw [numericDefault, hkind'] at htext
    exact htext.symm

/-- An integer has an expression in every numeric kind but the floating ones. -/
theorem exists_defaultText_int (hkind : f.kind = .known k) (hk : k.isNumeric = true)
    (hint : k.isFloating = false) {n : Int} (hn : f.default = .int n) :
    ∃ text, f.defaultText s = .ok text := by
  obtain ⟨text, htext⟩ := s.suffixes.exists_literal_int hk hint n
  refine ⟨text, ?_⟩
  rw [defaultText_numeric hkind hk, numericDefault]
  simp only [hn, hkind, htext]

end Field

/-- **Mismatched defaults are refused, doubles apart.**  A default that does not go with the kind
of its field is refused as an invalid value exactly if it is not a double in a numeric kind, or is
the one that is not a number.  The exceptions are doubles in integer kinds: a finite one is
written, in the same words as the integer before its point, and an infinite one is refused as a
number beyond all bounds. -/
theorem mismatched_default_refused_iff (s : Settings) {f : Field} {k : Kind}
    (hkind : f.kind = .known k) (hmismatch : ¬ k.Takes f.default) :
    ((∃ e, f.defaultText s = .error e ∧ e.isInvalidValue = true) ↔
      (k.isNumeric = true → ∀ x, f.default = .double x → x = .nan)) ∧
    (k.isNumeric = true → ∀ negative m, f.default = .double (.finite negative m) →
      ∃ text, f.defaultText s = .ok text ∧
        { f with default := .int (Double.truncate negative m) }.defaultText s = .ok text) ∧
    (k.isNumeric = true → ∀ negative, f.default = .double (.infinite negative) →
      f.defaultText s = .error (.number .infinite)) := by
  -- a double goes with the floating kinds, so the kind at hand is one of the others
  have hint : k.isNumeric = true → ∀ x, f.default = .double x → k.isFloating = false := by
    intro hk x hx
    rw [Kind.Takes, eq_of_beq hk] at hmismatch
    rw [Bool.eq_false_iff]
    exact fun hf => hmismatch (Or.inr ⟨hf, x, hx⟩)
  have hfinite : k.isNumeric = true → ∀ negative m, f.default = .double (.finite negative m) →
      ∃ text, f.defaultText s = .ok text ∧
        { f with default := .int (Double.truncate negative m) }.defaultText s = .ok text := by
    intro hk negative m hx
    have hkind' : { f with default := .int (Double.truncate negative m) }.kind = .known k := hkind
    obtain ⟨text, htext⟩ := Field.exists_defaultText_int (s := s) hkind' hk (hint hk _ hx) rfl
    exact ⟨text, (Field.defaultText_double hkind hk (hint hk _ hx) hx).trans htext, htext⟩
  have hinfinite : k.isNumeric = true → ∀ negative, f.default = .double (.infinite negative) →
      f.defaultText s = .error (.number .infinite) := fun hk negative hx =>
    Field.defaultText_double hkind hk (hint hk _ hx) hx
  refine ⟨⟨?_, fun hnan => ?_⟩, hfinite, hinfinite⟩
  · rintro ⟨e, he, hinvalid⟩ hk x hx
    cases x with
    | nan => rfl
    | infinite negative =>
      cases (hinfinite hk negative hx).symm.trans he
      exact nomatch hinvalid
    | finite negative m =>
      obtain ⟨text, htext, -⟩ := hfinite hk negative m hx
      exact nomatch htext.symm.trans he
  · by_cases hdouble : k.isNumeric = true ∧ ∃ x, f.default = .double x
    · obtain ⟨hk, x, hx⟩ := hdouble
      obtain rfl := hnan hk x hx
      exact ⟨_, Field.defaultText_double hkind hk (hint hk _ hx) hx, rfl⟩
    · obtain ⟨e, he, hinvalid, -⟩ := Field.exists_refusal (s := s) hkind hmismatch
        fun hk x hx => hdouble ⟨hk, x, hx⟩
      exact ⟨e, he, hinvalid⟩

/-- Settings under which classes have the full names of their types. -/
def Settings.plain : Settings where
  className t := .ok t.fullName
  suffixes := .standard
  runtime := {}
  marksCompliance := .ok true
  parameter := "value"

/-- An integer field with a default that may be of any sort. -/
def Field.counting (default : Value) : Field where
  name := "count"
  fullName := "Box.count"
  number := 1
  kind := .known .int32
  container := ⟨"Box", "Box"⟩
  index := 0
  default := default
  rawDefault := none
  propertyName := "Count"
  isCompliant := true
  messageType := none
  enumType := none

/-- In particular a text is refused for an integer field, and so is what is not a number. -/
theorem text_refused_as_count :
    ¬ Kind.int32.Takes (.text "oops") ∧ ¬ Kind.int32.Takes (.double .nan) ∧
      (∃ e, (Field.counting (.text "oops")).defaultText .plain = .error e ∧
        e.isInvalidValue = true) ∧
      ∃ e, (Field.counting (.double .nan)).defaultText .plain = .error e ∧
        e.isInvalidValue = true := by
  have htext : ¬ Kind.int32.Takes (.text "oops") := by simp [Kind.Takes, Kind.family]
  have hnan : ¬ Kind.int32.Takes (.double .nan) := by
    simp [Kind.Takes, Kind.family, Kind.isFloating]
  refine ⟨htext, hnan, ?_, ?_⟩
  · obtain ⟨hrefused, -⟩ :=
      mismatched_default_refused_iff .plain (f := .counting (.text "oops")) rfl htext
    refine hrefused.mpr fun _ x hx => ?_
    cases hx
  · exact (mismatched_default_refused_iff .plain (f := .counting (.double .nan)) rfl hnan).1.mpr
      fun _ x hx => (Value.double.inj hx).symm

/-- Two and three quarters are no value of an integer kind either, but are written as two, and an
infinity is not refused as invalid. -/
theorem fraction_accepted_as_count :
    ¬ Kind.int32.Takes (.double (.ofBits 0x4006000000000000)) ∧
      (Double.ofBits 0x4006000000000000).value? = some (11 / 4) ∧
        (Field.counting (.double (.ofBits 0x4006000000000000))).defaultText .plain = .ok "2" ∧
          (Field.counting (.double (.infinite false))).defaultText .plain =
            .error (.number .infinite) := by
  refine ⟨?_, by decide +kernel, by decide +kernel, by decide +kernel⟩
  simp [Kind.Takes, Kind.family, Kind.isFloating]

end FieldCode
