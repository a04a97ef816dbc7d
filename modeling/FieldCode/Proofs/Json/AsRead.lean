import FieldCode.Document.Decode
import FieldCode.Proofs.Json.Halves
import FieldCode.Proofs.Number.Digits
import FieldCode.Proofs.Number.Rounding

/-!
# What a reader makes

Not every value is one that a reader makes.  In the texts of one that is, no halves of surrogate pairs
meet, and its integers have no more digits than a numeral may have.  `Json.AsRead` says so, and
`Json.asRead_of_read` proves it; the last section says what is left of it when a value is converted to
the text or the number that an entry holds.
-/

namespace FieldCode

/-! ## Computations that succeed -/

section Succeed

variable {ε α β : Type} {x : Except ε α} {b : β}

theorem map_eq_ok_iff {f : α → β} : x.map f = .ok b ↔ ∃ a, x = .ok a ∧ f a = b := by
  cases x <;> simp [Except.map]

theorem bind_eq_ok_iff {f : α → Except ε β} : x >>= f = .ok b ↔ ∃ a, x = .ok a ∧ f a = .ok b := by
  cases x <;> simp [bind, Except.bind]

theorem eq_ok_of_toOption {a : α} (h : x.toOption = some a) : x = .ok a := by
  cases x with
  | error e => cases h
  | ok a' => exact congrArg Except.ok (Option.some.inj h)

theorem exists_of_toOption_any {t : α → Bool} (h : x.toOption.any t = true) :
    ∃ a, x = .ok a ∧ t a = true := by
  obtain ⟨a, ha, ht⟩ := (Option.any_eq_true t x.toOption).mp h
  exact ⟨a, eq_ok_of_toOption ha, ht⟩

end Succeed

/-! ## Numbers with so many digits -/

theorem Text.ofDigits_lt {base : Nat} {ds : List Nat} (h : ∀ d ∈ ds, d < base) :
    Text.ofDigits base ds < base ^ ds.length := by
  induction ds using List.reverseRecOn with
  | nil => exact Nat.one_pos
  | append_singleton ds d ih =>
    have hds := ih fun e he => h e (List.mem_append_left _ he)
    have hd := h d (List.mem_append_right _ (List.mem_singleton_self d))
    have hconcat : Text.ofDigits base (ds ++ [d]) = Text.ofDigits base ds * base + d :=
      List.foldl_append
    calc Text.ofDigits base (ds ++ [d]) = Text.ofDigits base ds * base + d := hconcat
      _ < (Text.ofDigits base ds + 1) * base := by rw [Nat.add_mul, Nat.one_mul]; omega
      _ ≤ base ^ ds.length * base := Nat.mul_le_mul_right base hds
      _ = base ^ (ds ++ [d]).length := by
        rw [List.length_append, List.length_singleton, Nat.pow_succ]

theorem Numeral.fits_signed {n : Nat} (h : n < 10 ^ Numeral.maxDigits) (negative : Bool) :
    Numeral.Fits (Numeral.signed negative n) := by
  cases negative <;> simpa [Numeral.fits_iff, Numeral.signed] using h

theorem Numeral.digitRun_lt {base : Nat} {cs : List Char} :
    ∀ d ∈ Numeral.digitRun base cs, d < base := by
  induction cs with
  | nil => exact List.forall_mem_nil _
  | cons c cs ih =>
    rw [Numeral.digitRun]
    split
    · rename_i d hd
      refine List.forall_mem_cons.mpr ⟨?_, ih⟩
      unfold Text.digitIn? at hd
      split at hd
      · split_ifs at hd with hlt
        exact Option.some.inj hd ▸ hlt
      · cases hd
    · exact List.forall_mem_nil _

theorem Numeral.fits_of_readGrouped {t : Text} {n : Int} (h : Numeral.readGrouped t = .ok n) :
    Numeral.Fits n := by
  unfold Numeral.readGrouped at h
  dsimp only at h
  split_ifs at h with hgrouped hlong hrest
  rw [← Except.ok.inj h]
  exact Numeral.fits_signed ((Text.ofDigits_lt Numeral.digitRun_lt).trans_le
    (Nat.pow_le_pow_right (by decide) (not_lt.mp hlong))) _

theorem Double.fits_truncate (negative : Bool) (m : Format.double.Magnitude) :
    Numeral.Fits (Double.truncate negative m) := by
  obtain ⟨e, he, hvalue⟩ : ∃ e : Nat, e ≤ Numeral.maxDigits ∧ m.value < 2 ^ e := by
    refine ⟨1024, by decide, ?_⟩
    rw [← zpow_natCast]
    exact m.value_lt
  have hnonneg : 0 ≤ m.value.floor := by
    refine Rat.le_floor_iff.mpr ?_
    rw [Format.Magnitude.value, Int.cast_zero]
    exact mul_nonneg (Nat.cast_nonneg _) (zpow_pos two_pos _).le
  have hfloor : ((m.value.floor.toNat : Nat) : ℚ) < ((2 ^ e : Nat) : ℚ) := by
    calc ((m.value.floor.toNat : Nat) : ℚ) = (m.value.floor : ℚ) := by
          rw [← Int.cast_natCast, Int.toNat_of_nonneg hnonneg]
      _ ≤ m.value := Rat.floor_le m.value
      _ < ((2 ^ e : Nat) : ℚ) := by rw [Nat.cast_pow, Nat.cast_ofNat]; exact hvalue
  have habs : (Double.truncate negative m).natAbs = m.value.floor.toNat := by
    cases negative <;> simp only [Double.truncate] <;> omega
  rw [Numeral.fits_iff]
  calc (Double.truncate negative m).natAbs = m.value.floor.toNat := habs
    _ < 2 ^ e := Nat.cast_lt.mp hfloor
    _ ≤ 10 ^ e := Nat.pow_le_pow_left (by decide) e
    _ ≤ 10 ^ Numeral.maxDigits := Nat.pow_le_pow_right (by decide) he

namespace Json

/-- No halves meet in the texts of the value, keys aside, and its integers have no more digits than a
numeral may have. -/
inductive AsRead : Json → Prop
  | null : AsRead null
  | bool (b : Bool) : AsRead (bool b)
  | int {n : Int} (h : Numeral.Fits n) : AsRead (int n)
  | number (x : Double) : AsRead (number x)
  | text {t : Text} (h : t.IsJoined) : AsRead (text t)
  | array {items : List Json} (h : ∀ j ∈ items, AsRead j) : AsRead (array items)
  | object {members : List (Text × Json)} (h : ∀ m ∈ members, AsRead m.2) : AsRead (object members)

/-! ## Reading -/

theorem mem_put {α : Type} {key : Text} {value : α} {ms : List (Text × α)} {m : Text × α}
    (h : m ∈ put key value ms) : m = (key, value) ∨ m ∈ ms := by
  induction ms with
  | nil => exact Or.inl (List.mem_singleton.mp h)
  | cons m' ms ih =>
    obtain ⟨k, v⟩ := m'
    rw [put] at h
    split_ifs at h with hk
    · rcases List.mem_cons.mp h with h | h
      · exact Or.inl h
      · exact Or.inr (List.mem_cons_of_mem _ h)
    · rcases List.mem_cons.mp h with rfl | h
      · exact Or.inr (List.mem_cons_self ..)
      · exact (ih h).imp_right (List.mem_cons_of_mem _)

theorem assemble_subset {α : Type} (ms : List (Text × α)) : assemble ms ⊆ ms := by
  induction ms using List.reverseRecOn with
  | nil => exact List.Subset.refl []
  | append_singleton ms m ih =>
    intro m' hm'
    rw [assemble, List.foldl_append] at hm'
    rcases mem_put hm' with rfl | hm'
    · exact List.mem_append_right _ (List.mem_singleton_self _)
    · exact List.mem_append_left _ (ih hm')

theorem splitWhole_isDigit (cs : List Char) : ∀ d ∈ (splitWhole cs).1, d.isDigit = true := by
  unfold splitWhole
  split
  · rintro _ ⟨⟩
    · rfl
    · contradiction
  · exact fun d hd => List.mem_takeWhile_imp hd

theorem asRead_of_readNumber {cs rest : List Char} {j : Json} (h : readNumber cs = .ok (j, rest)) :
    j.AsRead := by
  unfold readNumber at h
  extract_lets signRest whole fraction exponent at h
  split_ifs at h with hnone hwhole hlong
  · rw [← (Prod.mk.inj (Except.ok.inj h)).1]
    exact .int (Numeral.fits_signed ((Numeral.ofAscii_lt (splitWhole_isDigit _)).trans_le
      (Nat.pow_le_pow_right (by decide) (not_lt.mp hlong))) _)
  · rw [← (Prod.mk.inj (Except.ok.inj h)).1]
    exact .number _

/-- A word that is a value is none of those that must be looked into. -/
theorem asRead_of_readWord? {cs rest : List Char} {j : Json} (h : readWord? cs = some (j, rest)) :
    j.AsRead := by
  obtain ⟨w, hw, hj⟩ := List.exists_of_findSome?_eq_some h
  obtain ⟨_, -, hrest⟩ := Option.map_eq_some_iff.mp hj
  have hwords : ∀ w ∈ words, w.2.AsRead := by
    simp only [words, List.forall_mem_cons]
    exact ⟨.null, .bool _, .bool _, .number _, .number _, .number _, List.forall_mem_nil _⟩
  exact (Prod.mk.inj hrest).1 ▸ hwords w hw

theorem isJoined_of_readText {cs rest : List Char} {t : Text} (h : readText cs = some (t, rest)) :
    t.IsJoined := by
  obtain ⟨_, -, hr⟩ := Option.map_eq_some_iff.mp h
  exact (Prod.mk.inj hr).1 ▸ isJoined_joinHalves _

/-- A value is as it should be if the items and members that are read with one call less are. -/
theorem asRead_of_readValue_succ {room fuel : Nat} {cs rest : List Char} {j : Json}
    (hitems : ∀ {room cs items rest}, readItems room fuel cs = .ok (items, rest) →
      ∀ j ∈ items, j.AsRead)
    (hmembers : ∀ {room cs members rest}, readMembers room fuel cs = .ok (members, rest) →
      ∀ m ∈ members, m.2.AsRead)
    (h : readValue room (fuel + 1) cs = .ok (j, rest)) : j.AsRead := by
  cases cs with
  | nil => cases h
  | cons c cs =>
    rw [readValue] at h
    split_ifs at h
    · split at h
      · rename_i hread
        obtain ⟨rfl, -⟩ := Prod.mk.inj (Except.ok.inj h)
        exact .text (isJoined_of_readText hread)
      · cases h
    · split at h
      · obtain ⟨rfl, -⟩ := Prod.mk.inj (Except.ok.inj h)
        exact .array (List.forall_mem_nil _)
      · obtain ⟨_, hread, hj⟩ := map_eq_ok_iff.mp h
        obtain ⟨rfl, -⟩ := Prod.mk.inj hj
        exact .array (hitems hread)
    · split at h
      · obtain ⟨rfl, -⟩ := Prod.mk.inj (Except.ok.inj h)
        exact .object (List.forall_mem_nil _)
      · obtain ⟨_, hread, hj⟩ := map_eq_ok_iff.mp h
        obtain ⟨rfl, -⟩ := Prod.mk.inj hj
        exact .object fun m hm => hmembers hread m (assemble_subset _ hm)
    · split at h
      · rename_i hword
        exact asRead_of_readWord? (hword.trans (congrArg some (Except.ok.inj h)))
      · exact asRead_of_readNumber h

/-- Items are as they should be if what is read with one call less is. -/
theorem asRead_of_readItems_succ {room fuel : Nat} {cs rest : List Char} {items : List Json}
    (hvalue : ∀ {room cs j rest}, readValue room fuel cs = .ok (j, rest) → j.AsRead)
    (hitems : ∀ {room cs items rest}, readItems room fuel cs = .ok (items, rest) →
      ∀ j ∈ items, j.AsRead)
    (h : readItems room (fuel + 1) cs = .ok (items, rest)) : ∀ j ∈ items, j.AsRead := by
  rw [readItems] at h
  split at h
  · cases h
  · rename_i hread
    split at h
    · obtain ⟨_, hmore, hj⟩ := map_eq_ok_iff.mp h
      obtain ⟨rfl, -⟩ := Prod.mk.inj hj
      exact List.forall_mem_cons.mpr ⟨hvalue hread, hitems hmore⟩
    · obtain ⟨rfl, -⟩ := Prod.mk.inj (Except.ok.inj h)
      exact List.forall_mem_singleton.mpr (hvalue hread)
    · cases h

theorem asRead_of_readMembers_succ {room fuel : Nat} {cs rest : List Char}
    {members : List (Text × Json)}
    (hvalue : ∀ {room cs j rest}, readValue room fuel cs = .ok (j, rest) → j.AsRead)
    (hmembers : ∀ {room cs members rest}, readMembers room fuel cs = .ok (members, rest) →
      ∀ m ∈ members, m.2.AsRead)
    (h : readMembers room (fuel + 1) cs = .ok (members, rest)) : ∀ m ∈ members, m.2.AsRead := by
  rw [readMembers.eq_def] at h
  dsimp only at h
  split at h
  · split at h
    · cases h
    · split at h
      · split at h
        · cases h
        · rename_i hread
          split at h
          · obtain ⟨_, hmore, hj⟩ := map_eq_ok_iff.mp h
            obtain ⟨rfl, -⟩ := Prod.mk.inj hj
            exact List.forall_mem_cons.mpr ⟨hvalue hread, hmembers hmore⟩
          · obtain ⟨rfl, -⟩ := Prod.mk.inj (Except.ok.inj h)
            exact List.forall_mem_singleton.mpr (hvalue hread)
          · cases h
      · cases h
  · cases h

/-- What is read is as it should be, whatever the fuel. -/
theorem asRead_of_fuel (fuel : Nat) :
    (∀ {room cs j rest}, readValue room fuel cs = .ok (j, rest) → j.AsRead) ∧
      (∀ {room cs items rest}, readItems room fuel cs = .ok (items, rest) →
        ∀ j ∈ items, j.AsRead) ∧
      ∀ {room cs members rest}, readMembers room fuel cs = .ok (members, rest) →
        ∀ m ∈ members, m.2.AsRead := by
  induction fuel with
  | zero =>
    refine ⟨fun h => ?_, fun h => ?_, fun h => ?_⟩
    · rw [readValue] at h
      cases h
    · rw [readItems] at h
      cases h
    · rw [readMembers] at h
      cases h
  | succ fuel ih =>
    obtain ⟨hvalue, hitems, hmembers⟩ := ih
    exact ⟨asRead_of_readValue_succ hitems hmembers, asRead_of_readItems_succ hvalue hitems,
      asRead_of_readMembers_succ hvalue hmembers⟩

/-- **What a reader makes is as it should be.** -/
theorem asRead_of_read {text : String} {j : Json} (h : read text = .ok j) : j.AsRead := by
  rw [read, readChars] at h
  split at h
  · cases h
  · rename_i hread
    split_ifs at h
    rw [← Except.ok.inj h]
    exact (asRead_of_fuel _).1 hread

/-! ## Converting -/

mutual

theorem lacksHigh_shown : ∀ j : Json, j.shown.LacksHigh
  | .null | .bool true | .bool false => by simp [shown]
  | .int n => by simp [shown, Text.ofInt]
  | .number x => by simp [shown]
  | .text s => by simp [shown, Text.quoted]
  | .array [] => by simp [shown]
  | .array (item :: items) => by
    simp [shown, lacksHigh_shown item, lacksHigh_shownItems items]
  | .object [] => by simp [shown]
  | .object ((key, value) :: members) => by
    simp [shown, Text.quoted, lacksHigh_shown value, lacksHigh_shownMembers members]

theorem lacksHigh_shownItems : ∀ items : List Json, (shownItems items).LacksHigh
  | [] => by simp [shownItems]
  | item :: items => by
    simp [shownItems, lacksHigh_shown item, lacksHigh_shownItems items]

theorem lacksHigh_shownMembers : ∀ members : List (Text × Json), (shownMembers members).LacksHigh
  | [] => by simp [shownMembers]
  | (key, value) :: members => by
    simp [shownMembers, Text.quoted, lacksHigh_shown value, lacksHigh_shownMembers members]

end

theorem AsRead.isJoined_of_asText {j : Json} (h : j.AsRead) {t : Text} (ht : j.asText = some t) :
    t.IsJoined := by
  have hshown : j.shown = t → t.IsJoined := fun ht => ht ▸ (lacksHigh_shown j).isJoined
  cases h with
  | null => cases ht
  | text h => exact Option.some.inj ht ▸ h
  | _ => exact hshown (Option.some.inj ht)

theorem AsRead.fits_of_asWhole {j : Json} (h : j.AsRead) {n : Int}
    (hn : j.asWhole = .ok (some (.int n))) : Numeral.Fits n := by
  cases h with
  | int h =>
    cases hn
    exact h
  | number x =>
    cases x with
    | finite negative m =>
      cases hn
      exact Double.fits_truncate negative m
    | _ => cases hn
  | @text t h =>
    rw [asWhole] at hn
    split at hn
    · rename_i hread
      cases hn
      exact Numeral.fits_of_readGrouped hread
    · cases hn
    · cases hn
  | _ => cases hn

theorem exists_mem_of_get? {α : Type} {key : Text} {ms : List (Text × α)} {value : α}
    (h : get? key ms = some value) : ∃ m ∈ ms, m.2 = value := by
  induction ms with
  | nil => cases h
  | cons m ms ih =>
    rw [get?] at h
    split_ifs at h with hk
    · exact ⟨m, List.mem_cons_self .., Option.some.inj h⟩
    · obtain ⟨m', hm', hvalue⟩ := ih h
      exact ⟨m', List.mem_cons_of_mem _ hm', hvalue⟩

end Json

end FieldCode
