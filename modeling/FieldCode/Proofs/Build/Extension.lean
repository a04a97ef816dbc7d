import FieldCode.Proofs.Build.Outcome

/-!
# Registries that extend one another

A field, a message and a whole schema use the registry for one thing only, to follow references.  So
what resolves against one registry resolves in the same way against every registry that follows the
same references to the same types, whatever else that registry holds and in whatever order
(`MessageDecl.resolveAll_of_isExtendedBy`).

Permuting declarations gives two registries that extend each other, and adding one that captures
nothing gives a registry that extends the old one.  Both arguments are about references alone and
end here.
-/

namespace FieldCode

/-- Every reference that leads to a type in one registry leads to the same type in the other. -/
def Registry.IsExtendedBy (r r' : Registry) : Prop :=
  ∀ {reference scope : Text} {d : Declared},
    r.resolve reference scope = some d → r'.resolve reference scope = some d

variable {r r' : Registry}

theorem FieldSite.Target.of_isExtendedBy (h : r.IsExtendedBy r') {s : FieldSite} {k : Kind}
    {t : Option Declared} (ht : Target r s k t) : Target r' s k t := by
  cases ht with
  | plain hk => exact .plain hk
  | composite hk href hd hsuits => exact .composite hk href (h hd) hsuits

theorem FieldSite.resolve_of_isExtendedBy (h : r.IsExtendedBy r') {s : FieldSite} {f : Field}
    (hf : s.resolve r = .ok f) : s.resolve r' = .ok f := by
  obtain ⟨k, t, v, href, hv, rfl⟩ := FieldSite.resolve_eq_ok_iff.mp hf
  obtain ⟨hk, hpos, hnew, ht⟩ := FieldSite.refer_eq_ok_iff.mp href
  have href' := FieldSite.refer_eq_ok_iff.mpr ⟨hk, hpos, hnew, ht.of_isExtendedBy h⟩
  exact FieldSite.resolve_eq_ok_iff.mpr ⟨k, t, v, href', hv, rfl⟩

theorem FieldSite.resolveAll_of_isExtendedBy (h : r.IsExtendedBy r') {ss : List FieldSite}
    {fs : List Field} (hfs : resolveAll r ss = .ok fs) : resolveAll r' ss = .ok fs :=
  FieldSite.resolveAll_eq_ok_iff.mpr
    ((FieldSite.resolveAll_eq_ok_iff.mp hfs).imp fun _ _ => FieldSite.resolve_of_isExtendedBy h)

mutual

theorem MessageDecl.resolve_of_isExtendedBy (h : r.IsExtendedBy r') {scope : Text} :
    ∀ {d : MessageDecl} {m : MessageType}, d.resolve r scope = .ok m → d.resolve r' scope = .ok m
  | ⟨name, fields, messages, enums⟩, m, hm => by
    obtain ⟨fs, ms, hfs, hms, rfl⟩ := MessageDecl.resolve_eq_ok_iff.mp hm
    exact MessageDecl.resolve_eq_ok_iff.mpr ⟨fs, ms, FieldSite.resolveAll_of_isExtendedBy h hfs,
      MessageDecl.resolveAll_of_isExtendedBy h hms, rfl⟩

theorem MessageDecl.resolveAll_of_isExtendedBy (h : r.IsExtendedBy r') {scope : Text} :
    ∀ {ds : List MessageDecl} {ms : List MessageType},
      MessageDecl.resolveAll r scope ds = .ok ms → MessageDecl.resolveAll r' scope ds = .ok ms
  | [], _, hms => hms
  | d :: ds, ms, hms => by
    cases MessageDecl.resolveAll_eq_ok_iff.mp hms with
    | cons hd hds =>
      have hd' := MessageDecl.resolve_of_isExtendedBy h hd
      have hds' := MessageDecl.resolveAll_of_isExtendedBy h
        (MessageDecl.resolveAll_eq_ok_iff.mpr hds)
      exact MessageDecl.resolveAll_eq_ok_iff.mpr
        (List.Forall₂.cons hd' (MessageDecl.resolveAll_eq_ok_iff.mp hds'))

end

end FieldCode
