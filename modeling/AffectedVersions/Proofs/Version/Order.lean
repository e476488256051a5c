import AffectedVersions.Proofs.SemVer.Order
import AffectedVersions.Proofs.Version.SemVer
import Mathlib

/-! The strict order of version texts, with the beginning below all versions. -/
namespace AffectedVersions.Version

/-- Both texts are versions, and the first one comes strictly before the second one. -/
def Precedes (earlier later : Text) : Prop :=
  ∃ a b, semVer? earlier = some a ∧ semVer? later = some b ∧ a.precedes b = true

theorem Precedes.isSome {earlier later : Text} (h : Precedes earlier later) :
    (semVer? earlier).isSome ∧ (semVer? later).isSome := by
  obtain ⟨a, b, ha, hb, -⟩ := h
  rw [ha, hb]
  exact ⟨rfl, rfl⟩

theorem Precedes.trans {a b c : Text} (hab : Precedes a b) (hbc : Precedes b c) :
    Precedes a c := by
  obtain ⟨u, v, hu, hv, huv⟩ := hab
  obtain ⟨v', w, hv', hw, hvw⟩ := hbc
  obtain rfl : v = v' := Option.some.inj (hv.symm.trans hv')
  exact ⟨u, w, hu, hw, SemVer.precedes_trans huv hvw⟩

instance : Trans Precedes Precedes Precedes := ⟨Precedes.trans⟩

theorem Precedes.dropV {earlier later : Text} (h : Precedes earlier later) :
    Precedes (dropV earlier) (dropV later) := by
  obtain ⟨a, b, ha, hb, hab⟩ := h
  exact ⟨a, b, semVer?_dropV ha, semVer?_dropV hb, hab⟩

/-- The second text is a version, and the first one is the beginning or comes before it. -/
inductive IsBelow : Text → Text → Prop
  | ofGenesis {later : Text} (h : (semVer? later).isSome) : IsBelow genesis later
  | ofPrecedes {earlier later : Text} (h : Precedes earlier later) : IsBelow earlier later

theorem IsBelow.isSome {earlier later : Text} (h : IsBelow earlier later) :
    (semVer? later).isSome := by
  cases h with
  | ofGenesis h => exact h
  | ofPrecedes h => exact h.isSome.2

/-- Above a version there are only versions. -/
theorem IsBelow.precedes {earlier later : Text} (h : IsBelow earlier later)
    (hearlier : (semVer? earlier).isSome) : Precedes earlier later := by
  cases h with
  | ofGenesis _ => exact absurd hearlier (by decide)
  | ofPrecedes h => exact h

theorem IsBelow.eq_genesis_or {earlier later : Text} (h : IsBelow earlier later) :
    earlier = genesis ∨ (semVer? earlier).isSome := by
  cases h with
  | ofGenesis _ => exact Or.inl rfl
  | ofPrecedes h => exact Or.inr h.isSome.1

end AffectedVersions.Version
