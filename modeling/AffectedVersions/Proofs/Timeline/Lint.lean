import AffectedVersions.Proofs.Timeline.Order
import Mathlib

/-! What the comparison of neighbours guarantees for the whole timeline. -/
namespace AffectedVersions

open Version

/-- Versions that differ in their builds only stand level. -/
theorem SemVer.compare_eq_of_build_eq {a b : SemVer}
    (h : { a with build := [] } = { b with build := [] }) : a.compare b = .eq := by
  have hself : b.compare b = .eq := Std.ReflCmp.compare_self
  have hsame : a.compare b = b.compare b := by
    obtain ⟨_, _, _, _, _⟩ := a
    obtain ⟨_, _, _, _, _⟩ := b
    simp only [SemVer.mk.injEq, and_true] at h
    obtain ⟨rfl, rfl, rfl, rfl⟩ := h
    rfl
  rw [hsame, hself]

theorem Version.Precedes.build_ne {earlier later : Text} (h : Precedes earlier later) {a b : SemVer}
    (ha : semVer? earlier = some a) (hb : semVer? later = some b) :
    { a with build := [] } ≠ { b with build := [] } := by
  obtain ⟨a', b', ha', hb', hprecedes⟩ := h
  obtain rfl := Option.some.inj (ha.symm.trans ha')
  obtain rfl := Option.some.inj (hb.symm.trans hb')
  intro heq
  unfold SemVer.precedes at hprecedes
  rw [SemVer.compare_eq_of_build_eq heq] at hprecedes
  exact absurd hprecedes (by decide)

theorem Version.Precedes.doesNotFollow_eq_false {e next : Event}
    (h : Precedes e.version next.version) : next.doesNotFollow e = false := by
  obtain ⟨a, b, ha, hb, hab⟩ := h
  rw [SemVer.precedes_eq_not_notAfter, Bool.not_eq_true'] at hab
  unfold Event.doesNotFollow
  rw [ha, hb]
  exact hab

namespace Timeline

theorem lint_eq_nil_of_pairwise {t : Timeline}
    (hversions : ∀ e ∈ t, (semVer? e.version).isSome) (halternates : t.Alternates)
    (hpairwise : t.Pairwise fun e later => Precedes e.version later.version) : t.lint = [] := by
  rw [lint_eq_nil_iff, List.isChain_iff_getElem]
  refine ⟨hversions, fun i hi => ⟨List.isChain_iff_getElem.mp halternates i hi, ?_⟩⟩
  have hprecedes := List.pairwise_iff_getElem.mp hpairwise i (i + 1) (by omega) hi (by omega)
  exact hprecedes.doesNotFollow_eq_false

/-- A timeline has no issues exactly when its versions can be read and ascend strictly over any
distance and its kinds alternate. Then no two are the same, with or without their builds. -/
theorem lint_eq_nil_iff_pairwise (t : Timeline) :
    (t.lint = [] ↔ (∀ e ∈ t, (semVer? e.version).isSome) ∧ t.Alternates ∧
      t.Pairwise fun e later => Precedes e.version later.version) ∧
    (t.lint = [] → t.Pairwise fun e later => ∀ a b, semVer? e.version = some a →
      semVer? later.version = some b → { a with build := [] } ≠ { b with build := [] }) := by
  constructor
  · constructor
    · intro h
      have hord := isOrdered_of_lint h
      exact ⟨hord.versions, hord.alternates, pairwise_precedes_of_lint h⟩
    · intro h
      obtain ⟨hversions, halternates, hpairwise⟩ := h
      exact lint_eq_nil_of_pairwise hversions halternates hpairwise
  · intro h
    refine (pairwise_precedes_of_lint h).imp ?_
    intro e later hprecedes a b ha hb
    exact hprecedes.build_ne ha hb

/-- Prereleases in their order, where numbers come before texts and count as numbers. -/
def prereleases : Timeline :=
  [⟨.fixed, "1.0.0-alpha.2+b"⟩, ⟨.introduced, "v1.0.0-alpha.10"⟩, ⟨.fixed, "1.0.0-alpha.beta"⟩,
    ⟨.introduced, "1.0.0+a"⟩]

theorem lint_eq_nil_iff_pairwise_prereleases :
    prereleases.lint = [] ∧
      (prereleases.Pairwise fun e later => Precedes e.version later.version) ∧
      prereleases.Pairwise fun e later => ∀ a b, semVer? e.version = some a →
        semVer? later.version = some b → { a with build := [] } ≠ { b with build := [] } := by
  have hlint : prereleases.lint = [] := by decide +kernel
  obtain ⟨hiff, hdistinct⟩ := lint_eq_nil_iff_pairwise prereleases
  exact ⟨hlint, (hiff.mp hlint).2.2, hdistinct hlint⟩

end Timeline

end AffectedVersions
