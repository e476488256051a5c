import AffectedVersions.Proofs.Layout.Pairing
import AffectedVersions.Proofs.Timeline.Status
import AffectedVersions.Proofs.Version.Order
import AffectedVersions.Timeline.Lint
import Mathlib

/-! Timelines whose kinds alternate and whose versions do not descend. -/
namespace AffectedVersions

open Version

theorem Version.Precedes.notAfter {earlier later : Text} (h : Precedes earlier later) :
    NotAfter earlier later := by
  obtain ⟨a, b, ha, hb, hab⟩ := h
  exact ⟨a, b, ha, hb, SemVer.notAfter_of_precedes hab⟩

/-- The next event is of the other kind, and its version is the same or a later one. -/
structure Event.IsFollowedBy (e next : Event) : Prop where
  alternates : e.kind ≠ next.kind
  ascends : NotAfter e.version next.version

namespace Timeline

structure IsOrdered (t : Timeline) : Prop where
  versions : ∀ e ∈ t, (semVer? e.version).isSome
  follows : t.IsChain Event.IsFollowedBy

theorem IsOrdered.alternates {t : Timeline} (h : t.IsOrdered) : t.Alternates :=
  h.follows.imp fun _ _ => Event.IsFollowedBy.alternates

theorem IsOrdered.normalized {t : Timeline} (h : t.IsOrdered) : t.normalized.IsOrdered := by
  unfold Timeline.normalized
  constructor
  · rw [List.forall_mem_map]
    intro e he
    obtain ⟨v, hv⟩ := Option.isSome_iff_exists.mp (h.versions e he)
    exact Option.isSome_iff_exists.mpr ⟨v, semVer?_dropV hv⟩
  · rw [List.isChain_map]
    exact h.follows.imp fun _ _ hstep => ⟨hstep.alternates, hstep.ascends.dropV⟩

theorem versionIssues_eq_nil_iff (t : Timeline) :
    t.versionIssues = [] ↔ ∀ e ∈ t, (semVer? e.version).isSome := by
  unfold versionIssues
  rw [List.map_eq_nil_iff, List.filter_eq_nil_iff]
  apply forall₂_congr
  intro e _
  cases semVer? e.version <;> simp

theorem stepIssues_eq_nil_iff (e next : Event) :
    stepIssues e next = [] ↔ e.kind ≠ next.kind ∧ next.doesNotFollow e = false := by
  unfold stepIssues
  rw [List.append_eq_nil_iff]
  by_cases hk : e.kind = next.kind
  · simp [hk]
  · cases next.doesNotFollow e <;> simp [hk]

/-- Without issues are the timelines of versions in which each two neighbours are in order. -/
theorem lint_eq_nil_iff (t : Timeline) :
    t.lint = [] ↔ (∀ e ∈ t, (semVer? e.version).isSome) ∧
      t.IsChain fun e next => e.kind ≠ next.kind ∧ next.doesNotFollow e = false := by
  unfold lint
  rw [List.append_eq_nil_iff, versionIssues_eq_nil_iff]
  apply and_congr Iff.rfl
  induction t with
  | nil => simp
  | cons e t ih =>
    cases t with
    | nil => simp
    | cons next t =>
      rw [List.tail_cons] at ih ⊢
      rw [List.zip_cons_cons, List.flatMap_cons, List.append_eq_nil_iff, stepIssues_eq_nil_iff, ih,
        List.isChain_cons_cons]

theorem precedes_of_doesNotFollow_eq_false {e next : Event} (he : (semVer? e.version).isSome)
    (hnext : (semVer? next.version).isSome) (h : next.doesNotFollow e = false) :
    Precedes e.version next.version := by
  obtain ⟨a, ha⟩ := Option.isSome_iff_exists.mp he
  obtain ⟨b, hb⟩ := Option.isSome_iff_exists.mp hnext
  have hba : b.notAfter a = false := by
    unfold Event.doesNotFollow at h
    rw [ha, hb] at h
    exact h
  have hab : a.precedes b = true := by
    rw [SemVer.precedes_eq_not_notAfter, hba]
    rfl
  exact ⟨a, b, ha, hb, hab⟩

/-- Without issues the kinds alternate and the versions ascend strictly. -/
theorem isChain_of_lint {t : Timeline} (h : t.lint = []) :
    t.IsChain fun e next => e.kind ≠ next.kind ∧ Precedes e.version next.version := by
  obtain ⟨hversions, hchain⟩ := (lint_eq_nil_iff t).mp h
  refine hchain.imp_of_mem_imp fun e next he hnext hstep => ⟨hstep.1, ?_⟩
  exact precedes_of_doesNotFollow_eq_false (hversions e he) (hversions next hnext) hstep.2

/-- Without issues the versions ascend over any distance. -/
theorem pairwise_precedes_of_lint {t : Timeline} (h : t.lint = []) :
    t.Pairwise fun e later => Precedes e.version later.version := by
  have hchain : (t.map Event.version).IsChain Precedes := by
    rw [List.isChain_map]
    exact (isChain_of_lint h).imp fun _ _ hstep => hstep.2
  exact List.pairwise_map.mp (List.isChain_iff_pairwise.mp hchain)

theorem isOrdered_of_lint {t : Timeline} (h : t.lint = []) : t.IsOrdered :=
  ⟨((lint_eq_nil_iff t).mp h).1,
    (isChain_of_lint h).imp fun _ _ hstep => ⟨hstep.1, hstep.2.notAfter⟩⟩

end Timeline

end AffectedVersions
