import AffectedVersions.Proofs.Timeline.Meaning
import Mathlib

/-! Round trips with lint: a timeline without issues is also one that comes back. -/
namespace AffectedVersions

namespace History

/-- The lint is the only source of issues. -/
theorem issues_check (lint : Bool) (h : History) :
    (h.check lint).issues = if lint then h.events.lint else [] := by
  unfold check
  simp [Timeline.complete_read_toCoverage]

theorem isMatch_check_of_isOrdered {h : History} (hord : h.events.IsOrdered) (lint : Bool) :
    (h.check lint).isMatch = true := by
  have hback : h.events.normalized = h.events.toCoverage.read.events := hord.read_toCoverage.symm
  exact beq_iff_eq.mpr hback

theorem ok_check_iff_lint_eq_nil (h : History) :
    (h.check true).ok = true ↔ h.events.lint = [] := by
  have hissues : (h.check true).issues = h.events.lint := h.issues_check true
  unfold RoundTrip.ok
  rw [Bool.and_eq_true, List.isEmpty_iff, hissues]
  constructor
  · exact And.right
  · intro hlint
    exact ⟨isMatch_check_of_isOrdered (Timeline.isOrdered_of_lint hlint) true, hlint⟩

/-- With lint on, the result of each module holds the issues of its timeline and no other, and it
passes exactly when there are none. -/
theorem forall_ok_check_iff_lint (modules : List History) :
    List.Forall₂ (fun h r => r.module = h.module ∧ r.original = h.events ∧
        r.issues = h.events.lint ∧ (r.ok = true ↔ h.events.lint = []))
      modules (modules.map (History.check true)) := by
  rw [List.forall₂_map_right_iff, List.forall₂_same]
  intro h _
  exact ⟨rfl, rfl, h.issues_check true, h.ok_check_iff_lint_eq_nil⟩

end History

end AffectedVersions
