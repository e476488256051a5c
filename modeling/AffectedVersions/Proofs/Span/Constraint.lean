import AffectedVersions.Proofs.Constraint.Spelling
import AffectedVersions.Proofs.Span.Events
import Mathlib

/-! Spans whose beginning is a constraint are read like those with its bounds in their fields. -/
namespace AffectedVersions

open Version Constraint

namespace Constraint.IsOperand

variable {version : Text}

theorem isTrimmed (h : IsOperand version) : Text.IsTrimmed version where
  first := fun c hc => (not_isBlank_of_isVersionChar (h.chars c (List.mem_of_mem_head? hc))).1
  last := fun c hc => (not_isBlank_of_isVersionChar (h.chars c (List.mem_of_mem_getLast? hc))).1

theorem trim (h : IsOperand version) : Text.trim version = version :=
  (Text.trim_eq_self_iff version).mpr h.isTrimmed

theorem not_isConstraint_dropV (h : IsOperand version) : isConstraint (dropV version) = false := by
  rw [Bool.eq_false_iff]
  intro hc
  obtain ⟨c, hmem, hoperator⟩ := exists_operator_of_isConstraint hc
  have hchar := (not_isBlank_of_isVersionChar (h.chars c (mem_of_mem_dropV hmem))).2.2
  rw [hoperator] at hchar
  exact Bool.noConfusion hchar

end Constraint.IsOperand

namespace Span

variable {s p : Span} {lower : Option Text} {upper : Text}

theorem lower_bounds_eq_filter (s : Span) :
    s.bounds.lower = s.statedBounds.lower.filter (· ≠ genesis) := by
  unfold bounds
  split_ifs with h
  · rw [h]
    rfl
  · cases hlower : s.statedBounds.lower with
    | none => rfl
    | some version =>
      have hne : version ≠ genesis := by
        rintro rfl
        exact h hlower
      simp [Option.filter, hne]

theorem endEvents_nonEmpty? (kind : EventKind) (version : Text) :
    endEvents kind (nonEmpty? version) = endEvents kind (some version) := by
  by_cases hv : version = ""
  · subst hv
    rfl
  · rw [nonEmpty?_of_ne hv]

theorem endEvents_filter_nonEmpty? (kind : EventKind) (version : Text) :
    endEvents kind ((nonEmpty? version).filter (· ≠ genesis)) =
      endEvents kind ((some version).filter (· ≠ genesis)) := by
  by_cases hv : version = ""
  · subst hv
    rfl
  · rw [nonEmpty?_of_ne hv]

theorem reading_congr {s p : Span} (hstatus : s.status = p.status) (hs : s.isEmpty = false)
    (hp : p.isEmpty = false)
    (hlower : ∀ kind, endEvents kind s.bounds.lower = endEvents kind p.bounds.lower)
    (hupper : ∀ kind, endEvents kind s.bounds.upper = endEvents kind p.bounds.upper)
    (default : Option Status) : Reading.ofSpans [s] default = Reading.ofSpans [p] default := by
  have hagainst : ∀ d, s.statusAgainst d = p.statusAgainst d := by
    intro d
    unfold statusAgainst
    rw [hstatus]
  have hrep : ∀ d, s.isRepresentable d = p.isRepresentable d := by
    intro d
    unfold isRepresentable
    rw [hs, hp, hagainst]
  have hevents : ∀ d, s.events d = p.events d := by
    intro d
    unfold events openingKind
    rw [hs, hp, hrep, hagainst]
    dsimp only
    rw [hlower, hupper]
  rw [reading_eq, reading_eq, hevents, hrep]

variable {s : Span} {lower : Option Text} {upper : Text}

theorem lowerText_of_spells (h : Spells s.introduced lower upper) :
    isConstraint s.lowerText = true ∧ Spells s.lowerText lower upper := by
  have htrim := h.isSpelledBy_trim
  obtain ⟨c, cs, hcons, hc⟩ := htrim.exists_operator
  obtain ⟨-, -, hv⟩ := not_isBlank_of_isOperatorChar hc
  have htext : s.lowerText = Text.trim s.introduced := by
    unfold lowerText
    rw [dropV_eq_self_iff, hcons]
    simpa using hv
  have hspells : Spells s.lowerText lower upper := by
    rw [htext]
    exact ⟨[], _, [], isGap_nil, htrim, isGap_nil, by simp⟩
  exact ⟨hspells.isConstraint, hspells⟩

theorem statedBounds_of_spells (h : Spells s.introduced lower upper) :
    s.statedBounds = ⟨lower.map dropV, some (dropV upper)⟩ := by
  obtain ⟨hconstraint, hspells⟩ := lowerText_of_spells h
  unfold statedBounds
  rw [if_pos hconstraint, parse_of_spells hspells]

theorem isEmpty_of_isConstraint (h : isConstraint s.lowerText = true) : s.isEmpty = false := by
  have hne : s.introduced ≠ "" := by
    intro heq
    have htext : s.lowerText = "" := by
      unfold lowerText
      rw [heq]
      rfl
    rw [htext] at h
    exact Bool.false_ne_true h
  unfold isEmpty
  rw [beq_false_of_ne hne, Bool.false_and]

theorem lowerText_of_isOperand (h : IsOperand s.introduced) :
    s.lowerText = dropV s.introduced ∧ isConstraint s.lowerText = false := by
  have htext : s.lowerText = dropV s.introduced := by
    unfold lowerText
    rw [h.trim]
  rw [htext]
  exact ⟨rfl, h.not_isConstraint_dropV⟩

theorem endEvents_of_isOperand (hlower : ∀ version ∈ lower, IsOperand version)
    (hintroduced : s.introduced = lower.getD genesis) (hfixed : IsOperand s.fixed)
    (kind : EventKind) :
    endEvents kind s.bounds.lower =
        endEvents kind ((lower.map dropV).filter (· ≠ genesis)) ∧
      endEvents kind s.bounds.upper = endEvents kind (some (dropV s.fixed)) := by
  have hupper : isConstraint s.lowerText = false →
      endEvents kind s.bounds.upper = endEvents kind (some (dropV s.fixed)) := by
    intro hc
    have htext : s.upperText = dropV s.fixed := congrArg dropV hfixed.trim
    rw [upper_bounds, statedBounds_of_not_isConstraint hc, htext, endEvents_nonEmpty?]
  cases lower with
  | none =>
    obtain ⟨hc, hnone⟩ := lower_bounds_of_unbounded (Or.inr hintroduced)
    rw [hnone]
    exact ⟨rfl, hupper hc⟩
  | some version =>
    obtain rfl : s.introduced = version := hintroduced
    obtain ⟨htext, hc⟩ := lowerText_of_isOperand (hlower s.introduced rfl)
    refine ⟨?_, hupper hc⟩
    rw [lower_bounds_eq_filter, statedBounds_of_not_isConstraint hc, htext, Option.map_some,
      endEvents_filter_nonEmpty?]

end Span

/-- Every spelling of a constraint is read as the plain span that it abbreviates. -/
theorem Reading.ofSpans_of_spells {s : Span} {lower : Option Text} {upper : Text}
    (h : Spells s.introduced lower upper) (default : Option Status) :
    ofSpans [s] default =
      ofSpans [{ s with introduced := lower.getD genesis, fixed := upper }] default := by
  obtain ⟨hlower, hupper⟩ := h.isSpelledBy_trim.isOperand
  have hstated := Span.statedBounds_of_spells h
  have hplain : ∀ p : Span, s.status = p.status → p.introduced = lower.getD genesis →
      p.fixed = upper → ofSpans [s] default = ofSpans [p] default := by
    intro p hstatus hintroduced hfixed
    rw [← hfixed] at hupper
    have hempty : p.isEmpty = false := by
      unfold Span.isEmpty
      rw [beq_false_of_ne hupper.ne_empty, Bool.and_false]
    have hends := Span.endEvents_of_isOperand hlower hintroduced hupper
    apply Span.reading_congr hstatus (Span.isEmpty_of_isConstraint (Span.lowerText_of_spells h).1) hempty
    · intro kind
      rw [(hends kind).1, Span.lower_bounds_eq_filter, hstated]
    · intro kind
      rw [(hends kind).2, Span.upper_bounds, hstated, hfixed]
  exact hplain _ rfl rfl rfl

/-- The field for the end holds a text of its own, which is not read. -/
def Span.constrained : Span where
  introduced := " >=  v1.0 ,<\t2\n"
  fixed := "9"

theorem Reading.ofSpans_of_spells_constrained :
    Spells Span.constrained.introduced (some "v1.0") "2" ∧
      ofSpans [Span.constrained] none = ofSpans [⟨"v1.0", "2", none, "semver"⟩] none ∧
      ofSpans [Span.constrained] none = ⟨[⟨.introduced, "1.0"⟩, ⟨.fixed, "2"⟩], true⟩ := by
  have hlower : (Clause.atLeast "v1.0").IsSpelledBy ">=  v1.0".toList :=
    ⟨by decide +kernel, [' ', ' '], by decide +kernel, by decide +kernel⟩
  have hupper : (Clause.below "2").IsSpelledBy "<\t2".toList :=
    ⟨by decide +kernel, ['\t'], by decide +kernel, by decide +kernel⟩
  have hseparator : IsSeparator ([' '] ++ ',' :: []) :=
    .comma (by decide +kernel) (by decide +kernel)
  have hspells : Spells Span.constrained.introduced (some "v1.0") "2" :=
    ⟨[' '], _, ['\n'], by decide +kernel, .between hlower hseparator hupper, by decide +kernel,
      by decide +kernel⟩
  exact ⟨hspells, ofSpans_of_spells hspells none, by decide +kernel⟩

end AffectedVersions
