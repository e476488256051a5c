import AffectedVersions.Proofs.Span.Constraint
import Mathlib

/-! Spans whose beginning is a constraint with a fault are read as far as that goes. -/
namespace AffectedVersions

open Version Constraint

namespace Span

variable {s : Span} {e : Constraint.Error}

/-- A lower bound that is missing, empty or the beginning of all versions gives no event, and the
other field stands in for an upper bound that is missing, but not for an empty one. -/
def knownEvents (s : Span) (known : Bounds) (opening : EventKind) : Timeline :=
  let lower := known.lower.getD ""
  let upper := known.upper.getD s.upperText
  (if lower = "" ∨ lower = genesis then [] else [⟨opening, lower⟩]) ++
    if upper = "" then [] else [⟨opening.opposite, upper⟩]

theorem endEvents_some_eq_ite (kind : EventKind) (version : Text) :
    endEvents kind (some version) = if version = "" then [] else [⟨kind, version⟩] := by
  split_ifs with hempty
  · rw [hempty]
    rfl
  · exact endEvents_some hempty kind

theorem endEvents_filter_ne_genesis (kind : EventKind) (lower : Option Text) :
    endEvents kind (lower.filter (· ≠ genesis)) =
      if lower.getD "" = "" ∨ lower.getD "" = genesis then [] else [⟨kind, lower.getD ""⟩] := by
  cases lower with
  | none => rfl
  | some version =>
    rw [Option.getD_some]
    by_cases hgenesis : version = genesis
    · rw [hgenesis, if_pos (Or.inr rfl)]
      rfl
    · have hkept : (some version).filter (· ≠ genesis) = some version := by
        simp [Option.filter, hgenesis]
      rw [hkept, endEvents_some_eq_ite]
      simp [hgenesis]

theorem endEvents_orElse_nonEmpty? (kind : EventKind) (upper : Option Text) (text : Text) :
    endEvents kind (upper <|> nonEmpty? text) =
      if upper.getD text = "" then [] else [⟨kind, upper.getD text⟩] := by
  cases upper with
  | none => exact (endEvents_nonEmpty? kind text).trans (endEvents_some_eq_ite kind text)
  | some version => exact endEvents_some_eq_ite kind version

theorem statedBounds_of_parse_eq_error (hc : isConstraint s.lowerText = true)
    (h : parse s.lowerText = .error e) :
    s.statedBounds = { e.known with upper := e.known.upper <|> nonEmpty? s.upperText } := by
  unfold statedBounds
  rw [if_pos hc, h]

theorem events_of_parse_eq_error (hc : isConstraint s.lowerText = true)
    (h : parse s.lowerText = .error e) {default : Status} (hrep : s.isRepresentable default = true) :
    s.events default = s.knownEvents e.known (s.openingKind default) := by
  unfold events knownEvents
  rw [isEmpty_of_isConstraint hc, hrep, lower_bounds_eq_filter, upper_bounds,
    statedBounds_of_parse_eq_error hc h]
  dsimp only
  rw [endEvents_filter_ne_genesis, endEvents_orElse_nonEmpty?]
  rfl

theorem statedBounds_with_fixed (hc : isConstraint s.lowerText = true)
    (hupper : ∀ e, parse s.lowerText = .error e → e.known.upper.isSome) (fixed : Text) :
    statedBounds { s with fixed := fixed } = s.statedBounds := by
  have htext : lowerText { s with fixed := fixed } = s.lowerText := rfl
  unfold statedBounds
  rw [htext, if_pos hc, if_pos hc]
  cases h : parse s.lowerText with
  | ok bounds => rfl
  | error e =>
    obtain ⟨version, hversion⟩ := Option.isSome_iff_exists.mp (hupper e h)
    simp [hversion]

end Span

/-- A span that begins with a faulty constraint is read as far as that goes, and counts as complete.
Its other field is not read when the constraint tells an upper bound or has no fault. -/
theorem Reading.ofSpans_of_isConstraint {s : Span} (hc : isConstraint s.lowerText = true)
    (default : Option Status) :
    (∀ e, parse s.lowerText = .error e → s.isRepresentable (default.getD .unaffected) = true →
      ofSpans [s] default =
        ⟨s.knownEvents e.known (s.openingKind (default.getD .unaffected)), true⟩) ∧
    ∀ fixed, (∀ e, parse s.lowerText = .error e → e.known.upper.isSome) →
      ofSpans [{ s with fixed := fixed }] default = ofSpans [s] default := by
  constructor
  · intro e h hrep
    rw [Span.reading_eq, Span.events_of_parse_eq_error hc h hrep, hrep]
  · intro fixed hupper
    have hstated := Span.statedBounds_with_fixed hc hupper fixed
    have hstatus : Span.status { s with fixed := fixed } = s.status := rfl
    have hempty : Span.isEmpty { s with fixed := fixed } = false := Span.isEmpty_of_isConstraint hc
    apply Span.reading_congr hstatus hempty (Span.isEmpty_of_isConstraint hc)
    · intro kind
      rw [Span.lower_bounds_eq_filter, Span.lower_bounds_eq_filter, hstated]
    · intro kind
      rw [Span.upper_bounds, Span.upper_bounds, hstated]

/-- The constraint breaks off before its upper bound. -/
def Span.unfinished : Span where
  introduced := "v>=v1.0 , junk\n"
  fixed := " v2.0 "

/-- The constraint has two upper bounds, and the field for the end is a third one. -/
def Span.overfull : Span where
  introduced := ">= 0, < v1.0 <2.0"
  fixed := "3.0"

theorem Reading.ofSpans_of_isConstraint_unfinished :
    isConstraint Span.unfinished.lowerText = true ∧ isConstraint Span.overfull.lowerText = true ∧
      ofSpans [Span.unfinished] none = ⟨[⟨.introduced, "1.0"⟩, ⟨.fixed, "2.0"⟩], true⟩ ∧
      ofSpans [Span.overfull] none = ⟨[⟨.fixed, "1.0"⟩], true⟩ ∧
      ofSpans [{ Span.overfull with fixed := "9" }] none = ofSpans [Span.overfull] none := by
  have hunfinished : isConstraint Span.unfinished.lowerText = true := by decide +kernel
  have hoverfull : isConstraint Span.overfull.lowerText = true := by decide +kernel
  have herror : parse Span.unfinished.lowerText =
      .error ⟨">=v1.0 , junk", .unrecognized "junk", ⟨some "1.0", none⟩⟩ := by decide +kernel
  have herror' : parse Span.overfull.lowerText =
      .error ⟨">= 0, < v1.0 <2.0", .secondUpper, ⟨some "0", some "1.0"⟩⟩ := by decide +kernel
  have hread := (ofSpans_of_isConstraint hunfinished none).1 _ herror (by decide +kernel)
  obtain ⟨hread', hfixed⟩ := ofSpans_of_isConstraint hoverfull none
  refine ⟨hunfinished, hoverfull, hread.trans (by decide +kernel),
    (hread' _ herror' (by decide +kernel)).trans (by decide +kernel), hfixed "9" fun e he => ?_⟩
  rw [herror'] at he
  obtain rfl := Except.error.inj he
  rfl

end AffectedVersions
