import AffectedVersions.Proofs.Span.Events
import AffectedVersions.Proofs.Timeline.Status
import Mathlib

/-! Spans in ascending order, and the status that their events give. -/
namespace AffectedVersions

open Version

namespace Span

/-- The ends are versions in order or missing, and a status is the opposite of the default. -/
structure IsPlainAgainst (default : Status) (s : Span) : Prop where
  status : s.status = none ∨ s.status = some default.opposite
  introduced : (semVer? s.introduced).isSome ∨ s.introduced = "" ∨ s.introduced = genesis
  fixed : (semVer? s.fixed).isSome ∨ s.fixed = ""
  ascends : ∀ a b, semVer? s.introduced = some a → semVer? s.fixed = some b → a.notAfter b

/-- Both are versions, and the second one does not come before the first one. -/
def EndsBefore (s next : Span) : Prop := NotAfter s.fixed next.introduced

/-- At least one end is a version. -/
def IsBounded (s : Span) : Prop := (semVer? s.introduced).isSome ∨ (semVer? s.fixed).isSome

/-- The event at a text that is a version. -/
def versionEvents (kind : EventKind) (version : Text) : Timeline :=
  if (semVer? version).isSome then [⟨kind, dropV version⟩] else []

theorem versionEvents_of_isSome {version : Text} (h : (semVer? version).isSome) (kind : EventKind) :
    versionEvents kind version = [⟨kind, dropV version⟩] := if_pos h

theorem versionEvents_of_not_isSome {version : Text} (h : ¬(semVer? version).isSome)
    (kind : EventKind) : versionEvents kind version = [] := if_neg h

theorem eq_of_mem_versionEvents {version : Text} {kind : EventKind} {e : Event}
    (he : e ∈ versionEvents kind version) :
    (semVer? version).isSome ∧ e = ⟨kind, dropV version⟩ := by
  by_cases hv : (semVer? version).isSome
  · rw [versionEvents_of_isSome hv, List.mem_singleton] at he
    exact ⟨hv, he⟩
  · rw [versionEvents_of_not_isSome hv] at he
    exact absurd he List.not_mem_nil

theorem not_isSome_semVer?_of_unbounded {version : Text} (h : version = "" ∨ version = genesis) :
    ¬(semVer? version).isSome := by
  rcases h with rfl | rfl <;> decide

theorem ne_of_isSome_semVer? {version : Text} (h : (semVer? version).isSome) :
    version ≠ "" ∧ version ≠ genesis :=
  not_or.mp fun hu => not_isSome_semVer?_of_unbounded hu h

variable {default : Status} {s : Span}

theorem IsPlainAgainst.statusAgainst (h : s.IsPlainAgainst default) :
    s.statusAgainst default = default.opposite := by
  unfold Span.statusAgainst
  rcases h.status with hs | hs <;> rw [hs] <;> rfl

/-- A beginning that is a version is no constraint, and it is read less its "v". -/
theorem lower_bounds_of_semVer? {v : SemVer} (h : semVer? s.introduced = some v) :
    Constraint.isConstraint s.lowerText = false ∧ s.bounds.lower = some (dropV s.introduced) := by
  have htext : s.lowerText = dropV s.introduced := by
    unfold lowerText
    rw [trim_of_semVer? h]
  have hplain := isPlain_of_ofText? h
  have hbegin := canBegin_of_ofText? h
  have hc : Constraint.isConstraint s.lowerText = false := by
    rw [htext]
    exact (Constraint.isConstraint_eq_false_iff hplain.trimmed).mpr hbegin.no_operator
  refine ⟨hc, lower_bounds_eq_some_iff.mpr ⟨?_, hbegin.ne_genesis⟩⟩
  rw [statedBounds_of_not_isConstraint hc, htext]
  exact nonEmpty?_of_ne hplain.ne_empty

theorem endEvents_lower (kind : EventKind)
    (h : (semVer? s.introduced).isSome ∨ s.introduced = "" ∨ s.introduced = genesis) :
    Constraint.isConstraint s.lowerText = false ∧
      endEvents kind s.bounds.lower = versionEvents kind s.introduced := by
  rcases h with hversion | hunbounded
  · obtain ⟨v, hv⟩ := Option.isSome_iff_exists.mp hversion
    obtain ⟨hc, hlower⟩ := lower_bounds_of_semVer? hv
    rw [hlower, endEvents_some (isPlain_of_ofText? hv).ne_empty, versionEvents_of_isSome hversion]
    exact ⟨hc, rfl⟩
  · obtain ⟨hc, hlower⟩ := lower_bounds_of_unbounded hunbounded
    rw [hlower, versionEvents_of_not_isSome (not_isSome_semVer?_of_unbounded hunbounded)]
    exact ⟨hc, rfl⟩

theorem endEvents_upper (kind : EventKind) (hc : Constraint.isConstraint s.lowerText = false)
    (h : (semVer? s.fixed).isSome ∨ s.fixed = "") :
    endEvents kind s.bounds.upper = versionEvents kind s.fixed := by
  rw [upper_bounds, statedBounds_of_not_isConstraint hc]
  unfold upperText
  rcases h with hversion | hempty
  · obtain ⟨v, hv⟩ := Option.isSome_iff_exists.mp hversion
    have hne := (isPlain_of_ofText? hv).ne_empty
    rw [trim_of_semVer? hv, nonEmpty?_of_ne hne, endEvents_some hne, versionEvents_of_isSome hversion]
  · rw [versionEvents_of_not_isSome (not_isSome_semVer?_of_unbounded (Or.inl hempty)), hempty]
    rfl

theorem events_of_isPlainAgainst (hknown : default ≠ .unknown) (h : s.IsPlainAgainst default) :
    s.events default = versionEvents (s.openingKind default) s.introduced ++
      versionEvents (s.openingKind default).opposite s.fixed := by
  have hstatus : s.statusAgainst default ≠ .unknown := by
    rw [h.statusAgainst]
    exact Status.opposite_ne_unknown hknown
  have hother : s.statusAgainst default ≠ default := by
    rw [h.statusAgainst]
    exact Status.opposite_ne_self hknown
  obtain ⟨hc, hlower⟩ := endEvents_lower (s.openingKind default) h.introduced
  rw [events_eq hstatus hother, hlower, endEvents_upper _ hc h.fixed]

theorem statusFrom_versionEvents (x : SemVer) (before : Status) (kind : EventKind)
    (version : Text) :
    Timeline.statusFrom x before (versionEvents kind version) =
      if isReachedBy version x then kind.status else before := by
  by_cases h : (semVer? version).isSome
  · rw [versionEvents_of_isSome h, Timeline.statusFrom_cons, Timeline.statusFrom_nil,
      isReachedBy_dropV h]
  · rw [versionEvents_of_not_isSome h, Timeline.statusFrom_nil,
      isReachedBy_eq_false_of_none (Option.not_isSome_iff_eq_none.mp h),
      if_neg Bool.false_ne_true]

theorem status_openingKind (hknown : default ≠ .unknown) (h : s.IsPlainAgainst default) :
    (s.openingKind default).status = default.opposite ∧
      (s.openingKind default).opposite.status = default := by
  unfold openingKind
  rw [h.statusAgainst]
  cases default with
  | affected => decide
  | unaffected => decide
  | unknown => exact absurd rfl hknown

/-- The status before the span: the default, unless the span begins before every version. -/
def statusBefore (default : Status) (s : Span) : Status :=
  if (semVer? s.introduced).isSome then default else default.opposite

theorem isReachedBy_empty (x : SemVer) : isReachedBy "" x = false :=
  isReachedBy_eq_false_of_none (by decide) x

theorem isEmpty_eq_false (h : s.IsBounded) : s.isEmpty = false := by
  rw [Bool.eq_false_iff]
  intro he
  obtain ⟨hi, hf⟩ : s.introduced = "" ∧ s.fixed = "" := by simpa [isEmpty] using he
  rcases h with h | h
  · exact (ne_of_isSome_semVer? h).1 hi
  · exact (ne_of_isSome_semVer? h).1 hf

theorem contains_eq (h : s.IsPlainAgainst default) (hbounded : s.IsBounded) (x : SemVer) :
    s.contains x = ((!(semVer? s.introduced).isSome || isReachedBy s.introduced x) &&
      !isReachedBy s.fixed x) := by
  have hlower : (s.introduced == "" || s.introduced == genesis) = !(semVer? s.introduced).isSome := by
    rcases h.introduced with hi | hi
    · have hne := ne_of_isSome_semVer? hi
      simp [hi, hne]
    · have hi' := not_isSome_semVer?_of_unbounded hi
      rw [Bool.not_eq_true] at hi'
      rw [hi']
      simpa using hi
  have hupper : (s.fixed == "" || isAheadOf s.fixed x) = !isReachedBy s.fixed x := by
    rcases h.fixed with hf | hf
    · obtain ⟨v, hv⟩ := Option.isSome_iff_exists.mp hf
      have hne := (ne_of_isSome_semVer? hf).1
      rw [isAheadOf_eq hv, beq_false_of_ne hne, Bool.false_or]
    · rw [hf, isReachedBy_empty]
      rfl
  unfold contains
  rw [isEmpty_eq_false hbounded, hlower, hupper]
  rfl

/-- A span's events give the versions that it holds the opposite of the default. -/
theorem statusFrom_events (hknown : default ≠ .unknown) (h : s.IsPlainAgainst default)
    (hbounded : s.IsBounded) (x : SemVer) :
    Timeline.statusFrom x (s.statusBefore default) (s.events default) =
      if s.contains x then default.opposite else default := by
  obtain ⟨hopening, hclosing⟩ := status_openingKind hknown h
  rw [events_of_isPlainAgainst hknown h, Timeline.statusFrom_append, statusFrom_versionEvents,
    statusFrom_versionEvents, hopening, hclosing, contains_eq h hbounded]
  unfold statusBefore
  cases isReachedBy s.fixed x with
  | true => simp
  | false =>
    cases (semVer? s.introduced).isSome with
    | true => simp
    | false => simp

end Span

end AffectedVersions
