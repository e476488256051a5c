import AffectedVersions.Proofs.Constraint.Bounds
import AffectedVersions.Span.Timeline
import Mathlib

/-! The events that are read from one span: at most one for each end. -/
namespace AffectedVersions.Span

open Version

theorem nonEmpty?_of_ne {s : Text} (h : s ≠ "") : nonEmpty? s = some s := if_neg h

theorem nonEmpty?_eq_some_iff {s t : Text} : nonEmpty? s = some t ↔ s = t ∧ t ≠ "" := by
  unfold nonEmpty?
  split_ifs with h
  · simp only [false_iff, not_and, not_not]
    intro heq
    subst heq
    exact h
  · rw [Option.some.injEq]
    constructor
    · intro heq
      subst heq
      exact ⟨rfl, h⟩
    · exact And.left

@[simp] theorem endEvents_none (kind : EventKind) : endEvents kind none = [] := rfl

theorem endEvents_some {version : Text} (h : version ≠ "") (kind : EventKind) :
    endEvents kind (some version) = [⟨kind, version⟩] := by
  simp [endEvents, Option.filter, h]

theorem length_endEvents_le (kind : EventKind) (version : Option Text) :
    (endEvents kind version).length ≤ 1 := by
  unfold endEvents
  rw [List.length_map]
  cases version.filter (· ≠ ("" : Text)) <;> simp

theorem endEvents_eq_singleton_iff {kind : EventKind} {version : Option Text} {e : Event} :
    endEvents kind version = [e] ↔ e.kind = kind ∧ version = some e.version ∧ e.version ≠ "" := by
  cases version with
  | none => simp
  | some v =>
    by_cases hv : v = ""
    · subst hv
      constructor
      · exact fun h => absurd h (List.cons_ne_nil _ _).symm
      · intro hh
        obtain ⟨-, h, hne⟩ := hh
        exact absurd (Option.some.inj h).symm hne
    · rw [endEvents_some hv, List.singleton_inj]
      constructor
      · intro heq
        subst heq
        exact ⟨rfl, rfl, hv⟩
      · intro hh
        obtain ⟨hk, h, -⟩ := hh
        rw [← hk, Option.some.inj h]

theorem lower_statedBounds (s : Span) :
    s.statedBounds.lower = if Constraint.isConstraint s.lowerText then
      (Constraint.knownBounds s.lowerText).lower else nonEmpty? s.lowerText := by
  unfold statedBounds Constraint.knownBounds
  by_cases h : Constraint.isConstraint s.lowerText = true
  · rw [if_pos h, if_pos h]
    cases Constraint.parse s.lowerText with
    | ok bounds => rfl
    | error e => rfl
  · rw [if_neg h, if_neg h]

theorem statedBounds_of_not_isConstraint {s : Span}
    (h : Constraint.isConstraint s.lowerText = false) :
    s.statedBounds = ⟨nonEmpty? s.lowerText, nonEmpty? s.upperText⟩ := by
  unfold statedBounds
  rw [if_neg (ne_true_of_eq_false h)]

@[simp] theorem upper_bounds (s : Span) : s.bounds.upper = s.statedBounds.upper := by
  unfold bounds
  by_cases h : s.statedBounds.lower = some genesis
  · rw [if_pos h]
  · rw [if_neg h]

theorem lower_bounds_eq_some_iff {s : Span} {version : Text} :
    s.bounds.lower = some version ↔ s.statedBounds.lower = some version ∧ version ≠ genesis := by
  unfold bounds
  split_ifs with h
  · rw [h]
    simp only [false_iff, not_and, not_not]
    exact fun hv => (Option.some.inj hv).symm
  · constructor
    · intro hv
      refine ⟨hv, ?_⟩
      intro heq
      subst heq
      exact h hv
    · exact And.left

theorem lowerText_eq_of_isPlain {s : Span} (h : IsPlain s.introduced) :
    s.lowerText = s.introduced := ((isPlain_iff _).mp h).2

theorem isConstraint_lowerText_iff {s : Span} (h : IsPlain s.introduced) :
    Constraint.isConstraint s.lowerText = false ↔
      ∀ c ∈ s.introduced.toList.head?, Constraint.isOperatorChar c = false := by
  rw [lowerText_eq_of_isPlain h]
  exact Constraint.isConstraint_eq_false_iff h.trimmed

/-- A beginning is read as it stands exactly when it is plain and can begin a span. -/
theorem lower_bounds_eq_introduced_iff (s : Span) :
    s.bounds.lower = some s.introduced ∧ s.introduced ≠ "" ↔
      IsPlain s.introduced ∧ CanBegin s.introduced := by
  rw [lower_bounds_eq_some_iff, lower_statedBounds]
  constructor
  · intro h
    obtain ⟨⟨hlower, hgen⟩, hne⟩ := h
    by_cases hc : Constraint.isConstraint s.lowerText = true
    · rw [if_pos hc] at hlower
      have hsub : s.lowerText.toList ⊆ s.introduced.toList :=
        fun c hc => Text.mem_of_mem_trim (mem_of_mem_dropV hc)
      exact absurd hlower (Constraint.lower_knownBounds_ne hc hsub)
    · rw [if_neg hc] at hlower
      have hplain : IsPlain s.introduced :=
        (isPlain_iff _).mpr ⟨hne, (nonEmpty?_eq_some_iff.mp hlower).1⟩
      rw [Bool.not_eq_true] at hc
      exact ⟨hplain, hgen, (isConstraint_lowerText_iff hplain).mp hc⟩
  · intro h
    obtain ⟨hplain, hbegin⟩ := h
    have hc := (isConstraint_lowerText_iff hplain).mpr hbegin.no_operator
    rw [if_neg (ne_true_of_eq_false hc), lowerText_eq_of_isPlain hplain,
      nonEmpty?_of_ne hplain.ne_empty]
    exact ⟨⟨rfl, hbegin.ne_genesis⟩, hplain.ne_empty⟩

theorem upper_bounds_eq_fixed_iff {s : Span}
    (h : Constraint.isConstraint s.lowerText = false) :
    s.bounds.upper = some s.fixed ∧ s.fixed ≠ "" ↔ IsPlain s.fixed := by
  rw [upper_bounds, statedBounds_of_not_isConstraint h, isPlain_iff, nonEmpty?_eq_some_iff]
  constructor
  · intro hh
    obtain ⟨⟨htext, hne⟩, -⟩ := hh
    exact ⟨hne, htext⟩
  · intro hh
    obtain ⟨hne, htext⟩ := hh
    exact ⟨⟨htext, hne⟩, hne⟩

theorem lower_bounds_of_unbounded {s : Span} (h : s.introduced = "" ∨ s.introduced = genesis) :
    Constraint.isConstraint s.lowerText = false ∧ s.bounds.lower = none := by
  have htext : s.lowerText = s.introduced := by
    unfold lowerText
    rcases h with h | h <;> rw [h] <;> decide
  have hc : Constraint.isConstraint s.lowerText = false := by
    rw [htext]
    rcases h with h | h <;> rw [h] <;> decide
  refine ⟨hc, Option.eq_none_iff_forall_ne_some.mpr fun version hv => ?_⟩
  rw [lower_bounds_eq_some_iff, statedBounds_of_not_isConstraint hc, htext,
    nonEmpty?_eq_some_iff] at hv
  obtain ⟨⟨hi, hne⟩, hgen⟩ := hv
  rw [hi] at h
  exact h.elim hne hgen

theorem bounds_of_isEmpty {s : Span} (h : s.isEmpty = true) : s.bounds = {} := by
  obtain ⟨hi, hf⟩ : s.introduced = "" ∧ s.fixed = "" := by simpa [isEmpty] using h
  have hlower : s.lowerText = "" := by rw [lowerText, hi]; rfl
  have hupper : s.upperText = "" := by rw [upperText, hf]; rfl
  have hstated : s.statedBounds = {} := by
    rw [statedBounds_of_not_isConstraint (by rw [hlower]; rfl), hlower, hupper]
    rfl
  rw [bounds, hstated]
  rfl

theorem bounds_congr_texts {s p : Span} (hlower : s.lowerText = p.lowerText)
    (hupper : s.upperText = p.upperText) : s.bounds = p.bounds := by
  unfold bounds statedBounds
  rw [hlower, hupper]

theorem bounds_congr {s p : Span} (hintroduced : s.introduced = p.introduced)
    (hfixed : s.fixed = p.fixed) : s.bounds = p.bounds := by
  apply bounds_congr_texts
  · unfold lowerText
    rw [hintroduced]
  · unfold upperText
    rw [hfixed]

theorem isRepresentable_of_ne {s : Span} {default : Status}
    (hknown : s.statusAgainst default ≠ .unknown) (hother : s.statusAgainst default ≠ default) :
    s.isRepresentable default = true := by
  simp [isRepresentable, hknown, hother]

theorem isRepresentable_of_opposite {s : Span} {default : Status} (hknown : default ≠ .unknown)
    (h : s.statusAgainst default = default.opposite) : s.isRepresentable default = true := by
  apply isRepresentable_of_ne
  · rw [h]
    exact Status.opposite_ne_unknown hknown
  · rw [h]
    exact Status.opposite_ne_self hknown

theorem events_of_not_isRepresentable {s : Span} {default : Status}
    (h : s.isRepresentable default = false) : s.events default = [] := by
  unfold events
  rw [h, Bool.not_false, Bool.or_true, if_pos rfl]

theorem events_eq {s : Span} {default : Status} (hknown : s.statusAgainst default ≠ .unknown)
    (hother : s.statusAgainst default ≠ default) :
    s.events default = endEvents (s.openingKind default) s.bounds.lower ++
      endEvents (s.openingKind default).opposite s.bounds.upper := by
  have hrep := isRepresentable_of_ne hknown hother
  unfold events
  cases he : s.isEmpty with
  | true => rw [bounds_of_isEmpty he]; rfl
  | false => simp [hrep]

theorem reading_eq (s : Span) (default : Option Status) :
    Reading.ofSpans [s] default =
      ⟨s.events (default.getD .unaffected), s.isRepresentable (default.getD .unaffected)⟩ := by
  simp [Reading.ofSpans]

end AffectedVersions.Span
