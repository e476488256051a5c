import AffectedVersions.Meaning
import AffectedVersions.Proofs.Span.Events
import Mathlib

/-! Spans that no events can tell make a reading incomplete and leave the other events alone. -/
namespace AffectedVersions

open Version

namespace Span

/-- The span is not empty, but its ends change nothing: its status, which is the opposite of `default`
if it has none, is unknown or the one of the versions around it. -/
structure IsUntellable (s : Span) (default : Status) : Prop where
  bounded : s.introduced ≠ "" ∨ s.fixed ≠ ""
  status : s.status.getD default.opposite = .unknown ∨ s.status.getD default.opposite = default

instance (s : Span) (default : Status) : Decidable (s.IsUntellable default) :=
  decidable_of_iff
    ((s.introduced ≠ "" ∨ s.fixed ≠ "") ∧
      (s.status.getD default.opposite = .unknown ∨ s.status.getD default.opposite = default))
    ⟨fun h => ⟨h.1, h.2⟩, fun h => ⟨h.bounded, h.status⟩⟩

/-- The events of the span: one of the kind that begins its status at a lower bound that is a text
and no beginning of all versions, then one of the other kind at an upper bound that is a text. -/
structure IsTold (s : Span) (default : Status) (opening closing : Option Event) : Prop where
  opens : ∀ e ∈ opening, e.kind.status = s.statusAgainst default
  closes : ∀ e ∈ closing, e.kind.opposite.status = s.statusAgainst default
  begins : ∀ version, opening.map Event.version = some version ↔
    s.statedBounds.lower = some version ∧ version ≠ "" ∧ version ≠ genesis
  ends : ∀ version, closing.map Event.version = some version ↔
    s.statedBounds.upper = some version ∧ version ≠ ""

variable {s : Span} {default : Status}

theorem isRepresentable_eq_false_iff : s.isRepresentable default = false ↔ s.IsUntellable default := by
  have hempty : s.isEmpty = false ↔ s.introduced ≠ "" ∨ s.fixed ≠ "" := by
    unfold isEmpty
    rw [Bool.and_eq_false_iff, beq_eq_false_iff_ne, beq_eq_false_iff_ne]
  have hstatus : (s.statusAgainst default != .unknown && s.statusAgainst default != default) = false ↔
      s.statusAgainst default = .unknown ∨ s.statusAgainst default = default := by
    rw [Bool.and_eq_false_iff, bne_eq_false_iff_eq, bne_eq_false_iff_eq]
  unfold isRepresentable
  rw [Bool.or_eq_false_iff, hempty, hstatus]
  exact ⟨fun h => ⟨h.1, h.2⟩, fun h => ⟨h.bounded, h.status⟩⟩

theorem events_of_isUntellable (h : s.IsUntellable default) : s.events default = [] :=
  events_of_not_isRepresentable (isRepresentable_eq_false_iff.mpr h)

theorem isEmpty_or_of_not_isUntellable (h : ¬s.IsUntellable default) :
    s.isEmpty = true ∨ s.statusAgainst default ≠ .unknown ∧ s.statusAgainst default ≠ default := by
  rw [← isRepresentable_eq_false_iff, Bool.not_eq_false] at h
  rcases (Bool.or_eq_true _ _).mp h with hempty | hstatus
  · exact Or.inl hempty
  · rw [Bool.and_eq_true, bne_iff_ne, bne_iff_ne] at hstatus
    exact Or.inr hstatus

/-- The event at an end of the span, if there is one. -/
def endEvent? (kind : EventKind) (version : Option Text) : Option Event :=
  (version.filter (· ≠ ("" : Text))).map (Event.mk kind)

theorem toList_endEvent? (kind : EventKind) (version : Option Text) :
    (endEvent? kind version).toList = endEvents kind version := by
  unfold endEvents endEvent?
  cases version.filter (· ≠ ("" : Text)) <;> rfl

theorem kind_of_mem_endEvent? {kind : EventKind} {version : Option Text} {e : Event}
    (h : e ∈ endEvent? kind version) : e.kind = kind := by
  obtain ⟨v, -, rfl⟩ := Option.map_eq_some_iff.mp h
  rfl

theorem version_endEvent?_eq_some_iff {kind : EventKind} {end? : Option Text} {version : Text} :
    (endEvent? kind end?).map Event.version = some version ↔ end? = some version ∧ version ≠ "" := by
  have hversion : Event.version ∘ Event.mk kind = id := rfl
  rw [endEvent?, Option.map_map, hversion, Option.map_id_apply, Option.filter_eq_some_iff,
    decide_eq_true_eq]

theorem status_openingKind_of_ne (h : s.statusAgainst default ≠ .unknown) :
    (s.openingKind default).status = s.statusAgainst default := by
  unfold openingKind
  cases hstatus : s.statusAgainst default with
  | affected => rfl
  | unaffected => rfl
  | unknown => exact absurd hstatus h

theorem exists_isTold (h : ¬s.IsUntellable default) :
    ∃ opening closing : Option Event, s.events default = opening.toList ++ closing.toList ∧
      s.IsTold default opening closing := by
  have hbegins : ∀ kind version, (endEvent? kind s.bounds.lower).map Event.version = some version ↔
      s.statedBounds.lower = some version ∧ version ≠ "" ∧ version ≠ genesis := by
    intro kind version
    rw [version_endEvent?_eq_some_iff, lower_bounds_eq_some_iff, and_right_comm, and_assoc]
  have hends : ∀ kind version, (endEvent? kind s.bounds.upper).map Event.version = some version ↔
      s.statedBounds.upper = some version ∧ version ≠ "" := by
    intro kind version
    rw [version_endEvent?_eq_some_iff, upper_bounds]
  rcases isEmpty_or_of_not_isUntellable h with hempty | ⟨hknown, hother⟩
  · have hnone := bounds_of_isEmpty hempty
    have hevents : s.events default = [] := by
      unfold events
      rw [hempty, Bool.true_or, if_pos rfl]
    rw [hnone] at hbegins hends
    exact ⟨none, none, hevents, nofun, nofun, hbegins .introduced, hends .fixed⟩
  · have hopening := status_openingKind_of_ne hknown
    refine ⟨endEvent? (s.openingKind default) s.bounds.lower,
      endEvent? (s.openingKind default).opposite s.bounds.upper, ?_, ?_⟩
    · rw [events_eq hknown hother, toList_endEvent?, toList_endEvent?]
    · refine ⟨fun e he => ?_, fun e he => ?_, hbegins _, hends _⟩
      · rw [kind_of_mem_endEvent? he, hopening]
      · rw [kind_of_mem_endEvent? he, EventKind.opposite_opposite, hopening]

end Span

namespace Reading

/-- The spans that can be told among versions of the status `around`. -/
def toldSpans (spans : List Span) (around : Status) : List Span :=
  spans.filter fun s => ¬s.IsUntellable around

variable (spans : List Span) (default : Option Status)

theorem ofSpans_cons (s : Span) :
    ofSpans (s :: spans) default =
      ⟨s.events (default.getD .unaffected) ++ (ofSpans spans default).events,
        s.isRepresentable (default.getD .unaffected) && (ofSpans spans default).complete⟩ := by
  unfold ofSpans
  dsimp only
  rw [List.flatMap_cons, List.all_cons]

theorem complete_ofSpans_eq_false_iff :
    (ofSpans spans default).complete = false ↔
      ∃ s ∈ spans, s.IsUntellable (default.getD .unaffected) := by
  induction spans with
  | nil => simp [ofSpans]
  | cons s rest ih =>
    rw [ofSpans_cons, Bool.and_eq_false_iff, Span.isRepresentable_eq_false_iff, ih,
      List.exists_mem_cons_iff]

theorem events_ofSpans_toldSpans :
    (ofSpans (toldSpans spans (default.getD .unaffected)) default).events =
      (ofSpans spans default).events := by
  unfold toldSpans
  induction spans with
  | nil => rfl
  | cons s rest ih =>
    by_cases h : s.IsUntellable (default.getD .unaffected)
    · rw [List.filter_cons_of_neg (by simpa using h), ofSpans_cons, ih,
        Span.events_of_isUntellable h, List.nil_append]
    · rw [List.filter_cons_of_pos (by simpa using h), ofSpans_cons, ofSpans_cons, ih]

theorem events_ofSpans_eq_flatMap :
    (ofSpans spans default).events = spans.flatMap fun s => (ofSpans [s] default).events :=
  List.flatMap_congr fun s _ => congrArg events (s.reading_eq default).symm

/-- A reading is incomplete exactly when a span cannot be told, and without such spans its events are
the same. Each other span gives at most one of each kind, in the order of the spans. -/
theorem ofSpans_toldSpans :
    ((ofSpans spans default).complete = false ↔
        ∃ s ∈ spans, s.IsUntellable (default.getD .unaffected)) ∧
      (ofSpans (toldSpans spans (default.getD .unaffected)) default).events =
        (ofSpans spans default).events ∧
      (ofSpans spans default).events =
        ((toldSpans spans (default.getD .unaffected)).flatMap fun s => (ofSpans [s] default).events) ∧
      ∀ s ∈ toldSpans spans (default.getD .unaffected), ∃ opening closing : Option Event,
        (ofSpans [s] default).events = opening.toList ++ closing.toList ∧
          s.IsTold (default.getD .unaffected) opening closing := by
  have hevents := events_ofSpans_toldSpans spans default
  refine ⟨complete_ofSpans_eq_false_iff spans default, hevents,
    hevents.symm.trans (events_ofSpans_eq_flatMap _ default), fun s hs => ?_⟩
  have htold := (List.mem_filter.mp hs).2
  rw [Span.reading_eq]
  exact Span.exists_isTold (of_decide_eq_true htold)

/-- A gap whose constraint breaks off before its upper bound. -/
def brokenGap : Span where
  introduced := ">= 4, junk"
  fixed := "5"

/-- Two spans that cannot be told among affected versions, an empty one between them, and two gaps. -/
def mixedSpans : List Span :=
  [⟨"1", "2", some .unknown, "semver"⟩, ⟨"v0", " v3", some .unaffected, "semver"⟩,
    ⟨"", "", some .affected, "semver"⟩, brokenGap, ⟨"6", "", some .affected, "semver"⟩]

theorem ofSpans_toldSpans_mixedSpans :
    (∃ s ∈ mixedSpans, s.IsUntellable .affected) ∧
      (ofSpans mixedSpans (some .affected)).complete = false ∧
      (ofSpans mixedSpans (some .affected)).events =
        [⟨.introduced, "3"⟩, ⟨.fixed, "4"⟩, ⟨.introduced, "5"⟩] ∧
      brokenGap ∈ toldSpans mixedSpans .affected ∧
      ∃ opening closing : Option Event,
        (ofSpans [brokenGap] (some .affected)).events = opening.toList ++ closing.toList ∧
          brokenGap.IsTold .affected opening closing := by
  have hexists : ∃ s ∈ mixedSpans, s.IsUntellable .affected := by decide
  have hmem : brokenGap ∈ toldSpans mixedSpans .affected := by decide
  obtain ⟨hcomplete, hevents, -, htold⟩ := ofSpans_toldSpans mixedSpans (some .affected)
  exact ⟨hexists, hcomplete.mpr hexists, hevents.symm.trans (by decide +kernel), hmem,
    htold brokenGap hmem⟩

end Reading

end AffectedVersions
