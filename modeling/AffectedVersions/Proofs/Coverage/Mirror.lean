import AffectedVersions.Proofs.Timeline.RoundTrip
import Mathlib

/-! Affected and unaffected exchanged: the two layouts are mirror images of each other. -/
namespace AffectedVersions

open Version

theorem EventKind.opposite_inj {k m : EventKind} : k.opposite = m.opposite ↔ k = m := by
  cases k <;> cases m <;> decide

/-- An introduction in the place of a fix and the other way round. -/
def Event.mirrored (e : Event) : Event := { e with kind := e.kind.opposite }

def Timeline.mirrored (t : Timeline) : Timeline := t.map Event.mirrored

/-- The same span with its status exchanged. An unknown or missing one stays. -/
def Span.mirrored (s : Span) : Span := { s with status := s.status.map Status.opposite }

def Coverage.mirrored (c : Coverage) : Coverage where
  spans := c.spans.map Span.mirrored
  default := c.default.opposite

def Reading.mirrored (r : Reading) : Reading := { r with events := r.events.mirrored }

namespace Layout

def mirrored : Layout → Layout
  | closed => openEnded
  | openEnded => closed

theorem ofLastKind_opposite (k : EventKind) :
    ofLastKind (some k.opposite) = (ofLastKind (some k)).mirrored := by
  cases k <;> rfl

theorem defaultStatus_mirrored (l : Layout) : l.mirrored.defaultStatus = l.defaultStatus.opposite := by
  cases l <;> rfl

theorem openingKind_mirrored (l : Layout) : l.mirrored.openingKind = l.openingKind.opposite := by
  cases l <;> rfl

theorem span_mirrored (l : Layout) (introduced fixed : Text) :
    l.mirrored.span introduced fixed = (l.span introduced fixed).mirrored := by
  cases l <;> rfl

theorem spans_mirrored (l : Layout) (t : Timeline) :
    l.mirrored.spans t.mirrored = (l.spans t).map Span.mirrored := by
  induction t using List.twoStepInduction with
  | nil => rfl
  | singleton a => rfl
  | cons_cons a b t ih =>
    have hcons : Timeline.mirrored (a :: b :: t) = a.mirrored :: b.mirrored :: Timeline.mirrored t := rfl
    rw [hcons, spans_cons_cons, spans_cons_cons, List.map_cons, ih, span_mirrored]
    rfl

end Layout

namespace Timeline

theorem normalized_mirrored (t : Timeline) : t.mirrored.normalized = t.normalized.mirrored := by
  unfold mirrored normalized
  rw [List.map_map, List.map_map]
  rfl

theorem layout_mirrored {t : Timeline} (ht : t ≠ []) : t.mirrored.layout = t.layout.mirrored := by
  obtain ⟨last, hlast⟩ : ∃ last, t.getLast? = some last :=
    ⟨_, List.getLast?_eq_some_getLast ht⟩
  have hmirrored : t.mirrored.getLast? = some last.mirrored := by
    rw [mirrored, List.getLast?_map, hlast, Option.map_some]
  unfold layout
  rw [hlast, hmirrored]
  exact Layout.ofLastKind_opposite last.kind

theorem spans_mirrored {t : Timeline} (ht : t ≠ []) : t.mirrored.spans = t.spans.map Span.mirrored := by
  obtain ⟨first, rest, hn⟩ : ∃ first rest, t.normalized = first :: rest :=
    List.exists_cons_of_ne_nil (mt List.map_eq_nil_iff.mp ht)
  have hmirrored : t.mirrored.normalized = first.mirrored :: mirrored rest := by
    rw [normalized_mirrored, hn]
    rfl
  have hopens : first.mirrored.kind = t.layout.mirrored.openingKind ↔
      first.kind = t.layout.openingKind := by
    rw [Layout.openingKind_mirrored]
    exact EventKind.opposite_inj
  rw [spans_of_normalized hn, spans_of_normalized hmirrored, layout_mirrored ht]
  by_cases hfirst : first.kind = t.layout.openingKind
  · rw [if_pos hfirst, if_pos (hopens.mpr hfirst)]
    exact t.layout.spans_mirrored (first :: rest)
  · rw [if_neg hfirst, if_neg (mt hopens.mp hfirst), List.map_cons, ← Layout.span_mirrored,
      ← Layout.spans_mirrored]
    rfl

theorem toCoverage_mirrored {t : Timeline} (ht : t ≠ []) :
    t.mirrored.toCoverage = t.toCoverage.mirrored := by
  have hne : t.mirrored ≠ [] := mt List.map_eq_nil_iff.mp ht
  unfold toCoverage
  rw [if_neg hne, if_neg ht, spans_mirrored ht, layout_mirrored ht, Layout.defaultStatus_mirrored]
  rfl

end Timeline

namespace Span

variable (s : Span) (default : Status)

theorem statusAgainst_mirrored :
    s.mirrored.statusAgainst default.opposite = (s.statusAgainst default).opposite := by
  unfold statusAgainst mirrored
  cases s.status <;> rfl

theorem isRepresentable_mirrored :
    s.mirrored.isRepresentable default.opposite = s.isRepresentable default := by
  have hempty : s.mirrored.isEmpty = s.isEmpty := rfl
  unfold isRepresentable
  rw [hempty, statusAgainst_mirrored]
  cases s.statusAgainst default <;> cases default <;> rfl

/-- A span of unknown status opens with neither kind, since it has no events. -/
theorem openingKind_mirrored {s : Span} {default : Status} (h : s.statusAgainst default ≠ .unknown) :
    s.mirrored.openingKind default.opposite = (s.openingKind default).opposite := by
  unfold openingKind
  rw [statusAgainst_mirrored]
  cases hstatus : s.statusAgainst default with
  | affected => rfl
  | unaffected => rfl
  | unknown => exact absurd hstatus h

theorem bounds_mirrored : s.mirrored.bounds = s.bounds := bounds_congr rfl rfl

theorem endEvents_opposite (kind : EventKind) (version : Option Text) :
    endEvents kind.opposite version = (endEvents kind version).mirrored := by
  unfold endEvents Timeline.mirrored
  rw [List.map_map]
  rfl

theorem events_mirrored : s.mirrored.events default.opposite = (s.events default).mirrored := by
  have hempty : s.mirrored.isEmpty = s.isEmpty := rfl
  unfold events
  rw [hempty, isRepresentable_mirrored]
  split_ifs with hnone
  · rfl
  · have hknown : s.statusAgainst default ≠ .unknown := by
      intro hunknown
      apply hnone
      unfold isRepresentable
      rw [hunknown]
      cases s.isEmpty <;> rfl
    dsimp only
    rw [openingKind_mirrored hknown, bounds_mirrored, endEvents_opposite, endEvents_opposite]
    exact (List.map_append ..).symm

end Span

theorem Coverage.read_mirrored (c : Coverage) : c.mirrored.read = c.read.mirrored := by
  unfold read Reading.ofSpans Reading.mirrored Timeline.mirrored
  rw [Option.getD_some, Option.getD_some, List.map_flatMap]
  have hevents : c.mirrored.spans.flatMap (·.events c.mirrored.default) =
      c.spans.flatMap fun s => (s.events c.default).mirrored := by
    rw [mirrored, List.flatMap_map]
    exact List.flatMap_congr fun s _ => s.events_mirrored c.default
  have hcomplete : c.mirrored.spans.all (·.isRepresentable c.mirrored.default) =
      c.spans.all (·.isRepresentable c.default) := by
    rw [mirrored, List.all_map]
    exact congrArg c.spans.all (funext fun s => s.isRepresentable_mirrored c.default)
  exact congrArg₂ Reading.mk hevents hcomplete

/-- With introductions and fixes exchanged a timeline has the same spans with affected and unaffected
exchanged, and the same holds of the events that are read from spans. -/
theorem mirrored_toCoverage_and_read :
    (∀ t : Timeline, t ≠ [] → t.mirrored.toCoverage = t.toCoverage.mirrored) ∧
      ∀ c : Coverage, c.mirrored.read = c.read.mirrored :=
  ⟨fun _ => Timeline.toCoverage_mirrored, Coverage.read_mirrored⟩

/-- Two introductions in a row, and a fix before them that opens no span. -/
def Timeline.uneven : Timeline := [⟨.introduced, "v1"⟩, ⟨.introduced, "< 2"⟩, ⟨.fixed, "3"⟩, ⟨.introduced, "4"⟩]

/-- Spans with a status of each sort against affected versions. -/
def Coverage.ofEachSort : Coverage where
  spans := [⟨">= 1, < 2", "", some .unaffected, "semver"⟩, ⟨"3", "4", none, "semver"⟩,
    ⟨"5", "6", some .affected, "semver"⟩, ⟨"7", "8", some .unknown, "semver"⟩]
  default := .affected

theorem mirrored_toCoverage_and_read_uneven :
    Timeline.uneven ≠ [] ∧
      Timeline.uneven.mirrored.toCoverage = Timeline.uneven.toCoverage.mirrored ∧
      Timeline.uneven.toCoverage = ⟨[⟨"0", "1", some .unaffected, "semver"⟩,
        ⟨"< 2", "3", some .unaffected, "semver"⟩], .affected⟩ ∧
      Coverage.ofEachSort.mirrored.read = Coverage.ofEachSort.read.mirrored ∧
      Coverage.ofEachSort.read = ⟨[⟨.fixed, "1"⟩, ⟨.introduced, "2"⟩, ⟨.fixed, "3"⟩,
        ⟨.introduced, "4"⟩], false⟩ := by
  have hne : Timeline.uneven ≠ [] := List.cons_ne_nil _ _
  obtain ⟨htoCoverage, hread⟩ := mirrored_toCoverage_and_read
  exact ⟨hne, htoCoverage _ hne, by decide +kernel, hread _, by decide +kernel⟩

end AffectedVersions
