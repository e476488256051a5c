import AffectedVersions.Proofs.Layout.Pairing
import AffectedVersions.Timeline.RoundTrip
import Mathlib

/-! The timelines that come back from their coverage as they went in, up to a leading "v". -/
namespace AffectedVersions

open Version

namespace Timeline

theorem getLast?_normalized (t : Timeline) :
    t.normalized.getLast? = t.getLast?.map Event.normalized := List.getLast?_map

theorem alternates_normalized (t : Timeline) : t.normalized.Alternates ↔ t.Alternates := by
  unfold Alternates normalized
  rw [List.isChain_map]
  rfl

/-- The layout is chosen so that the last event closes a span of it. -/
theorem kind_of_getLast? {t : Timeline} {e : Event} (h : t.getLast? = some e) :
    e.kind = t.layout.openingKind.opposite := by
  unfold layout
  rw [h]
  obtain ⟨kind, version⟩ := e
  cases kind <;> rfl

theorem closes_normalized (t : Timeline) :
    ∀ last ∈ t.normalized.getLast?, last.kind = t.layout.openingKind.opposite := by
  intro last hlast
  rw [getLast?_normalized] at hlast
  obtain ⟨e, he, rfl⟩ := Option.map_eq_some_iff.mp hlast
  have hkind : e.normalized.kind = e.kind := rfl
  rw [hkind]
  exact kind_of_getLast? he

theorem spans_of_normalized {t : Timeline} {first : Event} {rest : Timeline}
    (h : t.normalized = first :: rest) :
    t.spans = if first.kind = t.layout.openingKind then t.layout.spans (first :: rest)
      else t.layout.span genesis first.version :: t.layout.spans rest := by
  unfold spans
  rw [h]

theorem exists_span_of_mem_spans {l : Layout} {t : Timeline} {s : Span} (h : s ∈ l.spans t) :
    ∃ introduced fixed, s = l.span introduced fixed := by
  obtain ⟨⟨first, last⟩, -, rfl⟩ := List.mem_map.mp h
  exact ⟨first.version, last.version, rfl⟩

theorem exists_span_of_mem {t : Timeline} {s : Span} (h : s ∈ t.spans) :
    ∃ introduced fixed, s = t.layout.span introduced fixed := by
  cases hn : t.normalized with
  | nil => simp [spans, hn] at h
  | cons first rest =>
    rw [spans_of_normalized hn] at h
    split_ifs at h
    · exact exists_span_of_mem_spans h
    · rcases List.mem_cons.mp h with rfl | h
      · exact ⟨_, _, rfl⟩
      · exact exists_span_of_mem_spans h

theorem default_toCoverage_of_ne {t : Timeline} (h : t ≠ []) :
    t.toCoverage.default = t.layout.defaultStatus := if_neg h

theorem events_read_toCoverage {t : Timeline} (h : t ≠ []) :
    t.toCoverage.read.events = t.spans.flatMap (·.events t.layout.defaultStatus) := by
  unfold Coverage.read Reading.ofSpans
  rw [default_toCoverage_of_ne h]
  rfl

/-- The coverage of a timeline holds only spans that events can tell. -/
theorem complete_read_toCoverage (t : Timeline) : t.toCoverage.read.complete = true := by
  by_cases ht : t = []
  · subst ht
    rfl
  · unfold Coverage.read Reading.ofSpans
    rw [default_toCoverage_of_ne ht]
    apply List.all_eq_true.mpr
    intro s hs
    obtain ⟨introduced, fixed, rfl⟩ := exists_span_of_mem hs
    exact t.layout.isRepresentable_span introduced fixed

/-- A timeline comes back exactly when its kinds alternate and each version is read as it stands. -/
theorem events_read_toCoverage_eq_iff (t : Timeline) :
    t.toCoverage.read.events = t.normalized ↔
      t.Alternates ∧ ∀ e ∈ t.normalized, t.layout.Keeps e := by
  by_cases ht : t = []
  · subst ht
    simp [Alternates, normalized, toCoverage, spans, Coverage.read, Reading.ofSpans]
  rw [events_read_toCoverage ht, ← alternates_normalized]
  have hcloses := closes_normalized t
  obtain ⟨first, rest, hn⟩ := List.exists_cons_of_ne_nil (mt List.map_eq_nil_iff.mp ht)
  change t.normalized = first :: rest at hn
  rw [spans_of_normalized hn, hn]
  rw [hn] at hcloses
  by_cases hfirst : first.kind = t.layout.openingKind
  · rw [if_pos hfirst, Layout.events_spans_eq_iff]
    have hopens : ∀ e ∈ (first :: rest).head?, e.kind = t.layout.openingKind := by simpa using hfirst
    exact and_congr_left fun _ => ⟨fun h => h.alternates, fun h => ⟨h, hopens, hcloses⟩⟩
  · have hclosing : first.kind = t.layout.openingKind.opposite :=
      (EventKind.ne_iff_eq_opposite _ _).mp (Ne.symm hfirst)
    rw [if_neg hfirst, Layout.events_genesis_spans_eq_iff, t.layout.covers_iff_of_closing hclosing,
      List.forall_mem_cons, Layout.keeps_iff_of_closing _ hclosing]
    tauto

theorem read_toCoverage_eq_iff (t : Timeline) :
    t.toCoverage.read = ⟨t.normalized, true⟩ ↔ t.toCoverage.read.events = t.normalized := by
  rw [← complete_read_toCoverage t]
  exact ⟨congrArg Reading.events, fun h => h ▸ rfl⟩

/-- The kinds alternate, and less one "v" each version is plain. Where a kind is not that of the
last event, the version also has to be one that can begin a span. -/
structure IsRecoverable (t : Timeline) : Prop where
  alternates : t.Alternates
  plain : ∀ e ∈ t, IsPlain (dropV e.version)
  begins : ∀ e ∈ t, ∀ last ∈ t.getLast?, e.kind ≠ last.kind → CanBegin (dropV e.version)

theorem isRecoverable_iff (t : Timeline) :
    t.IsRecoverable ↔ t.Alternates ∧ ∀ e ∈ t.normalized, t.layout.Keeps e := by
  have hopening : ∀ e : Event, ∀ last ∈ t.getLast?,
      e.kind ≠ last.kind ↔ e.kind = t.layout.openingKind := by
    intro e last hlast
    rw [ne_comm, EventKind.ne_iff_eq_opposite, kind_of_getLast? hlast, EventKind.opposite_opposite]
  have hlast : ∀ e ∈ t, ∃ last, t.getLast? = some last := fun e he =>
    ⟨_, List.getLast?_eq_some_getLast (List.ne_nil_of_mem he)⟩
  unfold normalized
  rw [List.forall_mem_map]
  constructor
  · intro h
    obtain ⟨halt, hplain, hbegins⟩ := h
    refine ⟨halt, fun e he => ⟨hplain e he, fun hkind => ?_⟩⟩
    obtain ⟨last, hl⟩ := hlast e he
    exact hbegins e he last hl ((hopening e last hl).mpr hkind)
  · intro h
    obtain ⟨halt, hkeeps⟩ := h
    exact ⟨halt, fun e he => (hkeeps e he).plain,
      fun e he last hl hkind => (hkeeps e he).begins ((hopening e last hl).mp hkind)⟩

instance (t : Timeline) : Decidable t.IsRecoverable :=
  decidable_of_iff _ (isRecoverable_iff t).symm

end Timeline

/-- Exactly the recoverable timelines pass the round trip without lint: what is read back then is
the timeline less each leading "v", and it is complete. -/
theorem History.check_ok_iff_isRecoverable (h : History) :
    ((h.check false).ok = true ↔ h.events = [] ∨ h.events.IsRecoverable) ∧
      (h.check false).isMatch = (h.check false).ok ∧
      ((h.check false).ok = true ↔
        h.events.toCoverage.read = ⟨h.events.normalized, true⟩) := by
  have hok : (h.check false).isMatch = (h.check false).ok := by
    simp [RoundTrip.ok, History.check, Timeline.complete_read_toCoverage]
  have hmatch : (h.check false).isMatch = true ↔
      h.events.toCoverage.read.events = h.events.normalized := by
    unfold RoundTrip.isMatch
    rw [beq_iff_eq]
    exact eq_comm
  rw [← hok, hmatch, Timeline.read_toCoverage_eq_iff]
  refine ⟨?_, rfl, Iff.rfl⟩
  rw [Timeline.events_read_toCoverage_eq_iff, ← Timeline.isRecoverable_iff]
  constructor
  · exact Or.inr
  · intro hor
    rcases hor with hnil | hrecoverable
    · rw [hnil]
      exact ⟨.nil, by simp, by simp⟩
    · exact hrecoverable

example : Timeline.IsRecoverable [⟨.introduced, "v1"⟩, ⟨.fixed, "< 2"⟩] := by decide +kernel

example : ¬Timeline.IsRecoverable [⟨.introduced, "< 2"⟩, ⟨.fixed, "3"⟩] := by decide +kernel

example : ¬Timeline.IsRecoverable [⟨.introduced, "1"⟩, ⟨.fixed, "vv2"⟩] := by decide +kernel

end AffectedVersions
