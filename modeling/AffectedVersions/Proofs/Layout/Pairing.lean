import AffectedVersions.Proofs.Span.Events
import AffectedVersions.Timeline.Coverage
import Mathlib

/-! The spans of a layout, one for each two events, and the events read back from them. -/
namespace AffectedVersions

open Version

theorem EventKind.ne_iff_eq_opposite (k m : EventKind) : k ≠ m ↔ m = k.opposite := by
  cases k <;> cases m <;> decide

theorem EventKind.opposite_ne (k : EventKind) : k.opposite ≠ k := by
  cases k <;> decide

/-- Of two consecutive events one introduces and the other one fixes. -/
def Timeline.Alternates (t : Timeline) : Prop := t.IsChain fun e next => e.kind ≠ next.kind

instance (t : Timeline) : Decidable t.Alternates :=
  inferInstanceAs (Decidable (t.IsChain fun e next => e.kind ≠ next.kind))

theorem append_eq_append_iff_of_length_le {α : Type} {xs ys us vs : List α}
    (hx : xs.length ≤ us.length) (hy : ys.length ≤ vs.length) :
    xs ++ ys = us ++ vs ↔ xs = us ∧ ys = vs := by
  constructor
  · intro h
    have hlen := congrArg List.length h
    rw [List.length_append, List.length_append] at hlen
    exact List.append_inj h (by omega)
  · intro hh
    obtain ⟨rfl, rfl⟩ := hh
    rfl

namespace Layout

variable (l : Layout)

/-- The events open and close spans of the layout by turns, and the last span is closed. -/
structure Covers (t : Timeline) : Prop where
  alternates : t.Alternates
  opens : ∀ e ∈ t.head?, e.kind = l.openingKind
  closes : ∀ e ∈ t.getLast?, e.kind = l.openingKind.opposite

/-- The version of an event is read back as it stands where the layout puts it. -/
structure Keeps (e : Event) : Prop where
  plain : IsPlain e.version
  begins : e.kind = l.openingKind → CanBegin e.version

instance (e : Event) : Decidable (l.Keeps e) :=
  decidable_of_iff (IsPlain e.version ∧ (e.kind = l.openingKind → CanBegin e.version))
    ⟨fun h => ⟨h.1, h.2⟩, fun h => ⟨h.plain, h.begins⟩⟩

theorem keeps_iff_of_closing {e : Event} (he : e.kind = l.openingKind.opposite) :
    l.Keeps e ↔ IsPlain e.version :=
  ⟨Keeps.plain, fun h => ⟨h, fun hopen => absurd (he.symm.trans hopen) (EventKind.opposite_ne _)⟩⟩

theorem covers_nil : l.Covers [] := ⟨.nil, by simp, by simp⟩

theorem not_covers_singleton (e : Event) : ¬l.Covers [e] := by
  intro h
  obtain ⟨-, hopens, hcloses⟩ := h
  have hopen : e.kind = l.openingKind := hopens e rfl
  have hclose : e.kind = l.openingKind.opposite := hcloses e rfl
  exact EventKind.opposite_ne _ (hclose.symm.trans hopen)

theorem covers_iff_of_closing {e : Event} {t : Timeline} (he : e.kind = l.openingKind.opposite) :
    l.Covers t ↔ Timeline.Alternates (e :: t) ∧
      ∀ last ∈ (e :: t).getLast?, last.kind = l.openingKind.opposite := by
  cases t with
  | nil => simpa [Timeline.Alternates, he] using l.covers_nil
  | cons b t =>
    have hkind : e.kind ≠ b.kind ↔ b.kind = l.openingKind := by
      rw [EventKind.ne_iff_eq_opposite, he, EventKind.opposite_opposite]
    rw [List.getLast?_cons_cons, Timeline.Alternates, List.isChain_cons_cons, hkind]
    constructor
    · intro h
      obtain ⟨halt, hopens, hcloses⟩ := h
      exact ⟨⟨hopens b rfl, halt⟩, hcloses⟩
    · intro h
      obtain ⟨⟨hopen, halt⟩, hcloses⟩ := h
      exact ⟨halt, by simpa using hopen, hcloses⟩

theorem covers_cons_cons (a b : Event) (t : Timeline) :
    l.Covers (a :: b :: t) ↔
      a.kind = l.openingKind ∧ b.kind = l.openingKind.opposite ∧ l.Covers t := by
  constructor
  · intro h
    obtain ⟨halt, hopens, hcloses⟩ := h
    have ha : a.kind = l.openingKind := hopens a rfl
    obtain ⟨hab, hrest⟩ := List.isChain_cons_cons.mp halt
    have hb : b.kind = l.openingKind.opposite := by
      rw [← ha]
      exact (EventKind.ne_iff_eq_opposite _ _).mp hab
    rw [List.getLast?_cons_cons] at hcloses
    exact ⟨ha, hb, (l.covers_iff_of_closing hb).mpr ⟨hrest, hcloses⟩⟩
  · intro h
    obtain ⟨ha, hb, ht⟩ := h
    obtain ⟨hrest, hcloses⟩ := (l.covers_iff_of_closing hb).mp ht
    refine ⟨List.isChain_cons_cons.mpr ⟨?_, hrest⟩, ?_, ?_⟩
    · rw [ha, hb]
      exact (EventKind.opposite_ne _).symm
    · simpa using ha
    · rwa [List.getLast?_cons_cons]

theorem statusAgainst_span (introduced fixed : Text) :
    (l.span introduced fixed).statusAgainst l.defaultStatus = l.spanStatus := rfl

theorem defaultStatus_ne_unknown : l.defaultStatus ≠ .unknown := by
  cases l <;> decide

theorem spanStatus_ne_unknown : l.spanStatus ≠ .unknown := by
  cases l <;> decide

theorem isRepresentable_span (introduced fixed : Text) :
    (l.span introduced fixed).isRepresentable l.defaultStatus = true :=
  Span.isRepresentable_of_opposite l.defaultStatus_ne_unknown (l.statusAgainst_span introduced fixed)

theorem openingKind_span (introduced fixed : Text) :
    (l.span introduced fixed).openingKind l.defaultStatus = l.openingKind := by
  cases l <;> rfl

theorem events_span (introduced fixed : Text) :
    (l.span introduced fixed).events l.defaultStatus =
      Span.endEvents l.openingKind (l.span introduced fixed).bounds.lower ++
        Span.endEvents l.openingKind.opposite (l.span introduced fixed).bounds.upper := by
  have hknown := l.spanStatus_ne_unknown
  have hother := l.spanStatus_ne_defaultStatus
  rw [← l.statusAgainst_span introduced fixed] at hknown hother
  rw [Span.events_eq hknown hother, openingKind_span]

theorem length_events_span_le (introduced fixed : Text) :
    ((l.span introduced fixed).events l.defaultStatus).length ≤ 2 := by
  rw [events_span, List.length_append]
  exact Nat.add_le_add (Span.length_endEvents_le _ _) (Span.length_endEvents_le _ _)

@[simp] theorem spans_cons_cons (a b : Event) (t : Timeline) :
    l.spans (a :: b :: t) = l.span a.version b.version :: l.spans t := rfl

theorem length_events_spans_le (t : Timeline) :
    ((l.spans t).flatMap (·.events l.defaultStatus)).length ≤ t.length := by
  induction t using List.twoStepInduction with
  | nil => exact Nat.zero_le _
  | singleton a => exact Nat.zero_le _
  | cons_cons a b t ih =>
    have hspan := l.length_events_span_le a.version b.version
    simp only [spans_cons_cons, List.flatMap_cons, List.length_append, List.length_cons]
    omega

theorem events_span_eq_pair_iff (a b : Event) :
    (l.span a.version b.version).events l.defaultStatus = [a, b] ↔
      a.kind = l.openingKind ∧ b.kind = l.openingKind.opposite ∧ l.Keeps a ∧ l.Keeps b := by
  have hpair : [a, b] = [a] ++ [b] := rfl
  have hlower := Span.lower_bounds_eq_introduced_iff (l.span a.version b.version)
  rw [events_span, hpair, append_eq_append_iff_of_length_le (Span.length_endEvents_le _ _)
    (Span.length_endEvents_le _ _), Span.endEvents_eq_singleton_iff, Span.endEvents_eq_singleton_iff]
  constructor
  · intro h
    obtain ⟨⟨ha, hl⟩, hb, hu⟩ := h
    obtain ⟨hplain, hbegin⟩ := hlower.mp hl
    have hc := (Span.isConstraint_lowerText_iff hplain).mpr hbegin.no_operator
    have hend : IsPlain b.version := (Span.upper_bounds_eq_fixed_iff hc).mp hu
    exact ⟨ha, hb, ⟨hplain, fun _ => hbegin⟩,
      (l.keeps_iff_of_closing hb).mpr hend⟩
  · intro h
    obtain ⟨ha, hb, ⟨hplain, hbegins⟩, ⟨hend, -⟩⟩ := h
    have hc : Constraint.isConstraint (l.span a.version b.version).lowerText = false :=
      (Span.isConstraint_lowerText_iff hplain).mpr (hbegins ha).no_operator
    exact ⟨⟨ha, hlower.mpr ⟨hplain, hbegins ha⟩⟩, hb, (Span.upper_bounds_eq_fixed_iff hc).mpr hend⟩

theorem events_span_genesis (fixed : Text) :
    (l.span genesis fixed).events l.defaultStatus =
      Span.endEvents l.openingKind.opposite (l.span genesis fixed).bounds.upper := by
  have hlower : (l.span genesis fixed).bounds.lower = none :=
    (Span.lower_bounds_of_unbounded (Or.inr rfl)).2
  rw [events_span, hlower, Span.endEvents_none, List.nil_append]

theorem events_span_genesis_eq_iff (b : Event) :
    (l.span genesis b.version).events l.defaultStatus = [b] ↔
      b.kind = l.openingKind.opposite ∧ IsPlain b.version := by
  have hc : Constraint.isConstraint (l.span genesis b.version).lowerText = false :=
    (Span.lower_bounds_of_unbounded (Or.inr rfl)).1
  rw [events_span_genesis, Span.endEvents_eq_singleton_iff]
  exact and_congr_right fun _ => Span.upper_bounds_eq_fixed_iff hc

/-- No event can be made up for by another one: each span gives at most its own two. -/
theorem events_spans_eq_iff (t : Timeline) :
    (l.spans t).flatMap (·.events l.defaultStatus) = t ↔ l.Covers t ∧ ∀ e ∈ t, l.Keeps e := by
  induction t using List.twoStepInduction with
  | nil => simpa [Layout.spans, pairUp] using l.covers_nil
  | singleton a => simpa [Layout.spans, pairUp] using fun h => absurd h (l.not_covers_singleton a)
  | cons_cons a b t ih =>
    have hcut : a :: b :: t = [a, b] ++ t := rfl
    rw [spans_cons_cons, List.flatMap_cons, hcut,
      append_eq_append_iff_of_length_le (l.length_events_span_le _ _) (l.length_events_spans_le t),
      events_span_eq_pair_iff, ih, ← hcut, covers_cons_cons]
    simp only [List.forall_mem_cons]
    tauto

theorem events_genesis_spans_eq_iff (first : Event) (t : Timeline) :
    (l.span genesis first.version :: l.spans t).flatMap (·.events l.defaultStatus) = first :: t ↔
      (first.kind = l.openingKind.opposite ∧ IsPlain first.version) ∧
        l.Covers t ∧ ∀ e ∈ t, l.Keeps e := by
  have hcut : first :: t = [first] ++ t := rfl
  have hlen : ((l.span genesis first.version).events l.defaultStatus).length ≤ 1 := by
    rw [events_span_genesis]
    exact Span.length_endEvents_le _ _
  rw [List.flatMap_cons, hcut, append_eq_append_iff_of_length_le hlen (l.length_events_spans_le t),
    events_span_genesis_eq_iff, events_spans_eq_iff]

end Layout

end AffectedVersions
