import AffectedVersions.Proofs.Timeline.RoundTrip
import Mathlib

/-! Canonical coverages: those that are found again when their events are laid out. -/
namespace AffectedVersions

open Version

namespace Timeline

theorem normalized_of_isPlain {t : Timeline} (h : ∀ e ∈ t, IsPlain e.version) :
    t.normalized = t := by
  unfold normalized
  refine (List.map_congr_left fun e he => ?_).trans (List.map_id t)
  unfold Event.normalized
  rw [(dropV_eq_self_iff _).mpr (h e he).no_v]
  rfl

theorem layout_of_closes {t : Timeline} {l : Layout} (ht : t ≠ [])
    (h : ∀ last ∈ t.getLast?, last.kind = l.openingKind.opposite) : t.layout = l := by
  obtain ⟨last, hlast⟩ : ∃ last, t.getLast? = some last :=
    ⟨_, List.getLast?_eq_some_getLast ht⟩
  unfold layout
  rw [hlast, Option.map_some, h last hlast]
  cases l <;> rfl

theorem toCoverage_of_layout {t : Timeline} {l : Layout} (ht : t ≠ []) (hl : t.layout = l) :
    t.toCoverage = ⟨t.spans, l.defaultStatus⟩ := by
  unfold toCoverage
  rw [if_neg ht, hl]

end Timeline

namespace Layout

variable (l : Layout)

/-- The events at the two ends of a span, its texts as they stand. -/
def endsOf (s : Span) : Timeline :=
  [⟨l.openingKind, s.introduced⟩, ⟨l.openingKind.opposite, s.fixed⟩]

theorem exists_defaultStatus_eq {default : Status} (h : default ≠ .unknown) :
    ∃ l : Layout, l.defaultStatus = default := by
  cases default with
  | affected => exact ⟨openEnded, rfl⟩
  | unaffected => exact ⟨closed, rfl⟩
  | unknown => exact absurd rfl h

theorem span_of_status {s : Span} (hstatus : s.status = some l.spanStatus)
    (hscheme : s.scheme = "semver") : l.span s.introduced s.fixed = s := by
  unfold span
  rw [← hstatus, ← hscheme]

theorem spans_flatMap_endsOf {spans : List Span}
    (h : ∀ s ∈ spans, l.span s.introduced s.fixed = s) : l.spans (spans.flatMap l.endsOf) = spans := by
  induction spans with
  | nil => rfl
  | cons s rest ih =>
    rw [List.forall_mem_cons] at h
    have hcut : (s :: rest).flatMap l.endsOf =
        ⟨l.openingKind, s.introduced⟩ :: ⟨l.openingKind.opposite, s.fixed⟩ ::
          rest.flatMap l.endsOf := rfl
    rw [hcut, spans_cons_cons, h.1, ih h.2]

theorem covers_flatMap_endsOf (spans : List Span) : l.Covers (spans.flatMap l.endsOf) := by
  induction spans with
  | nil => exact l.covers_nil
  | cons s rest ih => exact (l.covers_cons_cons _ _ _).mpr ⟨rfl, rfl, ih⟩

theorem keeps_of_mem_flatMap_endsOf {spans : List Span}
    (hbegins : ∀ s ∈ spans, IsPlain s.introduced ∧ CanBegin s.introduced)
    (hfixed : ∀ s ∈ spans, IsPlain s.fixed) : ∀ e ∈ spans.flatMap l.endsOf, l.Keeps e := by
  intro e he
  obtain ⟨s, hs, he⟩ := List.mem_flatMap.mp he
  rcases List.mem_pair.mp he with rfl | rfl
  · exact ⟨(hbegins s hs).1, fun _ => (hbegins s hs).2⟩
  · exact (l.keeps_iff_of_closing rfl).mpr (hfixed s hs)

theorem isPlain_of_mem_flatMap_endsOf {spans : List Span}
    (hplain : ∀ s ∈ spans, IsPlain s.introduced ∧ IsPlain s.fixed) :
    ∀ e ∈ spans.flatMap l.endsOf, IsPlain e.version := by
  intro e he
  obtain ⟨s, hs, he⟩ := List.mem_flatMap.mp he
  rcases List.mem_pair.mp he with rfl | rfl
  · exact (hplain s hs).1
  · exact (hplain s hs).2

variable {l} {t : Timeline}

theorem toCoverage_of_covers (ht : t ≠ []) (hcovers : l.Covers t)
    (hplain : ∀ e ∈ t, IsPlain e.version) : t.toCoverage = ⟨l.spans t, l.defaultStatus⟩ := by
  have hlayout := Timeline.layout_of_closes ht hcovers.closes
  have hnormalized := Timeline.normalized_of_isPlain hplain
  obtain ⟨first, rest, rfl⟩ := List.exists_cons_of_ne_nil ht
  have hopens : first.kind = l.openingKind := hcovers.opens first rfl
  rw [Timeline.toCoverage_of_layout ht hlayout, Timeline.spans_of_normalized hnormalized, hlayout,
    if_pos hopens]

theorem toCoverage_cons_of_covers {first : Event} (hkind : first.kind = l.openingKind.opposite)
    (hcovers : l.Covers t) (hplain : ∀ e ∈ first :: t, IsPlain e.version) :
    Timeline.toCoverage (first :: t) =
      ⟨l.span genesis first.version :: l.spans t, l.defaultStatus⟩ := by
  have hne : first :: t ≠ [] := List.cons_ne_nil _ _
  have hlayout := Timeline.layout_of_closes hne ((l.covers_iff_of_closing hkind).mp hcovers).2
  have hnormalized : Timeline.normalized (first :: t) = first :: t :=
    Timeline.normalized_of_isPlain hplain
  have hcloses : first.kind ≠ l.openingKind := by
    rw [hkind]
    exact EventKind.opposite_ne _
  rw [Timeline.toCoverage_of_layout hne hlayout, Timeline.spans_of_normalized hnormalized, hlayout,
    if_neg hcloses]

variable {s : Span} {rest spans : List Span}

theorem toCoverage_flatMap_endsOf (hspan : ∀ s ∈ spans, l.span s.introduced s.fixed = s)
    (hplain : ∀ s ∈ spans, IsPlain s.introduced ∧ IsPlain s.fixed) (hne : spans ≠ []) :
    Timeline.toCoverage (spans.flatMap l.endsOf) = ⟨spans, l.defaultStatus⟩ := by
  have hends : spans.flatMap l.endsOf ≠ [] := by
    obtain ⟨s, rest, rfl⟩ := List.exists_cons_of_ne_nil hne
    exact List.cons_ne_nil _ _
  rw [toCoverage_of_covers hends (l.covers_flatMap_endsOf spans)
      (l.isPlain_of_mem_flatMap_endsOf hplain), l.spans_flatMap_endsOf hspan]

theorem toCoverage_cons_flatMap_endsOf {fixed : Text} (hfixed : IsPlain fixed)
    (hspan : ∀ s ∈ spans, l.span s.introduced s.fixed = s)
    (hplain : ∀ s ∈ spans, IsPlain s.introduced ∧ IsPlain s.fixed) :
    Timeline.toCoverage (⟨l.openingKind.opposite, fixed⟩ :: spans.flatMap l.endsOf) =
      ⟨l.span genesis fixed :: spans, l.defaultStatus⟩ := by
  rw [toCoverage_cons_of_covers rfl (l.covers_flatMap_endsOf spans)
      (List.forall_mem_cons.mpr ⟨hfixed, l.isPlain_of_mem_flatMap_endsOf hplain⟩),
    l.spans_flatMap_endsOf hspan]

theorem flatMap_events_eq (hspan : ∀ s ∈ spans, l.span s.introduced s.fixed = s)
    (hbegins : ∀ s ∈ spans, IsPlain s.introduced ∧ CanBegin s.introduced)
    (hfixed : ∀ s ∈ spans, IsPlain s.fixed) :
    spans.flatMap (·.events l.defaultStatus) = spans.flatMap l.endsOf := by
  have hevents := (l.events_spans_eq_iff (spans.flatMap l.endsOf)).mpr
    ⟨l.covers_flatMap_endsOf spans, l.keeps_of_mem_flatMap_endsOf hbegins hfixed⟩
  rwa [l.spans_flatMap_endsOf hspan] at hevents

theorem toCoverage_events (hspan : ∀ p ∈ s :: rest, l.span p.introduced p.fixed = p)
    (hbegins : ∀ p ∈ s :: rest, IsPlain p.introduced ∧ CanBegin p.introduced)
    (hfixed : ∀ p ∈ s :: rest, IsPlain p.fixed) :
    Timeline.toCoverage ((s :: rest).flatMap (·.events l.defaultStatus)) =
      ⟨s :: rest, l.defaultStatus⟩ := by
  rw [flatMap_events_eq hspan hbegins hfixed]
  exact toCoverage_flatMap_endsOf hspan (fun p hp => ⟨(hbegins p hp).1, hfixed p hp⟩)
    (List.cons_ne_nil _ _)

theorem toCoverage_events_of_genesis (hgenesis : s.introduced = genesis)
    (hspan : ∀ p ∈ s :: rest, l.span p.introduced p.fixed = p)
    (hbegins : ∀ p ∈ rest, IsPlain p.introduced ∧ CanBegin p.introduced)
    (hfixed : ∀ p ∈ s :: rest, IsPlain p.fixed) :
    Timeline.toCoverage ((s :: rest).flatMap (·.events l.defaultStatus)) =
      ⟨s :: rest, l.defaultStatus⟩ := by
  obtain ⟨hs, hrest⟩ := List.forall_mem_cons.mp hspan
  obtain ⟨hend, hends⟩ := List.forall_mem_cons.mp hfixed
  have hspans : l.span genesis s.fixed :: l.spans (rest.flatMap l.endsOf) = s :: rest := by
    rw [l.spans_flatMap_endsOf hrest, ← hgenesis, hs]
  have hevents := (l.events_genesis_spans_eq_iff ⟨l.openingKind.opposite, s.fixed⟩
    (rest.flatMap l.endsOf)).mpr ⟨⟨rfl, hend⟩, l.covers_flatMap_endsOf rest,
      l.keeps_of_mem_flatMap_endsOf hbegins hends⟩
  rw [hspans] at hevents
  rw [hevents, toCoverage_cons_flatMap_endsOf hend hrest fun p hp => ⟨(hbegins p hp).1, hends p hp⟩,
    ← hgenesis, hs]

end Layout

namespace Coverage

/-- The default is known, and the spans state the opposite of it. All ends are plain, and only the first
span may begin before every version. Without spans everything is affected. -/
structure IsCanonical (c : Coverage) : Prop where
  known : c.default ≠ .unknown
  status : ∀ s ∈ c.spans, s.status = some c.default.opposite
  scheme : ∀ s ∈ c.spans, s.scheme = "semver"
  fixed : ∀ s ∈ c.spans, IsPlain s.fixed
  first : ∀ s ∈ c.spans.head?, s.introduced = genesis ∨ IsPlain s.introduced ∧ CanBegin s.introduced
  later : ∀ s ∈ c.spans.tail, IsPlain s.introduced ∧ CanBegin s.introduced
  spanless : c.spans = [] → c.default = .affected

instance (c : Coverage) : Decidable c.IsCanonical :=
  decidable_of_iff
    (c.default ≠ .unknown ∧ (∀ s ∈ c.spans, s.status = some c.default.opposite) ∧
      (∀ s ∈ c.spans, s.scheme = "semver") ∧ (∀ s ∈ c.spans, IsPlain s.fixed) ∧
      (∀ s ∈ c.spans.head?, s.introduced = genesis ∨ IsPlain s.introduced ∧ CanBegin s.introduced) ∧
      (∀ s ∈ c.spans.tail, IsPlain s.introduced ∧ CanBegin s.introduced) ∧
      (c.spans = [] → c.default = .affected))
    ⟨fun ⟨h₁, h₂, h₃, h₄, h₅, h₆, h₇⟩ => ⟨h₁, h₂, h₃, h₄, h₅, h₆, h₇⟩,
      fun ⟨h₁, h₂, h₃, h₄, h₅, h₆, h₇⟩ => ⟨h₁, h₂, h₃, h₄, h₅, h₆, h₇⟩⟩

variable {c : Coverage} {l : Layout}

theorem IsCanonical.span_eq (h : c.IsCanonical) (hl : l.defaultStatus = c.default) :
    ∀ s ∈ c.spans, l.span s.introduced s.fixed = s := by
  intro s hs
  apply l.span_of_status _ (h.scheme s hs)
  rw [h.status s hs, ← hl]
  rfl

theorem IsCanonical.complete_read (h : c.IsCanonical) : c.read.complete = true := by
  apply List.all_eq_true.mpr
  intro s hs
  apply Span.isRepresentable_of_opposite h.known
  unfold Span.statusAgainst
  rw [h.status s hs]
  rfl

/-- A canonical coverage comes back text by text from its events. -/
theorem toCoverage_read_of_isCanonical (h : c.IsCanonical) :
    c.read.complete = true ∧ c.read.events.toCoverage = c := by
  obtain ⟨l, hl⟩ := Layout.exists_defaultStatus_eq h.known
  refine ⟨h.complete_read, ?_⟩
  have hspan := h.span_eq hl
  have hfixed := h.fixed
  have hread : c.read.events = c.spans.flatMap (·.events l.defaultStatus) := by
    rw [hl]
    rfl
  have hc : c = ⟨c.spans, l.defaultStatus⟩ := by rw [hl]
  rw [hread]
  cases hspans : c.spans with
  | nil =>
    rw [hspans, hl, h.spanless hspans] at hc
    exact hc.symm
  | cons s rest =>
    have hfirst := h.first s (by rw [hspans]; rfl)
    have hlater := h.later
    rw [hspans] at hc hspan hfixed hlater
    rw [hc]
    rcases hfirst with hgenesis | hbegins
    · exact Layout.toCoverage_events_of_genesis hgenesis hspan hlater hfixed
    · exact Layout.toCoverage_events hspan (List.forall_mem_cons.mpr ⟨hbegins, hlater⟩) hfixed

/-- Two gaps, the first one from the beginning on. An end may look like a constraint. -/
def twoGaps : Coverage where
  spans := [⟨"0", "1.0.0", some .unaffected, "semver"⟩, ⟨"2 beta", "< 3", some .unaffected, "semver"⟩]
  default := .affected

theorem toCoverage_read_of_isCanonical_twoGaps :
    twoGaps.IsCanonical ∧ twoGaps.read.complete = true ∧
      twoGaps.read.events = [⟨.introduced, "1.0.0"⟩, ⟨.fixed, "2 beta"⟩, ⟨.introduced, "< 3"⟩] ∧
      twoGaps.read.events.toCoverage = twoGaps := by
  have hcanonical : twoGaps.IsCanonical := by decide +kernel
  obtain ⟨hcomplete, hcoverage⟩ := toCoverage_read_of_isCanonical hcanonical
  exact ⟨hcanonical, hcomplete, by decide +kernel, hcoverage⟩

end Coverage

end AffectedVersions
