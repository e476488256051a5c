import AffectedVersions.Proofs.Coverage.Separation
import Mathlib

/-! The events at the ends of the spans: all of them, but for a last one without a partner. -/
namespace AffectedVersions

open Version

theorem Layout.Covers.not_odd_length {l : Layout} {t : Timeline} (h : l.Covers t) :
    ¬Odd t.length := by
  induction t using List.twoStepInduction with
  | nil => exact Nat.not_odd_zero
  | singleton a => exact absurd h (l.not_covers_singleton a)
  | cons_cons a b t ih =>
    rw [List.length_cons, List.length_cons, Nat.odd_add_one, Nat.odd_add_one, not_not]
    exact ih ((l.covers_cons_cons a b t).mp h).2.2

namespace Timeline

/-- The first event opens a span of the layout. -/
def Opens (t : Timeline) : Prop := t.head?.map Event.kind = some t.layout.openingKind

instance (t : Timeline) : Decidable t.Opens :=
  inferInstanceAs (Decidable (t.head?.map Event.kind = some t.layout.openingKind))

/-- The events that are paired. A first one that opens no span ends one without a partner. -/
def paired (t : Timeline) : Timeline := if t.Opens then t else t.tail

/-- The ends of the spans in their order, less a beginning before every version. -/
def keptVersions (t : Timeline) : List Text :=
  let ends := t.toCoverage.spans.flatMap Span.ends
  if t.Opens then ends else ends.tail

variable {t : Timeline} {first : Event} {rest : Timeline}

theorem opens_cons_iff :
    Opens (first :: rest) ↔ first.kind = (layout (first :: rest)).openingKind :=
  Option.some_inj

theorem kind_eq_of_not_opens (h : ¬Opens (first :: rest)) :
    first.kind = (layout (first :: rest)).openingKind.opposite :=
  (EventKind.ne_iff_eq_opposite _ _).mp (Ne.symm (mt opens_cons_iff.mpr h))

theorem length_normalized (t : Timeline) : t.normalized.length = t.length := List.length_map _

theorem spans_cons (first : Event) (rest : Timeline) :
    spans (first :: rest) = if Opens (first :: rest) then
        (layout (first :: rest)).spans (normalized (first :: rest))
      else (layout (first :: rest)).span genesis first.normalized.version ::
        (layout (first :: rest)).spans rest.normalized := by
  have hopens : Opens (first :: rest) ↔
      first.normalized.kind = (layout (first :: rest)).openingKind := opens_cons_iff
  rw [spans_of_normalized (normalized_cons first rest)]
  exact if_congr hopens.symm rfl rfl

theorem ends_toCoverage_of_opens (h : Opens (first :: rest)) :
    (toCoverage (first :: rest)).spans.flatMap Span.ends =
      ((layout (first :: rest)).spans (normalized (first :: rest))).flatMap Span.ends :=
  congrArg (List.flatMap Span.ends) ((spans_cons first rest).trans (if_pos h))

theorem ends_toCoverage_of_not_opens (h : ¬Opens (first :: rest)) :
    (toCoverage (first :: rest)).spans.flatMap Span.ends = genesis :: first.normalized.version ::
      ((layout (first :: rest)).spans rest.normalized).flatMap Span.ends :=
  congrArg (List.flatMap Span.ends) ((spans_cons first rest).trans (if_neg h))

theorem keptVersions_cons (first : Event) (rest : Timeline) :
    keptVersions (first :: rest) =
      if Odd (paired (first :: rest)).length then
        ((normalized (first :: rest)).map Event.version).dropLast
      else (normalized (first :: rest)).map Event.version := by
  unfold keptVersions paired
  by_cases h : Opens (first :: rest)
  · rw [if_pos h, if_pos h, ends_toCoverage_of_opens h, Layout.ends_spans, length_normalized]
  · rw [if_neg h, if_neg h, ends_toCoverage_of_not_opens h, Layout.ends_spans, length_normalized,
      List.tail_cons, List.tail_cons, normalized_cons, List.map_cons]
    by_cases hodd : Odd rest.length
    · have hne : rest.normalized.map Event.version ≠ [] := by
        rw [normalized, List.map_map]
        exact mt List.map_eq_nil_iff.mp (ne_nil_of_odd_length hodd)
      rw [if_pos hodd, if_pos hodd, List.dropLast_cons_of_ne_nil hne]
    · rw [if_neg hodd, if_neg hodd]

theorem Alternates.covers_paired (h : Alternates (first :: rest)) :
    (layout (first :: rest)).Covers (paired (first :: rest)) := by
  have hcloses : ∀ last ∈ (first :: rest).getLast?,
      last.kind = (layout (first :: rest)).openingKind.opposite := fun _ => kind_of_getLast?
  unfold paired
  split_ifs with hopens
  · exact ⟨h, by simpa using opens_cons_iff.mp hopens, hcloses⟩
  · exact (Layout.covers_iff_of_closing _ (kind_eq_of_not_opens hopens)).mpr ⟨h, hcloses⟩

/-- Of the versions of a timeline its spans keep all in their order, or all but the last one, if the
number of events to pair is odd. That is never so where the kinds alternate. -/
theorem keptVersions_eq (ht : t ≠ []) :
    (¬t.Opens → (t.toCoverage.spans.flatMap Span.ends).head? = some genesis) ∧
      t.keptVersions = (if Odd t.paired.length then (t.normalized.map Event.version).dropLast
        else t.normalized.map Event.version) ∧
      (t.Alternates → t.keptVersions = t.normalized.map Event.version) := by
  obtain ⟨first, rest, rfl⟩ := List.exists_cons_of_ne_nil ht
  refine ⟨fun hopens => ?_, keptVersions_cons first rest, fun halternates => ?_⟩
  · rw [ends_toCoverage_of_not_opens hopens]
    rfl
  · rw [keptVersions_cons, if_neg halternates.covers_paired.not_odd_length]

/-- Four fixes, of which the last one finds no partner. -/
def fourFixes : Timeline := [⟨.fixed, "v1"⟩, ⟨.fixed, "2"⟩, ⟨.fixed, "vv3"⟩, ⟨.fixed, ""⟩]

/-- Introductions and fixes by turns. -/
def byTurns : Timeline := [⟨.introduced, "1"⟩, ⟨.fixed, "v2"⟩, ⟨.introduced, "0"⟩]

theorem keptVersions_eq_fourFixes :
    fourFixes ≠ [] ∧ ¬fourFixes.Opens ∧ fourFixes.keptVersions = ["1", "2", "v3"] ∧
      (fourFixes.toCoverage.spans.flatMap Span.ends).head? = some "0" ∧
      byTurns ≠ [] ∧ byTurns.Alternates ∧ byTurns.keptVersions = ["1", "2", "0"] := by
  have hfixes : fourFixes ≠ [] := List.cons_ne_nil _ _
  have hturns : byTurns ≠ [] := List.cons_ne_nil _ _
  have hopens : ¬fourFixes.Opens := by decide
  have halternates : byTurns.Alternates := by decide
  obtain ⟨hgenesis, hkept, -⟩ := keptVersions_eq hfixes
  exact ⟨hfixes, hopens, hkept.trans (by decide +kernel), hgenesis hopens, hturns, halternates,
    (keptVersions_eq hturns).2.2 halternates⟩

end Timeline

end AffectedVersions
