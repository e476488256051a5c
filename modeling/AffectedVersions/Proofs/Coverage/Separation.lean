import AffectedVersions.Proofs.Span.Order
import AffectedVersions.Proofs.Timeline.Order
import AffectedVersions.Proofs.Timeline.RoundTrip
import Mathlib

/-! The spans of a timeline without issues lie apart. -/
namespace AffectedVersions

open Version

namespace Span

def ends (s : Span) : List Text := [s.introduced, s.fixed]

variable {s : Span} {x : SemVer}

theorem isReachedBy_introduced_of_contains (h : (semVer? s.introduced).isSome)
    (hx : s.contains x = true) : isReachedBy s.introduced x = true := by
  obtain ⟨hempty, hgenesis⟩ := ne_of_isSome_semVer? h
  unfold contains at hx
  rw [Bool.and_eq_true, Bool.and_eq_true, beq_false_of_ne hempty, beq_false_of_ne hgenesis,
    Bool.false_or, Bool.false_or] at hx
  exact hx.1.2

theorem isReachedBy_fixed_of_contains (h : (semVer? s.fixed).isSome) (hx : s.contains x = true) :
    isReachedBy s.fixed x = false := by
  obtain ⟨v, hv⟩ := Option.isSome_iff_exists.mp h
  unfold contains at hx
  rw [Bool.and_eq_true, beq_false_of_ne (ne_of_isSome_semVer? h).1, isAheadOf_eq hv,
    Bool.false_or, Bool.not_eq_true'] at hx
  exact hx.2

end Span

theorem ne_nil_of_odd_length {α : Type} {xs : List α} (h : Odd xs.length) : xs ≠ [] := by
  intro hnil
  rw [hnil] at h
  exact Nat.not_odd_zero h

/-- The ends of the spans are the versions in their order; an odd last one is left out. -/
theorem Layout.ends_spans (l : Layout) (t : Timeline) :
    (l.spans t).flatMap Span.ends =
      if Odd t.length then (t.map Event.version).dropLast else t.map Event.version := by
  induction t using List.twoStepInduction with
  | nil => rfl
  | singleton a => rfl
  | cons_cons a b t ih =>
    have hends : (l.span a.version b.version).ends = [a.version, b.version] := rfl
    have hodd : Odd (a :: b :: t).length ↔ Odd t.length := by
      rw [List.length_cons, List.length_cons, Nat.odd_add_one, Nat.odd_add_one, not_not]
    rw [spans_cons_cons, List.flatMap_cons, hends, ih]
    by_cases ht : Odd t.length
    · have hne : t.map Event.version ≠ [] := mt List.map_eq_nil_iff.mp (ne_nil_of_odd_length ht)
      rw [if_pos ht, if_pos (hodd.mpr ht), List.map_cons, List.map_cons,
        List.dropLast_cons_of_ne_nil (List.cons_ne_nil _ _), List.dropLast_cons_of_ne_nil hne]
      rfl
    · rw [if_neg ht, if_neg (mt hodd.mp ht)]
      rfl

theorem Layout.ends_spans_isPrefix (l : Layout) (t : Timeline) :
    (l.spans t).flatMap Span.ends <+: t.map Event.version := by
  rw [ends_spans]
  split_ifs
  · exact List.dropLast_prefix _
  · exact List.prefix_rfl

namespace Timeline

theorem ends_spans_sublist (t : Timeline) :
    (t.spans.flatMap Span.ends).Sublist (genesis :: t.normalized.map Event.version) := by
  cases hn : t.normalized with
  | nil =>
    have hspans : t.spans = [] := by
      unfold spans
      rw [hn]
    rw [hspans]
    exact List.nil_sublist _
  | cons first rest =>
    rw [spans_of_normalized hn]
    split_ifs
    · exact (t.layout.ends_spans_isPrefix _).sublist.cons _
    · exact ((t.layout.ends_spans_isPrefix rest).sublist.cons_cons first.version).cons_cons genesis

theorem pairwise_isBelow_of_lint {t : Timeline} (h : t.lint = []) :
    (genesis :: t.normalized.map Event.version).Pairwise IsBelow := by
  have hversions := (isOrdered_of_lint h).normalized.versions
  have hpairwise : (t.normalized.map Event.version).Pairwise IsBelow := by
    unfold normalized
    rw [List.pairwise_map, List.pairwise_map]
    exact (pairwise_precedes_of_lint h).imp fun hprecedes => .ofPrecedes hprecedes.dropV
  refine List.pairwise_cons.mpr ⟨?_, hpairwise⟩
  rw [List.forall_mem_map]
  exact fun e he => .ofGenesis (hversions e he)

end Timeline

namespace Coverage

/-- The spans lie apart and in order, and all have the opposite of the default. -/
structure IsSeparated (c : Coverage) : Prop where
  known : c.default = .affected ∨ c.default = .unaffected
  status : ∀ s ∈ c.spans, s.status = some c.default.opposite
  first : ∀ s ∈ c.spans.head?, s.introduced = genesis ∨ (semVer? s.introduced).isSome
  introduced : ∀ s ∈ c.spans.tail, s.introduced ≠ genesis ∧ (semVer? s.introduced).isSome
  fixed : ∀ s ∈ c.spans, (semVer? s.fixed).isSome
  ascends : ∀ s ∈ c.spans, IsBelow s.introduced s.fixed
  apart : c.spans.Pairwise fun s later => IsBelow s.fixed later.introduced

theorem isSeparated_of_pairwise {c : Coverage}
    (hknown : c.default = .affected ∨ c.default = .unaffected)
    (hstatus : ∀ s ∈ c.spans, s.status = some c.default.opposite)
    (hends : (c.spans.flatMap Span.ends).Pairwise IsBelow) : c.IsSeparated := by
  obtain ⟨hinside, hbetween⟩ := List.pairwise_flatMap.mp hends
  have hascends : ∀ s ∈ c.spans, IsBelow s.introduced s.fixed :=
    fun s hs => List.pairwise_pair.mp (hinside s hs)
  have hapart : c.spans.Pairwise fun s later => IsBelow s.fixed later.introduced :=
    hbetween.imp fun h => h _ (by simp [Span.ends]) _ (by simp [Span.ends])
  have hlater : ∀ s ∈ c.spans.tail, (semVer? s.introduced).isSome := by
    intro later hmem
    cases hspans : c.spans with
    | nil => simp [hspans] at hmem
    | cons s rest =>
      rw [hspans] at hapart hmem
      exact ((List.pairwise_cons.mp hapart).1 later hmem).isSome
  exact {
    known := hknown
    status := hstatus
    first := fun s hs => (hascends s (List.mem_of_mem_head? hs)).eq_genesis_or
    introduced := fun s hs => ⟨(Span.ne_of_isSome_semVer? (hlater s hs)).2, hlater s hs⟩
    fixed := fun s hs => (hascends s hs).isSome
    ascends := hascends
    apart := hapart }

theorem IsSeparated.pairwise_disjoint {c : Coverage} (h : c.IsSeparated) :
    c.spans.Pairwise fun s later => ∀ x, ¬(s.contains x = true ∧ later.contains x = true) := by
  refine h.apart.imp_of_mem fun {s later} hs _ hbelow x hx => ?_
  obtain ⟨hx, hx'⟩ := hx
  have hprecedes : Precedes s.fixed later.introduced := hbelow.precedes (h.fixed s hs)
  obtain ⟨hfixed, hintroduced⟩ := hprecedes.isSome
  have hahead := Span.isReachedBy_fixed_of_contains hfixed hx
  have hreached := Span.isReachedBy_introduced_of_contains hintroduced hx'
  rw [hprecedes.notAfter.isReachedBy_eq_false hahead] at hreached
  exact Bool.false_ne_true hreached

end Coverage

theorem Layout.defaultStatus_ofLastKind_eq_affected_iff (kind : Option EventKind) :
    (ofLastKind kind).defaultStatus = .affected ↔ kind = some .introduced := by
  rcases kind with - | - | - <;> decide

namespace Timeline

theorem status_of_mem_spans {t : Timeline} {s : Span} (h : s ∈ t.spans) :
    s.status = some t.layout.defaultStatus.opposite := by
  obtain ⟨introduced, fixed, rfl⟩ := exists_span_of_mem h
  rfl

/-- The spans of a timeline without issues lie apart, so that no version is in two of them. The rest
is affected exactly when the last event is an introduction. -/
theorem isSeparated_toCoverage_of_lint {t : Timeline} (ht : t ≠ []) (h : t.lint = []) :
    t.toCoverage.IsSeparated ∧
      (t.toCoverage.default = .affected ↔ t.getLast?.map Event.kind = some .introduced) ∧
      t.toCoverage.spans.Pairwise fun s later =>
        ∀ x, ¬(s.contains x = true ∧ later.contains x = true) := by
  have hdefault := default_toCoverage_of_ne ht
  have hseparated : t.toCoverage.IsSeparated := by
    apply Coverage.isSeparated_of_pairwise
    · rw [hdefault]
      cases t.layout with
      | closed => exact Or.inr rfl
      | openEnded => exact Or.inl rfl
    · rw [hdefault]
      exact fun s hs => status_of_mem_spans hs
    · exact (pairwise_isBelow_of_lint h).sublist t.ends_spans_sublist
  refine ⟨hseparated, ?_, hseparated.pairwise_disjoint⟩
  rw [hdefault]
  exact Layout.defaultStatus_ofLastKind_eq_affected_iff _

/-- Five events, the first of which ends what was affected from the beginning on. -/
def fixedFirst : Timeline :=
  [⟨.fixed, "v1.0.0-rc.1"⟩, ⟨.introduced, "1.0.0"⟩, ⟨.fixed, "v1.2.0+b"⟩, ⟨.introduced, "2.0.0-alpha"⟩,
    ⟨.fixed, "2.0.0-alpha.1"⟩]

theorem isSeparated_toCoverage_of_lint_fixedFirst :
    fixedFirst ≠ [] ∧ fixedFirst.lint = [] ∧ fixedFirst.toCoverage.IsSeparated ∧
      fixedFirst.toCoverage.default = .unaffected ∧
      fixedFirst.toCoverage.spans.map Span.ends =
        ([["0", "1.0.0-rc.1"], ["1.0.0", "1.2.0+b"], ["2.0.0-alpha", "2.0.0-alpha.1"]] :
          List (List Text)) ∧
      fixedFirst.toCoverage.spans.Pairwise fun s later =>
        ∀ x, ¬(s.contains x = true ∧ later.contains x = true) := by
  have hne : fixedFirst ≠ [] := List.cons_ne_nil _ _
  have hlint : fixedFirst.lint = [] := by decide +kernel
  obtain ⟨hseparated, hdefault, hdisjoint⟩ := isSeparated_toCoverage_of_lint hne hlint
  have hunaffected : fixedFirst.toCoverage.default = .unaffected :=
    hseparated.known.resolve_left fun haffected => absurd (hdefault.mp haffected) (by decide)
  exact ⟨hne, hlint, hseparated, hunaffected, by decide +kernel, hdisjoint⟩

end Timeline

end AffectedVersions
