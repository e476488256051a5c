import AffectedVersions.Proofs.Span.Ends
import AffectedVersions.Timeline.Coverage
import Mathlib

/-! Spans of which no end comes before the same end of an earlier span, and the gaps between them. -/
namespace AffectedVersions.Span

open Version

/-- Neither end of `next` comes before that of `s`. -/
structure IsFollowedBy (s next : Span) : Prop where
  begins : (semVer? next.introduced).isSome
  ends : s.fixed ≠ ""
  introduced : (semVer? s.introduced).isSome → NotAfter s.introduced next.introduced
  fixed : next.fixed = "" ∨ s.fixed = genesis ∨ NotAfter s.fixed next.fixed

instance (s next : Span) : Decidable (s.IsFollowedBy next) :=
  decidable_of_iff
    ((semVer? next.introduced).isSome ∧ s.fixed ≠ "" ∧
      ((semVer? s.introduced).isSome → NotAfter s.introduced next.introduced) ∧
      (next.fixed = "" ∨ s.fixed = genesis ∨ NotAfter s.fixed next.fixed))
    ⟨fun ⟨h₁, h₂, h₃, h₄⟩ => ⟨h₁, h₂, h₃, h₄⟩, fun ⟨h₁, h₂, h₃, h₄⟩ => ⟨h₁, h₂, h₃, h₄⟩⟩

/-- The affected spans between unaffected ones: from the end of each to the beginning of the next. -/
def gaps (spans : List Span) : List Span :=
  (spans.zip spans.tail).map fun (s, next) =>
    Layout.closed.span (dropV s.fixed) (dropV next.introduced)

variable {s next : Span} {rest spans : List Span}

theorem IsFollowedBy.hasBegunAt (h : s.IsFollowedBy next) (hs : s.HasPlainEnds) {x : SemVer}
    (hx : s.hasBegunAt x = false) : next.hasBegunAt x = false := by
  rcases hs.introduced with hversion | hunbounded
  · rw [hasBegunAt_of_isSome hversion] at hx
    rw [hasBegunAt_of_isSome h.begins]
    exact (h.introduced hversion).isReachedBy_eq_false hx
  · rw [hasBegunAt_of_unbounded hunbounded] at hx
    exact Bool.noConfusion hx

theorem IsFollowedBy.isOpenAt (h : s.IsFollowedBy next) {x : SemVer}
    (hx : next.isOpenAt x = false) : s.isOpenAt x = false := by
  rcases h.fixed with hempty | hgenesis | hafter
  · rw [isOpenAt_of_fixed_eq_empty hempty] at hx
    exact Bool.noConfusion hx
  · exact isOpenAt_of_genesis hgenesis x
  · obtain ⟨a, b, ha, hb, hab⟩ := hafter
    rw [isOpenAt_of_isSome (Option.isSome_of_eq_some hb), Bool.not_eq_false', isReachedBy_eq hb] at hx
    rw [isOpenAt_of_isSome (Option.isSome_of_eq_some ha), Bool.not_eq_false', isReachedBy_eq ha]
    exact SemVer.notAfter_trans hab hx

theorem not_contains_of_not_hasBegunAt (hplain : ∀ p ∈ s :: rest, p.HasPlainEnds)
    (hchain : (s :: rest).IsChain IsFollowedBy) {x : SemVer} (hx : s.hasBegunAt x = false) :
    ∀ p ∈ s :: rest, p.contains x = false := by
  induction rest generalizing s with
  | nil => simpa using contains_of_not_hasBegunAt hx
  | cons next rest ih =>
    obtain ⟨hfollows, htail⟩ := List.isChain_cons_cons.mp hchain
    obtain ⟨hs, hrest⟩ := List.forall_mem_cons.mp hplain
    exact List.forall_mem_cons.mpr
      ⟨contains_of_not_hasBegunAt hx, ih hrest htail (hfollows.hasBegunAt hs hx)⟩

theorem not_contains_of_not_isOpenAt (hchain : spans.IsChain IsFollowedBy) {last : Span}
    (hlast : last ∈ spans.getLast?) {x : SemVer} (hx : last.isOpenAt x = false) :
    ∀ p ∈ spans, p.contains x = false := by
  have hended : ∀ p ∈ spans, p.isOpenAt x = false := by
    induction spans with
    | nil => simp
    | cons s rest ih =>
      cases rest with
      | nil =>
        rw [List.getLast?_singleton, Option.mem_some_iff] at hlast
        simpa [hlast] using hx
      | cons next rest =>
        obtain ⟨hfollows, htail⟩ := List.isChain_cons_cons.mp hchain
        rw [List.getLast?_cons_cons] at hlast
        have hrest := ih htail hlast
        exact List.forall_mem_cons.mpr
          ⟨hfollows.isOpenAt (hrest next List.mem_cons_self), hrest⟩
  exact fun p hp => contains_of_not_isOpenAt (hended p hp)

theorem gaps_cons_cons (s next : Span) (rest : List Span) :
    gaps (s :: next :: rest) =
      Layout.closed.span (dropV s.fixed) (dropV next.introduced) :: gaps (next :: rest) := rfl

theorem isPlain_of_mem_gaps (hplain : ∀ p ∈ s :: rest, p.HasPlainEnds)
    (hchain : (s :: rest).IsChain IsFollowedBy) :
    ∀ gap ∈ gaps (s :: rest), IsPlain gap.introduced ∧ IsPlain gap.fixed := by
  induction rest generalizing s with
  | nil => exact fun gap hgap => absurd hgap List.not_mem_nil
  | cons next rest ih =>
    obtain ⟨hs, hrest⟩ := List.forall_mem_cons.mp hplain
    obtain ⟨hfollows, htail⟩ := List.isChain_cons_cons.mp hchain
    rw [gaps_cons_cons]
    exact List.forall_mem_cons.mpr ⟨⟨isPlain_dropV_fixed hs hfollows.ends,
      isPlain_dropV_of_isSome hfollows.begins⟩, ih hrest htail⟩

theorem span_eq_of_mem_gaps {gap : Span} (h : gap ∈ gaps spans) :
    Layout.closed.span gap.introduced gap.fixed = gap := by
  obtain ⟨pair, -, rfl⟩ := List.mem_map.mp h
  rfl

/-- A version in a gap is held by no span. -/
theorem not_contains_of_mem_gaps (hplain : ∀ p ∈ s :: rest, p.HasPlainEnds)
    (hchain : (s :: rest).IsChain IsFollowedBy) {gap : Span} (hgap : gap ∈ gaps (s :: rest))
    {x : SemVer} (hx : gap.contains x = true) :
    s.isOpenAt x = false ∧ ∀ p ∈ s :: rest, p.contains x = false := by
  induction rest generalizing s with
  | nil => exact absurd hgap List.not_mem_nil
  | cons next rest ih =>
    obtain ⟨hs, hrest⟩ := List.forall_mem_cons.mp hplain
    obtain ⟨hfollows, htail⟩ := List.isChain_cons_cons.mp hchain
    rw [gaps_cons_cons] at hgap
    rcases List.mem_cons.mp hgap with rfl | hgap
    · rw [contains_eq_hasBegunAt_and_isOpenAt, Bool.and_eq_true, Bool.and_eq_true] at hx
      obtain ⟨⟨-, hbegun⟩, hopen⟩ := hx
      have hended : s.isOpenAt x = false := by
        rw [hasBegunAt_of_introduced_eq rfl hs hfollows.ends] at hbegun
        exact (Bool.not_eq_true' _).mp hbegun
      have hnext : next.hasBegunAt x = false := by
        rw [isOpenAt_of_fixed_eq rfl hfollows.begins] at hopen
        exact (Bool.not_eq_true' _).mp hopen
      exact ⟨hended, List.forall_mem_cons.mpr ⟨contains_of_not_isOpenAt hended,
        not_contains_of_not_hasBegunAt hrest htail hnext⟩⟩
    · obtain ⟨hended, hnone⟩ := ih hrest htail hgap
      have hs' := hfollows.isOpenAt hended
      exact ⟨hs', List.forall_mem_cons.mpr ⟨contains_of_not_isOpenAt hs', hnone⟩⟩

end AffectedVersions.Span
