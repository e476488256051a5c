import AffectedVersions.Proofs.Coverage.Order
import AffectedVersions.Proofs.Timeline.RoundTrip
import Mathlib

/-! Conversions between ordered timelines and coverages keep the status of every version. -/
namespace AffectedVersions

open Version

theorem Timeline.IsOrdered.tail {e : Event} {t : Timeline} (h : Timeline.IsOrdered (e :: t)) :
    t.IsOrdered :=
  ⟨fun e' he' => h.versions e' (List.mem_cons_of_mem e he'), h.follows.tail⟩

namespace Layout

variable (l : Layout)

theorem isPlainAgainst_span {introduced fixed : Text}
    (hi : (semVer? introduced).isSome ∨ introduced = genesis) (hf : (semVer? fixed).isSome)
    (hasc : ∀ a b, semVer? introduced = some a → semVer? fixed = some b → a.notAfter b) :
    (l.span introduced fixed).IsPlainAgainst l.defaultStatus where
  status := Or.inr rfl
  introduced := hi.imp_right Or.inr
  fixed := Or.inl hf
  ascends := hasc

theorem isPlainAgainst_of_isFollowedBy {a b : Event} (h : a.IsFollowedBy b) :
    (l.span a.version b.version).IsPlainAgainst l.defaultStatus := by
  obtain ⟨u, v, hu, hv, huv⟩ := h.ascends
  apply l.isPlainAgainst_span (Or.inl (Option.isSome_of_eq_some hu)) (Option.isSome_of_eq_some hv)
  intro u' v' hu' hv'
  obtain rfl : u = u' := Option.some.inj (hu.symm.trans hu')
  obtain rfl : v = v' := Option.some.inj (hv.symm.trans hv')
  exact huv

theorem isPlainAgainst_of_mem_spans {t : Timeline} (h : t.IsOrdered) :
    ∀ s ∈ l.spans t, s.IsPlainAgainst l.defaultStatus := by
  induction t using List.twoStepInduction with
  | nil => exact List.forall_mem_nil _
  | singleton a => exact List.forall_mem_nil _
  | cons_cons a b t ih =>
    rw [spans_cons_cons, List.forall_mem_cons]
    exact ⟨l.isPlainAgainst_of_isFollowedBy (List.isChain_cons_cons.mp h.follows).1, ih h.tail.tail⟩

theorem isChain_cons_spans {e : Event} {t : Timeline} (h : (e :: t).IsChain Event.IsFollowedBy)
    {s : Span} (hs : s.fixed = e.version) : (s :: l.spans t).IsChain Span.EndsBefore := by
  induction t using List.twoStepInduction generalizing e s with
  | nil => exact List.isChain_singleton s
  | singleton a => exact List.isChain_singleton s
  | cons_cons a b t ih =>
    obtain ⟨hea, htail⟩ := List.isChain_cons_cons.mp h
    rw [spans_cons_cons]
    refine List.isChain_cons_cons.mpr ⟨?_, ih htail.tail rfl⟩
    unfold Span.EndsBefore
    rw [hs]
    exact hea.ascends

end Layout

namespace Timeline

theorem coverage_isOrdered_of_spans {t : Timeline} (ht : t ≠ []) {s : Span} {rest : List Span}
    (hspans : t.spans = s :: rest)
    (hplain : ∀ p ∈ s :: rest, p.IsPlainAgainst t.layout.defaultStatus)
    (hchain : (s :: rest).IsChain Span.EndsBefore) (hbounded : s.IsBounded) :
    t.toCoverage.IsOrdered := by
  have hcoverage : t.toCoverage = ⟨s :: rest, t.layout.defaultStatus⟩ := by
    unfold toCoverage
    rw [hspans, if_neg ht]
  rw [hcoverage]
  exact ⟨t.layout.defaultStatus_ne_unknown, hplain, hchain, s, List.mem_cons_self, hbounded⟩

/-- The spans of an ordered timeline ascend. -/
theorem IsOrdered.isOrdered_toCoverage {t : Timeline} (h : t.IsOrdered) (ht : t ≠ []) :
    t.toCoverage.IsOrdered := by
  have hord := h.normalized
  have hcloses := closes_normalized t
  obtain ⟨first, rest, hn⟩ := List.exists_cons_of_ne_nil (mt List.map_eq_nil_iff.mp ht)
  change t.normalized = first :: rest at hn
  have hspans := spans_of_normalized hn
  rw [hn] at hord hcloses
  by_cases hfirst : first.kind = t.layout.openingKind
  · rw [if_pos hfirst] at hspans
    cases rest with
    | nil =>
      have hclosing : first.kind = t.layout.openingKind.opposite := hcloses first rfl
      exact absurd (hclosing.symm.trans hfirst) (EventKind.opposite_ne _)
    | cons b rest =>
      have hb := hord.versions b (List.mem_cons_of_mem _ List.mem_cons_self)
      exact coverage_isOrdered_of_spans ht hspans (t.layout.isPlainAgainst_of_mem_spans hord)
        (t.layout.isChain_cons_spans hord.follows.tail rfl) (Or.inr hb)
  · rw [if_neg hfirst] at hspans
    have hversion := hord.versions first List.mem_cons_self
    have hgenesis : (t.layout.span genesis first.version).IsPlainAgainst t.layout.defaultStatus :=
      t.layout.isPlainAgainst_span (Or.inr rfl) hversion fun a _ ha =>
        absurd (Option.isSome_of_eq_some ha) (Span.not_isSome_semVer?_of_unbounded (Or.inr rfl))
    exact coverage_isOrdered_of_spans ht hspans
      (List.forall_mem_cons.mpr ⟨hgenesis, t.layout.isPlainAgainst_of_mem_spans hord.tail⟩)
      (t.layout.isChain_cons_spans hord.follows rfl) (Or.inr hversion)

theorem IsOrdered.read_toCoverage {t : Timeline} (h : t.IsOrdered) :
    t.toCoverage.read.events = t.normalized := by
  rw [events_read_toCoverage_eq_iff]
  refine ⟨h.alternates, ?_⟩
  unfold Timeline.normalized
  rw [List.forall_mem_map]
  intro e he
  obtain ⟨v, hv⟩ := Option.isSome_iff_exists.mp (h.versions e he)
  exact ⟨isPlain_of_ofText? hv, fun _ => canBegin_of_ofText? hv⟩

/-- The coverage of an ordered timeline gives every version the status that the timeline gives. -/
theorem IsOrdered.statusAt_toCoverage {t : Timeline} (h : t.IsOrdered) (x : SemVer) :
    t.toCoverage.statusAt x = t.statusAt x := by
  by_cases ht : t = []
  · subst ht
    rfl
  · rw [← (h.isOrdered_toCoverage ht).statusAt_read, h.read_toCoverage,
      statusAt_normalized h.versions]

/-- The coverage of a timeline without issues gives every version the status of the timeline. -/
theorem statusAt_toCoverage_of_lint {t : Timeline} (h : t.lint = []) (x : SemVer) :
    t.toCoverage.statusAt x = t.statusAt x ∧
      ∀ s ∈ t.toCoverage.spans, s.contains x = true →
        s.statusAgainst t.toCoverage.default = t.statusAt x := by
  have hord := isOrdered_of_lint h
  have hstatus := hord.statusAt_toCoverage x
  refine ⟨hstatus, fun s hs hx => ?_⟩
  have ht : t ≠ [] := by
    intro heq
    subst heq
    exact absurd hs List.not_mem_nil
  have hcoverage := hord.isOrdered_toCoverage ht
  rw [hcoverage.statusAt_eq, if_pos (List.any_eq_true.mpr ⟨s, hs, hx⟩)] at hstatus
  exact (hcoverage.plain s hs).statusAgainst.trans hstatus

/-- A timeline whose coverage lists one gap between affected versions. -/
def withGap : Timeline :=
  [⟨.introduced, "v1.0.0-rc.1"⟩, ⟨.fixed, "1.0.0"⟩, ⟨.introduced, "v2.0.0+b"⟩]

theorem statusAt_toCoverage_of_lint_withGap :
    withGap.lint = [] ∧
      withGap.toCoverage.statusAt ⟨1, 0, 0, [], []⟩ = .unaffected ∧
      ∃ s ∈ withGap.toCoverage.spans, s.contains ⟨1, 0, 0, [], []⟩ = true ∧
        s.statusAgainst withGap.toCoverage.default = .unaffected := by
  have hlint : withGap.lint = [] := by decide +kernel
  have hstatus : withGap.statusAt ⟨1, 0, 0, [], []⟩ = .unaffected := by decide +kernel
  have hspan : ∃ s ∈ withGap.toCoverage.spans, s.contains ⟨1, 0, 0, [], []⟩ = true := by
    decide +kernel
  obtain ⟨s, hs, hx⟩ := hspan
  obtain ⟨hcoverage, hspans⟩ := statusAt_toCoverage_of_lint hlint ⟨1, 0, 0, [], []⟩
  exact ⟨hlint, hcoverage.trans hstatus, s, hs, hx, (hspans s hs hx).trans hstatus⟩

end Timeline

/-- Reading an ordered coverage and laying its events out again, in whichever layout their last
kind asks for, keeps the status of every version. -/
theorem Coverage.statusAt_read_of_isOrdered {c : Coverage} (h : c.IsOrdered) :
    c.read.complete = true ∧ ∀ x, c.read.events.statusAt x = c.statusAt x ∧
      c.read.events.toCoverage.statusAt x = c.statusAt x := by
  refine ⟨h.complete_read, fun x => ⟨h.statusAt_read x, ?_⟩⟩
  rw [h.isOrdered_events.statusAt_toCoverage, h.statusAt_read]

/-- Two affected spans that meet, the first without a beginning and the second without an end. -/
def Coverage.abutting : Coverage where
  spans := [⟨"", "v1.0.0", none, "semver"⟩, ⟨"1.0.0", "", some .affected, "semver"⟩]
  default := .unaffected

theorem Coverage.isOrdered_abutting : abutting.IsOrdered := by
  have hend : Version.semVer? "v1.0.0" = some ⟨1, 0, 0, [], []⟩ := by decide +kernel
  have hbegin : Version.semVer? "1.0.0" = some ⟨1, 0, 0, [], []⟩ := by decide +kernel
  have hnone : Version.semVer? "" = none := by decide
  constructor
  · decide
  · refine List.forall_mem_cons.mpr ⟨⟨Or.inl rfl, Or.inr (Or.inl rfl), Or.inl ?_, ?_⟩,
      List.forall_mem_singleton.mpr ⟨Or.inr rfl, Or.inl ?_, Or.inr rfl, ?_⟩⟩
    · exact Option.isSome_of_eq_some hend
    · exact fun a _ ha => absurd (hnone.symm.trans ha) (Option.some_ne_none a).symm
    · exact Option.isSome_of_eq_some hbegin
    · exact fun _ b _ hb => absurd (hnone.symm.trans hb) (Option.some_ne_none b).symm
  · refine List.isChain_cons_cons.mpr ⟨⟨_, _, hend, hbegin, ?_⟩, List.isChain_singleton _⟩
    decide
  · exact ⟨_, List.mem_cons_self, Or.inr (Option.isSome_of_eq_some hend)⟩

/-- At the version where the two spans meet, the second one begins. -/
theorem Coverage.statusAt_read_abutting :
    abutting.IsOrdered ∧ abutting.read.complete = true ∧
      abutting.read.events.toCoverage.statusAt ⟨1, 0, 0, [], []⟩ = .affected := by
  obtain ⟨hcomplete, hread⟩ := statusAt_read_of_isOrdered isOrdered_abutting
  have hstatus : abutting.statusAt ⟨1, 0, 0, [], []⟩ = .affected := by decide +kernel
  exact ⟨isOrdered_abutting, hcomplete, (hread ⟨1, 0, 0, [], []⟩).2.trans hstatus⟩

end AffectedVersions
