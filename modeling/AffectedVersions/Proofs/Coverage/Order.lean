import AffectedVersions.Proofs.Span.Order
import AffectedVersions.Proofs.Timeline.Order
import Mathlib

/-! Coverages whose spans ascend. The events read from them give every version the same status. -/
namespace AffectedVersions

open Version

namespace Span

variable {default : Status}

theorem EndsBefore.isSome {s next : Span} (h : s.EndsBefore next) :
    (semVer? s.fixed).isSome ∧ (semVer? next.introduced).isSome := by
  obtain ⟨b, a, hb, ha, -⟩ := h
  rw [hb, ha]
  exact ⟨rfl, rfl⟩

theorem not_reached_of_mem_versionEvents {version : Text} {x : SemVer} {kind : EventKind}
    {e : Event} (h : isReachedBy version x = false) (he : e ∈ versionEvents kind version) :
    isReachedBy e.version x = false := by
  obtain ⟨hv, rfl⟩ := eq_of_mem_versionEvents he
  exact (isReachedBy_dropV hv x).trans h

theorem not_reached_of_mem_events (hknown : default ≠ .unknown) {s : Span} {rest : List Span}
    (hplain : ∀ p ∈ rest, p.IsPlainAgainst default) (hchain : (s :: rest).IsChain EndsBefore)
    {x : SemVer} (hx : isReachedBy s.fixed x = false) :
    ∀ e ∈ rest.flatMap (·.events default), isReachedBy e.version x = false := by
  induction rest generalizing s with
  | nil => simp
  | cons next rest ih =>
    obtain ⟨hnext, hrest⟩ := List.forall_mem_cons.mp hplain
    obtain ⟨hends, hchain⟩ := List.isChain_cons_cons.mp hchain
    have hlower : isReachedBy next.introduced x = false := hends.isReachedBy_eq_false hx
    have hupper : isReachedBy next.fixed x = false := by
      rcases hnext.fixed with hf | hf
      · obtain ⟨b, hb⟩ := Option.isSome_iff_exists.mp hf
        obtain ⟨-, a, -, ha, -⟩ := hends
        exact NotAfter.isReachedBy_eq_false ⟨a, b, ha, hb, hnext.ascends a b ha hb⟩ hlower
      · rw [hf]
        exact isReachedBy_empty x
    intro e he
    rw [List.flatMap_cons, List.mem_append, events_of_isPlainAgainst hknown hnext,
      List.mem_append] at he
    rcases he with (he | he) | he
    · exact not_reached_of_mem_versionEvents hlower he
    · exact not_reached_of_mem_versionEvents hupper he
    · exact ih hrest hchain hupper e he

theorem statusFrom_events_of_isChain (hknown : default ≠ .unknown) {s : Span} {rest : List Span}
    (hplain : ∀ p ∈ s :: rest, p.IsPlainAgainst default) (hchain : (s :: rest).IsChain EndsBefore)
    (hbounded : s.IsBounded) (x : SemVer) :
    Timeline.statusFrom x (s.statusBefore default) ((s :: rest).flatMap (·.events default)) =
      if (s :: rest).any (·.contains x) then default.opposite else default := by
  induction rest generalizing s with
  | nil =>
    simpa using statusFrom_events hknown (hplain s List.mem_cons_self) hbounded x
  | cons next rest ih =>
    obtain ⟨hs, hrest⟩ := List.forall_mem_cons.mp hplain
    rw [List.flatMap_cons, Timeline.statusFrom_append, statusFrom_events hknown hs hbounded,
      List.any_cons]
    cases hx : s.contains x with
    | true =>
      have hend : isReachedBy s.fixed x = false := by
        rw [contains_eq hs hbounded, Bool.and_eq_true, Bool.not_eq_true'] at hx
        exact hx.2
      rw [Timeline.statusFrom_of_not_reached (not_reached_of_mem_events hknown hrest hchain hend)]
      rfl
    | false =>
      obtain ⟨hends, hchain⟩ := List.isChain_cons_cons.mp hchain
      have hbefore : next.statusBefore default = default := if_pos hends.isSome.2
      have hrest := ih hrest hchain (Or.inl hends.isSome.2)
      rw [hbefore] at hrest
      simpa using hrest

theorem isSome_of_mem_versionEvents {version : Text} {kind : EventKind} {e : Event}
    (he : e ∈ versionEvents kind version) : (semVer? e.version).isSome := by
  obtain ⟨hv, rfl⟩ := eq_of_mem_versionEvents he
  obtain ⟨v, hv⟩ := Option.isSome_iff_exists.mp hv
  exact Option.isSome_of_eq_some (semVer?_dropV hv)

theorem isChain_versionEvents {introduced fixed : Text} (kind : EventKind)
    (h : ∀ a b, semVer? introduced = some a → semVer? fixed = some b → a.notAfter b) :
    (versionEvents kind introduced ++ versionEvents kind.opposite fixed).IsChain
      Event.IsFollowedBy := by
  unfold versionEvents
  split_ifs with hi hf hf
  · obtain ⟨a, ha⟩ := Option.isSome_iff_exists.mp hi
    obtain ⟨b, hb⟩ := Option.isSome_iff_exists.mp hf
    have hab : NotAfter introduced fixed := ⟨a, b, ha, hb, h a b ha hb⟩
    exact List.isChain_cons_cons.mpr ⟨⟨kind.opposite_ne.symm, hab.dropV⟩, List.isChain_singleton _⟩
  · exact List.isChain_singleton _
  · exact List.isChain_singleton _
  · exact List.isChain_nil

/-- The events of ascending spans are in order. -/
theorem isOrdered_events (hknown : default ≠ .unknown) {spans : List Span}
    (hplain : ∀ s ∈ spans, s.IsPlainAgainst default) (hchain : spans.IsChain EndsBefore) :
    Timeline.IsOrdered (spans.flatMap (·.events default)) := by
  induction spans with
  | nil => exact ⟨by simp, List.isChain_nil⟩
  | cons s rest ih =>
    obtain ⟨hs, hrest⟩ := List.forall_mem_cons.mp hplain
    have htail := ih hrest hchain.tail
    rw [List.flatMap_cons, events_of_isPlainAgainst hknown hs]
    constructor
    · intro e he
      rcases List.mem_append.mp he with he | he
      · rcases List.mem_append.mp he with he | he
        · exact isSome_of_mem_versionEvents he
        · exact isSome_of_mem_versionEvents he
      · exact htail.versions e he
    · refine List.isChain_append.mpr ⟨isChain_versionEvents _ hs.ascends, htail.follows, ?_⟩
      cases rest with
      | nil => simp
      | cons next rest =>
        obtain ⟨hends, -⟩ := List.isChain_cons_cons.mp hchain
        have hnext := hrest next List.mem_cons_self
        have hkind : next.openingKind default = s.openingKind default := by
          unfold openingKind
          rw [hs.statusAgainst, hnext.statusAgainst]
        rw [List.flatMap_cons, events_of_isPlainAgainst hknown hnext,
          versionEvents_of_isSome hends.isSome.1, hkind, versionEvents_of_isSome hends.isSome.2]
        intro last hlast first hfirst
        rw [List.getLast?_concat, Option.mem_some_iff] at hlast
        obtain rfl : ⟨s.openingKind default, dropV next.introduced⟩ = first := by
          simpa using hfirst
        rw [← hlast]
        exact ⟨EventKind.opposite_ne _, hends.dropV⟩

end Span

namespace Coverage

/-- The default is known, and each plain span ends where the next one begins or before it. So only
the first one begins before every version, and only the last one has no end. -/
structure IsOrdered (c : Coverage) : Prop where
  known : c.default ≠ .unknown
  plain : ∀ s ∈ c.spans, s.IsPlainAgainst c.default
  ascends : c.spans.IsChain Span.EndsBefore
  bounded : ∃ s ∈ c.spans, s.IsBounded

variable {c : Coverage}

theorem IsOrdered.exists_first (h : c.IsOrdered) :
    ∃ s rest, c.spans = s :: rest ∧ s.IsBounded := by
  obtain ⟨p, hp, hpb⟩ := h.bounded
  obtain ⟨s, rest, hspans⟩ := List.exists_cons_of_ne_nil (List.ne_nil_of_mem hp)
  refine ⟨s, rest, hspans, ?_⟩
  have hchain := h.ascends
  rw [hspans] at hp hchain
  cases rest with
  | nil => rwa [List.mem_singleton.mp hp] at hpb
  | cons next rest => exact Or.inr (List.isChain_cons_cons.mp hchain).1.isSome.1

theorem IsOrdered.statusAt_eq (h : c.IsOrdered) (x : SemVer) :
    c.statusAt x = if c.spans.any (·.contains x) then c.default.opposite else c.default := by
  unfold statusAt
  cases hfind : c.spans.find? (·.contains x) with
  | some s =>
    have hs := List.mem_of_find?_eq_some hfind
    have hx := List.find?_some hfind
    have hany : c.spans.any (·.contains x) = true := List.any_eq_true.mpr ⟨s, hs, hx⟩
    rw [hany, if_pos rfl]
    exact (h.plain s hs).statusAgainst
  | none =>
    have hany : c.spans.any (·.contains x) = false := by
      rw [List.any_eq_false]
      exact List.find?_eq_none.mp hfind
    rw [hany, if_neg Bool.false_ne_true]

theorem IsOrdered.statusBefore_events (h : c.IsOrdered) {s : Span} {rest : List Span}
    (hspans : c.spans = s :: rest) (hbounded : s.IsBounded) :
    c.read.events.statusBefore = s.statusBefore c.default := by
  have hs : s.IsPlainAgainst c.default := h.plain s (by rw [hspans]; exact List.mem_cons_self)
  obtain ⟨hopening, hclosing⟩ := Span.status_openingKind h.known hs
  have hread : c.read.events = s.events c.default ++ rest.flatMap (·.events c.default) := by
    unfold read Reading.ofSpans
    rw [hspans]
    rfl
  rw [hread, Span.events_of_isPlainAgainst h.known hs]
  unfold Span.statusBefore
  by_cases hi : (Version.semVer? s.introduced).isSome
  · rw [if_pos hi, Span.versionEvents_of_isSome hi]
    exact (congrArg Status.opposite hopening).trans (Status.opposite_opposite _)
  · rw [if_neg hi, Span.versionEvents_of_not_isSome hi,
      Span.versionEvents_of_isSome (hbounded.resolve_left hi)]
    exact congrArg Status.opposite hclosing

theorem IsOrdered.statusAt_read (h : c.IsOrdered) (x : SemVer) :
    c.read.events.statusAt x = c.statusAt x := by
  obtain ⟨s, rest, hspans, hbounded⟩ := h.exists_first
  have hplain := h.plain
  have hchain := h.ascends
  rw [hspans] at hplain hchain
  rw [Timeline.statusAt_eq_statusFrom, h.statusBefore_events hspans hbounded, h.statusAt_eq, hspans,
    ← Span.statusFrom_events_of_isChain h.known hplain hchain hbounded, ← hspans]
  rfl

theorem IsOrdered.isOrdered_events (h : c.IsOrdered) : c.read.events.IsOrdered :=
  Span.isOrdered_events h.known h.plain h.ascends

theorem IsOrdered.complete_read (h : c.IsOrdered) : c.read.complete = true := by
  apply List.all_eq_true.mpr
  intro s hs
  exact Span.isRepresentable_of_opposite h.known (h.plain s hs).statusAgainst

end Coverage

end AffectedVersions
