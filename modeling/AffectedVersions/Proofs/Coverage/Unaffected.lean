import AffectedVersions.Proofs.Coverage.Canonical
import AffectedVersions.Proofs.Span.Gaps
import AffectedVersions.Proofs.Span.Void
import Mathlib

/-! Coverages under which no version is affected, laid out anew from their events. -/
namespace AffectedVersions

open Version

namespace Span

variable {s : Span} {rest spans : List Span} {default : Status}

theorem events_of_affected (hplain : s.HasPlainEnds) (hdefault : default ≠ .affected)
    (hstatus : s.statusAgainst default = .affected) :
    s.events default = versionEvents .introduced s.introduced ++
      if s.fixed = "" then [] else [⟨.fixed, dropV s.fixed⟩] := by
  have hopening : s.openingKind default = .introduced := if_pos hstatus
  have hknown : s.statusAgainst default ≠ .unknown := by
    rw [hstatus]
    decide
  have hother : s.statusAgainst default ≠ default := by
    rw [hstatus]
    exact hdefault.symm
  rw [events_of_hasPlainEnds hplain hknown hother, hopening]
  rfl

theorem events_of_unaffected (hplain : s.HasPlainEnds)
    (hstatus : s.statusAgainst .affected = .unaffected) :
    s.events .affected = versionEvents .fixed s.introduced ++
      if s.fixed = "" then [] else [⟨.introduced, dropV s.fixed⟩] := by
  have hopening : s.openingKind .affected = .fixed := by
    unfold openingKind
    rw [hstatus]
    rfl
  have hknown : s.statusAgainst .affected ≠ .unknown := by
    rw [hstatus]
    decide
  have hother : s.statusAgainst .affected ≠ .affected := by
    rw [hstatus]
    decide
  rw [events_of_hasPlainEnds hplain hknown hother, hopening]
  rfl

theorem flatMap_events_of_affected (hplain : ∀ p ∈ spans, p.HasPlainEnds)
    (hdefault : default ≠ .affected) (hstatus : ∀ p ∈ spans, p.statusAgainst default = .affected)
    (hbegins : ∀ p ∈ spans, (semVer? p.introduced).isSome) (hends : ∀ p ∈ spans, p.fixed ≠ "") :
    spans.flatMap (·.events default) = (spans.map bare).flatMap Layout.closed.endsOf := by
  rw [List.flatMap_map]
  apply List.flatMap_congr
  intro p hp
  rw [events_of_affected (hplain p hp) hdefault (hstatus p hp), versionEvents_of_isSome (hbegins p hp),
    if_neg (hends p hp)]
  rfl

theorem flatMap_events_of_unaffected (hplain : ∀ p ∈ s :: rest, p.HasPlainEnds)
    (hstatus : ∀ p ∈ s :: rest, p.statusAgainst .affected = .unaffected)
    (hchain : (s :: rest).IsChain IsFollowedBy)
    (hlast : ∀ last ∈ (s :: rest).getLast?, last.fixed = "") :
    (s :: rest).flatMap (·.events .affected) =
      versionEvents .fixed s.introduced ++ (gaps (s :: rest)).flatMap Layout.closed.endsOf := by
  induction rest generalizing s with
  | nil =>
    have hevents := events_of_unaffected (hplain s List.mem_cons_self) (hstatus s List.mem_cons_self)
    rw [List.flatMap_singleton, hevents, if_pos (hlast s rfl)]
    rfl
  | cons next rest ih =>
    obtain ⟨hs, hrest⟩ := List.forall_mem_cons.mp hplain
    obtain ⟨hsstatus, hreststatus⟩ := List.forall_mem_cons.mp hstatus
    obtain ⟨hfollows, htail⟩ := List.isChain_cons_cons.mp hchain
    rw [List.flatMap_cons, events_of_unaffected hs hsstatus, if_neg hfollows.ends,
      ih hrest hreststatus htail hlast, versionEvents_of_isSome hfollows.begins, gaps_cons_cons,
      List.append_assoc]
    rfl

end Span

namespace Coverage

/-- No version is affected. -/
def AffectsNothing (c : Coverage) : Prop :=
  ∀ version x, semVer? version = some x → c.statusAt x ≠ .affected

def properSpans (c : Coverage) : List Span := c.spans.filter (!·.isEmpty)

/-- Of spans that are not empty only the first may begin before every version. All are affected if
the default is unknown, and if it is affected, their beginnings and their ends ascend. -/
structure IsInOrder (c : Coverage) : Prop where
  known : c.default = .unknown → ∀ s ∈ c.properSpans, s.status = some .affected
  begins : c.default ≠ .affected → ∀ s ∈ c.properSpans.tail, (semVer? s.introduced).isSome
  follows : c.default = .affected → c.properSpans.IsChain Span.IsFollowedBy

instance (c : Coverage) : Decidable c.IsInOrder :=
  decidable_of_iff
    ((c.default = .unknown → ∀ s ∈ c.properSpans, s.status = some .affected) ∧
      (c.default ≠ .affected → ∀ s ∈ c.properSpans.tail, (semVer? s.introduced).isSome) ∧
      (c.default = .affected → c.properSpans.IsChain Span.IsFollowedBy))
    ⟨fun ⟨h₁, h₂, h₃⟩ => ⟨h₁, h₂, h₃⟩, fun ⟨h₁, h₂, h₃⟩ => ⟨h₁, h₂, h₃⟩⟩

variable {c : Coverage}

theorem mem_properSpans_iff {s : Span} :
    s ∈ c.properSpans ↔ s ∈ c.spans ∧ s.isEmpty = false := by
  unfold properSpans
  rw [List.mem_filter, Bool.not_eq_true']

theorem events_read (c : Coverage) :
    c.read.events = c.properSpans.flatMap (·.events c.default) := by
  have hfilter : ∀ spans : List Span, spans.flatMap (·.events c.default) =
      (spans.filter (!·.isEmpty)).flatMap (·.events c.default) := by
    intro spans
    induction spans with
    | nil => rfl
    | cons s rest ih =>
      rw [List.flatMap_cons, ih, List.filter_cons]
      cases he : s.isEmpty with
      | true =>
        have hevents : s.events c.default = [] := by
          unfold Span.events
          rw [he]
          rfl
        rw [hevents]
        rfl
      | false => rfl
  exact hfilter c.spans

theorem statusAgainst_ne_of_complete (h : c.read.complete = true) {s : Span}
    (hs : s ∈ c.properSpans) :
    s.statusAgainst c.default ≠ .unknown ∧ s.statusAgainst c.default ≠ c.default := by
  obtain ⟨hmem, hne⟩ := mem_properSpans_iff.mp hs
  have hrepresentable : s.isRepresentable c.default = true := List.all_eq_true.mp h s hmem
  simpa [Span.isRepresentable, hne] using hrepresentable

theorem statusAgainst_eq_unaffected (hdefault : c.default = .affected) (h : c.read.complete = true)
    {s : Span} (hs : s ∈ c.properSpans) : s.statusAgainst .affected = .unaffected := by
  have hstatus := statusAgainst_ne_of_complete h hs
  rw [hdefault] at hstatus
  revert hstatus
  cases s.statusAgainst .affected <;> decide

theorem IsInOrder.statusAgainst_eq_affected (horder : c.IsInOrder) (hdefault : c.default ≠ .affected)
    (h : c.read.complete = true) {s : Span} (hs : s ∈ c.properSpans) :
    s.statusAgainst c.default = .affected := by
  have hstatus := statusAgainst_ne_of_complete h hs
  cases hc : c.default with
  | affected => exact absurd hc hdefault
  | unaffected =>
    rw [hc] at hstatus
    revert hstatus
    cases s.statusAgainst .unaffected <;> decide
  | unknown =>
    unfold Span.statusAgainst
    rw [horder.known hc s hs]
    rfl

theorem AffectsNothing.exists_contains (h : c.AffectsNothing) (hdefault : c.default = .affected)
    {version : Text} {x : SemVer} (hx : semVer? version = some x) :
    ∃ s ∈ c.properSpans, s.contains x = true := by
  cases hfind : c.spans.find? (·.contains x) with
  | some s =>
    have hs := List.find?_some hfind
    exact ⟨s, mem_properSpans_iff.mpr
      ⟨List.mem_of_find?_eq_some hfind, Span.isEmpty_eq_false_of_contains hs⟩, hs⟩
  | none =>
    have hstatus : c.statusAt x = .affected := by
      unfold statusAt
      rw [hfind]
      exact hdefault
    exact absurd hstatus (h version x hx)

theorem AffectsNothing.holdsNothing (h : c.AffectsNothing)
    (hstatus : ∀ s ∈ c.properSpans, s.statusAgainst c.default = .affected) {s : Span}
    (hs : s ∈ c.properSpans) : s.HoldsNothing := by
  intro version x hx
  rw [← Bool.not_eq_true]
  intro hsx
  obtain ⟨first, hfirst⟩ : ∃ first, c.spans.find? (·.contains x) = some first :=
    Option.isSome_iff_exists.mp (List.find?_isSome.mpr ⟨s, (mem_properSpans_iff.mp hs).1, hsx⟩)
  have hfirstx := List.find?_some hfirst
  have hproper : first ∈ c.properSpans := mem_properSpans_iff.mpr
    ⟨List.mem_of_find?_eq_some hfirst, Span.isEmpty_eq_false_of_contains hfirstx⟩
  have haffected : c.statusAt x = .affected := by
    unfold statusAt
    rw [hfirst]
    exact hstatus first hproper
  exact h version x hx haffected

theorem affectsNothing_of_holdsNothing {spans : List Span} (h : ∀ s ∈ spans, s.HoldsNothing) :
    AffectsNothing ⟨spans, .unaffected⟩ := by
  intro version x hx
  have hnone : spans.find? (·.contains x) = none := by
    rw [List.find?_eq_none]
    intro s hs
    rw [h s hs version x hx]
    exact Bool.false_ne_true
  have hstatus : statusAt ⟨spans, .unaffected⟩ x = .unaffected := by
    unfold statusAt
    rw [hnone]
  rw [hstatus]
  decide

theorem affectsNothing_toCoverage {spans : List Span} (h : ∀ s ∈ spans, s.IsVoid)
    (hne : spans ≠ []) :
    (Timeline.toCoverage (spans.flatMap Layout.closed.endsOf)).AffectsNothing := by
  rw [Layout.toCoverage_flatMap_endsOf (fun s hs => (h s hs).layout) (fun s hs => (h s hs).plain) hne]
  exact affectsNothing_of_holdsNothing fun s hs => (h s hs).holdsNothing

theorem affectsNothing_toCoverage_cons {spans : List Span} {fixed : Text}
    (h : ∀ s ∈ spans, s.IsVoid) (hfixed : IsPlain fixed)
    (hfirst : (Layout.closed.span genesis fixed).HoldsNothing) :
    (Timeline.toCoverage (⟨.fixed, fixed⟩ :: spans.flatMap Layout.closed.endsOf)).AffectsNothing := by
  have hcoverage : Timeline.toCoverage (⟨.fixed, fixed⟩ :: spans.flatMap Layout.closed.endsOf) =
      ⟨Layout.closed.span genesis fixed :: spans, .unaffected⟩ :=
    Layout.toCoverage_cons_flatMap_endsOf hfixed (fun s hs => (h s hs).layout)
      (fun s hs => (h s hs).plain)
  have hvoid : ∀ s ∈ Layout.closed.span genesis fixed :: spans, s.HoldsNothing :=
    List.forall_mem_cons.mpr ⟨hfirst, fun s hs => (h s hs).holdsNothing⟩
  rw [hcoverage]
  exact affectsNothing_of_holdsNothing hvoid

variable {s : Span} {rest : List Span} {default : Status}

theorem affectsNothing_toCoverage_of_holdsNothing (hplain : ∀ p ∈ s :: rest, p.HasPlainEnds)
    (hproper : ∀ p ∈ s :: rest, p.isEmpty = false)
    (hdefault : default ≠ .affected)
    (hstatus : ∀ p ∈ s :: rest, p.statusAgainst default = .affected)
    (hbegins : ∀ p ∈ rest, (semVer? p.introduced).isSome)
    (hnone : ∀ p ∈ s :: rest, p.HoldsNothing) :
    (Timeline.toCoverage ((s :: rest).flatMap (·.events default))).AffectsNothing := by
  have hends : ∀ p ∈ s :: rest, p.fixed ≠ "" := fun p hp hfixed =>
    Span.not_holdsNothing_of_fixed_eq_empty (hplain p hp) (hproper p hp) hfixed (hnone p hp)
  have hvoid : ∀ p ∈ s :: rest, (semVer? p.introduced).isSome → p.bare.IsVoid := fun p hp hi =>
    (hnone p hp).isVoid_bare (hplain p hp) hi (hends p hp)
  obtain ⟨hs, hplainRest⟩ := List.forall_mem_cons.mp hplain
  obtain ⟨hsends, hendsRest⟩ := List.forall_mem_cons.mp hends
  obtain ⟨hsstatus, hstatusRest⟩ := List.forall_mem_cons.mp hstatus
  rcases hs.introduced with hversion | hunbounded
  · have hall : ∀ p ∈ s :: rest, (semVer? p.introduced).isSome :=
      List.forall_mem_cons.mpr ⟨hversion, hbegins⟩
    rw [Span.flatMap_events_of_affected hplain hdefault hstatus hall hends]
    refine affectsNothing_toCoverage ?_ (List.cons_ne_nil _ _)
    exact List.forall_mem_map.mpr fun p hp => hvoid p hp (hall p hp)
  · have hfirst := Span.not_isSome_semVer?_of_unbounded hunbounded
    have hrest := Span.flatMap_events_of_affected hplainRest hdefault hstatusRest hbegins hendsRest
    rw [List.flatMap_cons, hrest, Span.events_of_affected hs hdefault hsstatus,
      Span.versionEvents_of_not_isSome hfirst, if_neg hsends]
    refine affectsNothing_toCoverage_cons ?_ (Span.isPlain_dropV_fixed hs hsends)
      ((hnone s List.mem_cons_self).ofGenesis hs hunbounded hsends)
    exact List.forall_mem_map.mpr fun p hp => hvoid p (List.mem_cons_of_mem _ hp) (hbegins p hp)

theorem affectsNothing_toCoverage_of_exists_contains (hplain : ∀ p ∈ s :: rest, p.HasPlainEnds)
    (hstatus : ∀ p ∈ s :: rest, p.statusAgainst .affected = .unaffected)
    (hchain : (s :: rest).IsChain Span.IsFollowedBy)
    (hheld : ∀ version x, semVer? version = some x → ∃ p ∈ s :: rest, p.contains x = true)
    (hne : (s :: rest).flatMap (·.events .affected) ≠ []) :
    (Timeline.toCoverage ((s :: rest).flatMap (·.events .affected))).AffectsNothing := by
  have hsome : ∀ version x, semVer? version = some x → ¬∀ p ∈ s :: rest, p.contains x = false := by
    intro version x hx hnone
    obtain ⟨p, hp, hpx⟩ := hheld version x hx
    rw [hnone p hp] at hpx
    exact Bool.noConfusion hpx
  have hlast : ∀ last ∈ (s :: rest).getLast?, last.fixed = "" := by
    intro last hlast
    by_contra hends
    have hmem := List.mem_of_getLast? hlast
    obtain ⟨version, x, hx, hended⟩ := Span.exists_not_isOpenAt (hplain last hmem) hends
    exact hsome version x hx (Span.not_contains_of_not_isOpenAt hchain hlast hended)
  have hvoid : ∀ gap ∈ Span.gaps (s :: rest), gap.IsVoid := by
    intro gap hgap
    refine ⟨Span.span_eq_of_mem_gaps hgap, Span.isPlain_of_mem_gaps hplain hchain gap hgap, ?_⟩
    intro version x hx
    by_contra hgapx
    rw [Bool.not_eq_false] at hgapx
    exact hsome version x hx (Span.not_contains_of_mem_gaps hplain hchain hgap hgapx).2
  rw [Span.flatMap_events_of_unaffected hplain hstatus hchain hlast] at hne ⊢
  by_cases hi : (semVer? s.introduced).isSome
  · rw [Span.versionEvents_of_isSome hi]
    refine affectsNothing_toCoverage_cons hvoid (isPlain_dropV_of_isSome hi) ?_
    intro version x hx
    by_contra hgapx
    rw [Bool.not_eq_false, Span.contains_eq_hasBegunAt_and_isOpenAt, Bool.and_eq_true,
      Span.isOpenAt_of_fixed_eq rfl hi, Bool.not_eq_true'] at hgapx
    exact hsome version x hx (Span.not_contains_of_not_hasBegunAt hplain hchain hgapx.2)
  · rw [Span.versionEvents_of_not_isSome hi, List.nil_append] at hne ⊢
    refine affectsNothing_toCoverage hvoid ?_
    intro hgaps
    rw [hgaps] at hne
    exact hne rfl

/-- A coverage in order that affects nothing is laid out as one that affects nothing. -/
theorem affectsNothing_toCoverage_read (hplain : ∀ s ∈ c.spans, s.HasPlainEnds)
    (hcomplete : c.read.complete = true) (horder : c.IsInOrder) (hevents : c.read.events ≠ [])
    (h : c.AffectsNothing) : c.read.events.toCoverage.AffectsNothing := by
  have hproper : ∀ s ∈ c.properSpans, s.HasPlainEnds ∧ s.isEmpty = false := fun s hs =>
    ⟨hplain s (mem_properSpans_iff.mp hs).1, (mem_properSpans_iff.mp hs).2⟩
  rw [events_read] at hevents ⊢
  cases hspans : c.properSpans with
  | nil =>
    rw [hspans] at hevents
    exact absurd rfl hevents
  | cons s rest =>
    rw [hspans] at hproper hevents
    have hplain : ∀ p ∈ s :: rest, p.HasPlainEnds := fun p hp => (hproper p hp).1
    by_cases hdefault : c.default = .affected
    · have hstatus : ∀ p ∈ c.properSpans, p.statusAgainst .affected = .unaffected := fun p hp =>
        statusAgainst_eq_unaffected hdefault hcomplete hp
      have hheld : ∀ version x, semVer? version = some x →
          ∃ p ∈ c.properSpans, p.contains x = true := fun version x hx =>
        h.exists_contains hdefault hx
      have hchain := horder.follows hdefault
      rw [hspans] at hstatus hheld hchain
      rw [hdefault] at hevents ⊢
      exact affectsNothing_toCoverage_of_exists_contains hplain hstatus hchain hheld hevents
    · have hstatus : ∀ p ∈ c.properSpans, p.statusAgainst c.default = .affected := fun p hp =>
        horder.statusAgainst_eq_affected hdefault hcomplete hp
      have hnone : ∀ p ∈ c.properSpans, p.HoldsNothing := fun p hp => h.holdsNothing hstatus hp
      have hbegins := horder.begins hdefault
      rw [hspans] at hstatus hnone hbegins
      exact affectsNothing_toCoverage_of_holdsNothing hplain (fun p hp => (hproper p hp).2) hdefault
        hstatus hbegins hnone

theorem not_affectsNothing (version : Text)
    (h : (semVer? version).map c.statusAt = some .affected) : ¬c.AffectsNothing := by
  obtain ⟨x, hx, hstatus⟩ := Option.map_eq_some_iff.mp h
  exact fun hnothing => hnothing version x hx hstatus

theorem affectsNothing_of_statusAgainst (hstatus : ∀ s ∈ c.spans, s.statusAgainst c.default ≠ .affected)
    (h : c.default = .affected → ∀ x, ∃ s ∈ c.spans, s.contains x = true) : c.AffectsNothing := by
  intro version x _
  unfold statusAt
  cases hfind : c.spans.find? (·.contains x) with
  | some s => exact hstatus s (List.mem_of_find?_eq_some hfind)
  | none =>
    intro hdefault
    obtain ⟨s, hs, hsx⟩ := h hdefault x
    exact List.find?_eq_none.mp hfind s hs hsx

end Coverage

namespace Entry

/-- The coverage that the entry stands for where it leaves its default to `assumed`. -/
def coverageAgainst (e : Entry) (assumed : Status) : Coverage := ⟨e.spans, e.defaultOr assumed⟩

/-- A module that is not affected stays so, if it has events and its spans are in order. -/
theorem affectsNothing_toHistory_of_isInOrder {e : Entry} {assumed : Status}
    (hplain : ∀ s ∈ e.spans, s.HasPlainEnds) (hcomplete : (e.toHistory assumed).complete = true)
    (horder : (e.coverageAgainst assumed).IsInOrder) (hevents : (e.toHistory assumed).events ≠ [])
    (h : (e.coverageAgainst assumed).AffectsNothing) :
    (e.toHistory assumed).events.toCoverage.AffectsNothing := by
  have hread : (e.coverageAgainst assumed).read = e.reading assumed := rfl
  unfold toHistory at *
  rw [← hread] at *
  exact Coverage.affectsNothing_toCoverage_read hplain hcomplete horder hevents h

/-- An entry whose spans have these ends and all the same status. -/
def listing (default status : Status) (ends : List (Text × Text)) : Entry where
  module := "m"
  spans := ends.map fun (introduced, fixed) =>
    { introduced := introduced, fixed := fixed, status := some status }
  default := some default

/-- Two of the gaps meet, so that they hold every version. -/
theorem affectsNothing_listing {ends : List (Text × Text)} (version : Text) (assumed : Status)
    (hversion : (semVer? version).isSome) (hfirst : (genesis, version) ∈ ends)
    (hlast : (version, ("" : Text)) ∈ ends) :
    ((listing .affected .unaffected ends).coverageAgainst assumed).AffectsNothing := by
  apply Coverage.affectsNothing_of_statusAgainst
  · refine List.forall_mem_map.mpr fun p _ => ?_
    change Status.unaffected ≠ .affected
    decide
  · intro _ x
    have hheld : (⟨genesis, version, some .unaffected, "semver"⟩ : Span).contains x = true ∨
        (⟨version, "", some .unaffected, "semver"⟩ : Span).contains x = true := by
      apply Span.contains_or_contains
      · rfl
      · rfl
      · exact hversion
      · rfl
    rcases hheld with hx | hx
    · exact ⟨_, List.mem_map_of_mem hfirst, hx⟩
    · exact ⟨_, List.mem_map_of_mem hlast, hx⟩

/-- Overlapping spans that hold every version, and an empty one. -/
def overlapping : Entry :=
  listing .affected .unaffected [("0", "1.0.0"), ("", ""), ("0.5.0", "2.0.0"), ("1.0.0", "")]

theorem affectsNothing_toHistory_of_isInOrder_overlapping :
    (∀ s ∈ overlapping.spans, s.HasPlainEnds) ∧
      (overlapping.coverageAgainst .unaffected).IsInOrder ∧
      (overlapping.coverageAgainst .unaffected).AffectsNothing ∧
      (overlapping.toHistory .unaffected).complete = true ∧
      (overlapping.toHistory .unaffected).events = [⟨.introduced, "1.0.0"⟩, ⟨.fixed, "0.5.0"⟩,
        ⟨.introduced, "2.0.0"⟩, ⟨.fixed, "1.0.0"⟩] ∧
      (overlapping.toHistory .unaffected).events.toCoverage.AffectsNothing := by
  have hplain : ∀ s ∈ overlapping.spans, s.HasPlainEnds := by decide +kernel
  have hcomplete : (overlapping.toHistory .unaffected).complete = true := by decide +kernel
  have horder : (overlapping.coverageAgainst .unaffected).IsInOrder := by decide +kernel
  have hevents : (overlapping.toHistory .unaffected).events = [⟨.introduced, "1.0.0"⟩,
      ⟨.fixed, "0.5.0"⟩, ⟨.introduced, "2.0.0"⟩, ⟨.fixed, "1.0.0"⟩] := by decide +kernel
  have hne : (overlapping.toHistory .unaffected).events ≠ [] := by
    rw [hevents]
    exact List.cons_ne_nil _ _
  have hnothing : (overlapping.coverageAgainst .unaffected).AffectsNothing :=
    affectsNothing_listing "1.0.0" .unaffected (by decide +kernel) (by decide) (by decide)
  exact ⟨hplain, horder, hnothing, hcomplete, hevents,
    affectsNothing_toHistory_of_isInOrder hplain hcomplete horder hne hnothing⟩

/-- Nothing is affected under the entry, but its complete events are laid out with affected spans. -/
structure TurnsAffected (e : Entry) (assumed : Status) : Prop where
  plain : ∀ s ∈ e.spans, s.HasPlainEnds
  complete : (e.toHistory assumed).complete = true
  before : (e.coverageAgainst assumed).AffectsNothing
  after : ¬(e.toHistory assumed).events.toCoverage.AffectsNothing

/-- Without events everything is affected, and no layout has an unknown default. Only the first span
may begin before every version, and against an affected default the ends have to ascend. -/
theorem turnsAffected_listing :
    (listing .unaffected .affected []).TurnsAffected .unaffected ∧
      (listing .unknown .unaffected [("1.0.0", "2.0.0")]).TurnsAffected .unaffected ∧
      (listing .unaffected .affected
        [("1.0.0", "1.0.0"), ("0", "0"), ("3.0.0", "3.0.0")]).TurnsAffected .unaffected ∧
      (listing .affected .unaffected
        [("0", "1.0.0"), ("0", "2.0.0"), ("2.0.0", "")]).TurnsAffected .unaffected ∧
      (listing .affected .unaffected [("1.0.0", ""), ("0", "1.0.0")]).TurnsAffected .unaffected ∧
      (listing .affected .unaffected
        [("0", "5.0.0"), ("6.0.0", "7.0.0"), ("5.0.0", "")]).TurnsAffected .unaffected ∧
      (listing .affected .unaffected
        [("0", "3.0.0"), ("1.0.0", "2.0.0"), ("3.0.0", "")]).TurnsAffected .unaffected := by
  refine ⟨⟨by decide, by decide, ?_, ?_⟩, ⟨by decide +kernel, by decide +kernel, ?_, ?_⟩,
    ⟨by decide +kernel, by decide +kernel, ?_, ?_⟩, ⟨by decide +kernel, by decide +kernel, ?_, ?_⟩,
    ⟨by decide +kernel, by decide +kernel, ?_, ?_⟩, ⟨by decide +kernel, by decide +kernel, ?_, ?_⟩,
    ⟨by decide +kernel, by decide +kernel, ?_, ?_⟩⟩
  · exact Coverage.affectsNothing_of_holdsNothing fun s hs => absurd hs List.not_mem_nil
  · exact Coverage.not_affectsNothing "1.0.0" (by decide +kernel)
  · exact Coverage.affectsNothing_of_statusAgainst (by decide) fun h => absurd h (by decide)
  · exact Coverage.not_affectsNothing "3.0.0" (by decide +kernel)
  · apply Coverage.affectsNothing_of_holdsNothing
    exact List.forall_mem_map.mpr fun p hp =>
      Span.holdsNothing_of_eq (by revert p; decide +kernel) (by revert p; decide)
  · exact Coverage.not_affectsNothing "2.0.0" (by decide +kernel)
  · exact affectsNothing_listing "2.0.0" _ (by decide +kernel) (by decide) (by decide)
  · exact Coverage.not_affectsNothing "1.5.0" (by decide +kernel)
  · exact affectsNothing_listing "1.0.0" _ (by decide +kernel) (by decide) (by decide)
  · exact Coverage.not_affectsNothing "3.0.0" (by decide +kernel)
  · exact affectsNothing_listing "5.0.0" _ (by decide +kernel) (by decide) (by decide)
  · exact Coverage.not_affectsNothing "5.5.0" (by decide +kernel)
  · exact affectsNothing_listing "3.0.0" _ (by decide +kernel) (by decide) (by decide)
  · exact Coverage.not_affectsNothing "2.5.0" (by decide +kernel)

end Entry

end AffectedVersions
