import AffectedVersions.Proofs.Span.Constraint
import AffectedVersions.Proofs.Timeline.RoundTrip
import Mathlib

/-! Versions with and without a "v" before them are read alike. -/
namespace AffectedVersions

open Version

namespace Version

/-- A version as it is written, without a "v" before it and with one. -/
def spellings (version : Text) : List Text := [version, "v" ++ version]

theorem toList_withV (version : Text) : ("v" ++ version).toList = ('v' : Letter) :: version.toList :=
  Text.toList_append

theorem dropV_withV (version : Text) : dropV ("v" ++ version) = version := by
  rw [← Text.toList_inj, toList_dropV, toList_withV]
  rfl

theorem dropV_of_mem_spellings {version other : Text} (hv : version.toList.head? ≠ some ('v' : Letter))
    (h : other ∈ spellings version) : dropV other = version := by
  rcases List.mem_pair.mp h with rfl | rfl
  · exact (dropV_eq_self_iff _).mpr hv
  · exact dropV_withV version

/-- The text is not empty and begins with neither a "v" nor a blank. -/
structure IsBare (version : Text) : Prop where
  ne_empty : version ≠ ""
  no_v : version.toList.head? ≠ some ('v' : Letter)
  no_blank : ∀ c ∈ version.toList.head?, Text.isBlank c = false

instance (version : Text) : Decidable (IsBare version) :=
  decidable_of_iff (version ≠ "" ∧ version.toList.head? ≠ some ('v' : Letter) ∧
      version.toList.head?.any Text.isBlank = false)
    ⟨fun h => ⟨h.1, h.2.1, (Option.any_eq_false _ _).mp h.2.2⟩,
      fun h => ⟨h.ne_empty, h.no_v, (Option.any_eq_false _ _).mpr h.no_blank⟩⟩

theorem IsBare.toList_trim {version : Text} (h : IsBare version) :
    (Text.trim version).toList = Text.trimRight version.toList := by
  rw [Text.toList_trim, (Text.trimLeft_eq_self_iff _).mpr h.no_blank]

/-- A "v" before the text shields no blank from being trimmed, and it is dropped after that. -/
theorem IsBare.dropV_trim_of_mem_spellings {version other : Text} (h : IsBare version)
    (hother : other ∈ spellings version) : dropV (Text.trim other) = dropV (Text.trim version) := by
  rcases List.mem_pair.mp hother with rfl | rfl
  · rfl
  obtain ⟨c, cs, hcons⟩ : ∃ c cs, version.toList = c :: cs :=
    List.exists_cons_of_ne_nil (mt Text.toList_eq_nil_iff.mp h.ne_empty)
  have hc : Text.isBlank c = false := h.no_blank c (by simp [hcons])
  have hv : Text.isBlank ('v' : Letter) = false := by decide
  have hmarked : Text.trim ("v" ++ version) = "v" ++ Text.trim version := by
    rw [← Text.toList_inj, toList_withV, h.toList_trim, Text.toList_trim, toList_withV,
      (Text.trimLeft_eq_self_iff (('v' : Letter) :: version.toList)).mpr (by simp [hv]),
      Text.trimRight_cons hv]
  have hbare : dropV (Text.trim version) = Text.trim version := by
    rw [dropV_eq_self_iff, h.toList_trim, hcons, Text.trimRight_cons hc]
    have hhead := h.no_v
    rwa [hcons] at hhead
  rw [hmarked, dropV_withV, hbare]

theorem IsBare.ne_empty_of_mem_spellings {version other : Text} (h : IsBare version)
    (hother : other ∈ spellings version) : other ≠ "" := by
  rcases List.mem_pair.mp hother with rfl | rfl
  · exact h.ne_empty
  · rw [← Text.toList_inj.ne, toList_withV]
    exact List.cons_ne_nil _ _

end Version

/-- The same event with its version in one of its spellings. -/
structure Event.IsSpelling (e other : Event) : Prop where
  kind : other.kind = e.kind
  version : other.version ∈ spellings e.version

/-- Two events that differ in nothing but a "v" before their versions are read as the same event. -/
theorem Event.normalized_of_isSpelling {e other : Event} (hv : e.version.toList.head? ≠ some ('v' : Letter))
    (h : e.IsSpelling other) : other.normalized = e.normalized := by
  unfold normalized
  rw [Event.mk.injEq]
  exact ⟨h.kind, (dropV_of_mem_spellings hv h.version).trans ((dropV_eq_self_iff _).mpr hv).symm⟩

theorem Event.kind_of_normalized {e other : Event} (h : other.normalized = e.normalized) :
    other.kind = e.kind := by
  have hkind : other.normalized.kind = e.normalized.kind := congrArg Event.kind h
  exact hkind

theorem Event.semVer?_of_normalized {e other : Event} (h : other.normalized = e.normalized) :
    semVer? other.version = semVer? e.version := by
  have hversion : other.normalized.version = e.normalized.version := congrArg Event.version h
  exact congrArg SemVer.ofText? hversion

namespace Timeline

variable {t other : Timeline}

/-- Any of the events have a "v" before their versions, and the others are as they were. -/
def IsSpelling (t other : Timeline) : Prop := List.Forall₂ Event.IsSpelling t other

theorem normalized_of_isSpelling (hv : ∀ e ∈ t, e.version.toList.head? ≠ some ('v' : Letter))
    (h : t.IsSpelling other) : other.normalized = t.normalized := by
  induction h with
  | nil => rfl
  | cons hfirst _ ih =>
    obtain ⟨hv, hvrest⟩ := List.forall_mem_cons.mp hv
    exact congrArg₂ List.cons (Event.normalized_of_isSpelling hv hfirst) (ih hvrest)

theorem layout_normalized (t : Timeline) : t.normalized.layout = t.layout := by
  unfold layout
  rw [getLast?_normalized, Option.map_map]
  rfl

theorem normalized_eq_nil_iff (t : Timeline) : t.normalized = [] ↔ t = [] := List.map_eq_nil_iff

/-- The coverage of a timeline comes from its normalized events alone. -/
theorem toCoverage_congr (h : other.normalized = t.normalized) :
    other.toCoverage = t.toCoverage := by
  have hlayout : other.layout = t.layout := by
    rw [← layout_normalized, h, layout_normalized]
  have hempty : other = [] ↔ t = [] := by
    rw [← normalized_eq_nil_iff, h, normalized_eq_nil_iff]
  unfold toCoverage spans
  rw [h, hlayout]
  simp only [hempty]

/-- Each event is normalized to the one at its place in the other timeline. -/
theorem forall₂_normalized (h : other.normalized = t.normalized) :
    List.Forall₂ (fun e e' => e.normalized = e'.normalized) other t := by
  have hequal : List.Forall₂ Eq (other.map Event.normalized) (t.map Event.normalized) := by
    rw [List.forall₂_eq_eq_eq]
    exact h
  rwa [List.forall₂_map_left_iff, List.forall₂_map_right_iff] at hequal

theorem length_versionIssues_congr (h : other.normalized = t.normalized) :
    other.versionIssues.length = t.versionIssues.length := by
  have hcount : ∀ t : Timeline, t.versionIssues.length =
      t.normalized.countP fun e => (SemVer.ofText? e.version).isNone := by
    intro t
    unfold versionIssues normalized
    rw [List.length_map, ← List.countP_eq_length_filter, List.countP_map]
    rfl
  rw [hcount, hcount, h]

theorem length_stepIssues_congr {earlier later earlier' later' : Event}
    (hearlier : earlier'.normalized = earlier.normalized)
    (hlater : later'.normalized = later.normalized) :
    (stepIssues earlier' later').length = (stepIssues earlier later).length := by
  have hfollows : later'.doesNotFollow earlier' = later.doesNotFollow earlier := by
    unfold Event.doesNotFollow
    rw [Event.semVer?_of_normalized hearlier, Event.semVer?_of_normalized hlater]
  unfold stepIssues
  rw [List.length_append, List.length_append, Event.kind_of_normalized hearlier,
    Event.kind_of_normalized hlater, hfollows]
  split_ifs <;> rfl

theorem length_steps_congr
    (h : List.Forall₂ (fun e e' => e.normalized = e'.normalized) other t) :
    ((other.zip other.tail).flatMap fun (earlier, later) => stepIssues earlier later).length =
      ((t.zip t.tail).flatMap fun (earlier, later) => stepIssues earlier later).length := by
  induction h with
  | nil => rfl
  | cons hfirst hrest ih =>
    cases hrest with
    | nil => rfl
    | cons hnext _ =>
      simp only [List.tail_cons, List.zip_cons_cons, List.flatMap_cons, List.length_append] at ih ⊢
      rw [ih, length_stepIssues_congr hfirst hnext]

/-- The lint counts by the normalized events, but quotes the versions as they are written. -/
theorem length_lint_congr (h : other.normalized = t.normalized) :
    other.lint.length = t.lint.length := by
  unfold lint
  rw [List.length_append, List.length_append, length_versionIssues_congr h,
    length_steps_congr (forall₂_normalized h)]

end Timeline

/-- The second round trip differs from the first in no more than its versions and its messages. -/
structure RoundTrip.IsAlike (r other : RoundTrip) : Prop where
  coverage : other.coverage = r.coverage
  reconstructed : other.reconstructed = r.reconstructed
  isMatch : other.isMatch = r.isMatch
  ok : other.ok = r.ok
  issues : other.issues.length = r.issues.length

/-- A round trip depends on the normalized events of its timeline. -/
theorem History.check_congr {h other : History}
    (hevents : other.events.normalized = h.events.normalized) (lint : Bool) :
    (h.check lint).IsAlike (other.check lint) := by
  have hcoverage := Timeline.toCoverage_congr hevents
  have hreconstructed : (other.check lint).reconstructed = (h.check lint).reconstructed := by
    unfold check
    rw [hcoverage]
  have hmatch : (other.check lint).isMatch = (h.check lint).isMatch := by
    unfold RoundTrip.isMatch
    rw [hreconstructed]
    exact congrArg (· == _) hevents
  have hissues : (other.check lint).issues.length = (h.check lint).issues.length := by
    unfold check
    dsimp only
    rw [hcoverage, List.length_append, List.length_append]
    cases lint with
    | true => rw [if_pos rfl, if_pos rfl, Timeline.length_lint_congr hevents]
    | false => rfl
  have hempty : (other.check lint).issues.isEmpty = (h.check lint).issues.isEmpty := by
    rw [Bool.eq_iff_iff, List.isEmpty_iff_length_eq_zero, List.isEmpty_iff_length_eq_zero, hissues]
  refine ⟨hcoverage, hreconstructed, hmatch, ?_, hissues⟩
  unfold RoundTrip.ok
  rw [hmatch, hempty]

theorem Reading.ofSpans_of_mem_spellings {s : Span} {introduced fixed : Text}
    (hlower : IsBare s.introduced) (hupper : IsBare s.fixed)
    (hintroduced : introduced ∈ spellings s.introduced) (hfixed : fixed ∈ spellings s.fixed)
    (default : Option Status) :
    ofSpans [{ s with introduced, fixed }] default = ofSpans [s] default := by
  have hbounds : Span.bounds { s with introduced, fixed } = s.bounds :=
    Span.bounds_congr_texts (hlower.dropV_trim_of_mem_spellings hintroduced)
      (hupper.dropV_trim_of_mem_spellings hfixed)
  have hempty : s.isEmpty = false := by
    unfold Span.isEmpty
    rw [beq_false_of_ne hlower.ne_empty, Bool.false_and]
  have hempty' : Span.isEmpty { s with introduced, fixed } = false := by
    unfold Span.isEmpty
    rw [beq_false_of_ne (hlower.ne_empty_of_mem_spellings hintroduced), Bool.false_and]
  have hstatus : Span.status { s with introduced, fixed } = s.status := rfl
  apply Span.reading_congr hstatus hempty' hempty
  · intro kind
    rw [hbounds]
  · intro kind
    rw [hbounds]

/-- A "v" before any of the versions of a timeline that has none changes nothing about its round
trip but the versions that the issues quote, and before the texts of a span it changes no event. -/
theorem isAlike_check_and_ofSpans_of_spellings :
    (∀ (h : History) (other : Timeline) (lint : Bool),
        (∀ e ∈ h.events, e.version.toList.head? ≠ some ('v' : Letter)) → h.events.IsSpelling other →
        (h.check lint).IsAlike (History.check lint { h with events := other })) ∧
      ∀ (s : Span) (introduced fixed : Text) (default : Option Status),
        IsBare s.introduced → IsBare s.fixed →
        introduced ∈ spellings s.introduced → fixed ∈ spellings s.fixed →
        Reading.ofSpans [{ s with introduced, fixed }] default = Reading.ofSpans [s] default := by
  constructor
  · intro h other lint hv hother
    exact History.check_congr (Timeline.normalized_of_isSpelling hv hother) lint
  · intro s introduced fixed default hlower hupper hintroduced hfixed
    exact Reading.ofSpans_of_mem_spellings hlower hupper hintroduced hfixed default

/-- A history with two introductions in a row, one of which is a constraint. -/
def History.unmarked : History where
  module := "m"
  events := [⟨.introduced, "1.0.0"⟩, ⟨.introduced, ">= 2"⟩, ⟨.fixed, "0.9.0"⟩]

/-- Its timeline with a "v" before the first two versions. -/
def Timeline.marked : Timeline :=
  [⟨.introduced, "v1.0.0"⟩, ⟨.introduced, "v>= 2"⟩, ⟨.fixed, "0.9.0"⟩]

theorem isAlike_check_and_ofSpans_of_spellings_marked :
    (∀ e ∈ History.unmarked.events, e.version.toList.head? ≠ some ('v' : Letter)) ∧
      History.unmarked.events.IsSpelling Timeline.marked ∧
      (History.unmarked.check true).IsAlike
        (History.check true { History.unmarked with events := Timeline.marked }) ∧
      (History.unmarked.check true).issues.length = 2 ∧
      IsBare ">= 1 , <2\n" ∧ IsBare "3 " ∧
      Reading.ofSpans [{ introduced := "v>= 1 , <2\n", fixed := "3 " }] none =
        Reading.ofSpans [{ introduced := ">= 1 , <2\n", fixed := "3 " }] none := by
  have hv : ∀ e ∈ History.unmarked.events, e.version.toList.head? ≠ some ('v' : Letter) := by decide +kernel
  have hspelling : History.unmarked.events.IsSpelling Timeline.marked :=
    .cons ⟨rfl, by decide⟩ (.cons ⟨rfl, by decide⟩ (.cons ⟨rfl, by decide⟩ .nil))
  have hlower : IsBare ">= 1 , <2\n" := by decide +kernel
  have hupper : IsBare "3 " := by decide +kernel
  obtain ⟨hcheck, hread⟩ := isAlike_check_and_ofSpans_of_spellings
  exact ⟨hv, hspelling, hcheck _ _ true hv hspelling, by decide +kernel, hlower, hupper,
    hread { introduced := ">= 1 , <2\n", fixed := "3 " } _ _ none hlower hupper
      (List.mem_cons_of_mem _ (List.mem_singleton.mpr (by decide +kernel))) List.mem_cons_self⟩

end AffectedVersions
