import AffectedVersions.Proofs.Span.Order
import Mathlib

/-! The two ends of a span, each of them by itself. -/
namespace AffectedVersions

namespace Version

theorem isSome_semVer?_dropV {version : Text} (h : (semVer? version).isSome) :
    (semVer? (dropV version)).isSome := by
  obtain ⟨v, hv⟩ := Option.isSome_iff_exists.mp h
  exact Option.isSome_of_eq_some (semVer?_dropV hv)

theorem isPlain_dropV_of_isSome {version : Text} (h : (semVer? version).isSome) :
    IsPlain (dropV version) := by
  obtain ⟨v, hv⟩ := Option.isSome_iff_exists.mp h
  exact isPlain_of_ofText? hv

end Version

namespace Span

open Version

/-- Each end is a version or missing, or it stands before every version. -/
structure HasPlainEnds (s : Span) : Prop where
  introduced : (semVer? s.introduced).isSome ∨ s.introduced = "" ∨ s.introduced = genesis
  fixed : (semVer? s.fixed).isSome ∨ s.fixed = "" ∨ s.fixed = genesis

instance (s : Span) : Decidable s.HasPlainEnds :=
  decidable_of_iff
    (((semVer? s.introduced).isSome ∨ s.introduced = "" ∨ s.introduced = genesis) ∧
      ((semVer? s.fixed).isSome ∨ s.fixed = "" ∨ s.fixed = genesis))
    ⟨fun ⟨hi, hf⟩ => ⟨hi, hf⟩, fun ⟨hi, hf⟩ => ⟨hi, hf⟩⟩

/-- Whether the span has begun at the version. -/
def hasBegunAt (s : Span) (x : SemVer) : Bool :=
  s.introduced == "" || s.introduced == genesis || isReachedBy s.introduced x

/-- Whether the span has not ended at the version. -/
def isOpenAt (s : Span) (x : SemVer) : Bool := s.fixed == "" || isAheadOf s.fixed x

theorem contains_eq_hasBegunAt_and_isOpenAt (s : Span) (x : SemVer) :
    s.contains x = (!s.isEmpty && s.hasBegunAt x && s.isOpenAt x) := rfl

variable {s : Span}

theorem contains_of_not_hasBegunAt {x : SemVer} (h : s.hasBegunAt x = false) :
    s.contains x = false := by
  rw [contains_eq_hasBegunAt_and_isOpenAt, h, Bool.and_false, Bool.false_and]

theorem contains_of_not_isOpenAt {x : SemVer} (h : s.isOpenAt x = false) : s.contains x = false := by
  rw [contains_eq_hasBegunAt_and_isOpenAt, h, Bool.and_false]

theorem isEmpty_eq_false_of_contains {x : SemVer} (h : s.contains x = true) :
    s.isEmpty = false := by
  rw [contains_eq_hasBegunAt_and_isOpenAt, Bool.and_eq_true, Bool.and_eq_true] at h
  exact (Bool.not_eq_true' _).mp h.1.1

theorem hasBegunAt_of_isSome (h : (semVer? s.introduced).isSome) (x : SemVer) :
    s.hasBegunAt x = isReachedBy s.introduced x := by
  obtain ⟨hne, hgenesis⟩ := ne_of_isSome_semVer? h
  unfold hasBegunAt
  rw [beq_false_of_ne hne, beq_false_of_ne hgenesis, Bool.false_or, Bool.false_or]

theorem hasBegunAt_of_unbounded (h : s.introduced = "" ∨ s.introduced = genesis) (x : SemVer) :
    s.hasBegunAt x = true := by
  unfold hasBegunAt
  rcases h with h | h <;> rw [h] <;> rfl

theorem isOpenAt_of_fixed_eq_empty (h : s.fixed = "") (x : SemVer) : s.isOpenAt x = true := by
  unfold isOpenAt
  rw [h]
  rfl

theorem isOpenAt_of_isSome (h : (semVer? s.fixed).isSome) (x : SemVer) :
    s.isOpenAt x = !isReachedBy s.fixed x := by
  obtain ⟨v, hv⟩ := Option.isSome_iff_exists.mp h
  unfold isOpenAt
  rw [beq_false_of_ne (ne_of_isSome_semVer? h).1, Bool.false_or, isAheadOf_eq hv]

theorem isOpenAt_of_genesis (h : s.fixed = genesis) (x : SemVer) : s.isOpenAt x = false := by
  have hnone : semVer? genesis = none := by decide
  unfold isOpenAt isAheadOf
  rw [h, hnone]
  rfl

theorem exists_not_isOpenAt (hplain : s.HasPlainEnds) (hne : s.fixed ≠ "") :
    ∃ version x, semVer? version = some x ∧ s.isOpenAt x = false := by
  rcases hplain.fixed with hversion | hempty | hgenesis
  · obtain ⟨v, hv⟩ := Option.isSome_iff_exists.mp hversion
    refine ⟨s.fixed, v, hv, ?_⟩
    rw [isOpenAt_of_isSome hversion, isReachedBy_eq hv, SemVer.notAfter_refl]
    rfl
  · exact absurd hempty hne
  · exact ⟨"0.0.0", { major := 0, minor := 0, patch := 0 }, by decide +kernel,
      isOpenAt_of_genesis hgenesis _⟩

theorem hasBegunAt_congr {p : Span} (hp : p.introduced = dropV s.introduced)
    (h : (semVer? s.introduced).isSome) (x : SemVer) : p.hasBegunAt x = s.hasBegunAt x := by
  have hversion : (semVer? p.introduced).isSome := by
    rw [hp]
    exact isSome_semVer?_dropV h
  rw [hasBegunAt_of_isSome hversion, hasBegunAt_of_isSome h, hp, isReachedBy_dropV h]

theorem isOpenAt_congr {p : Span} (hp : p.fixed = dropV s.fixed) (h : s.HasPlainEnds)
    (hne : s.fixed ≠ "") (x : SemVer) : p.isOpenAt x = s.isOpenAt x := by
  rcases h.fixed with hversion | hempty | hgenesis
  · have hversion' : (semVer? p.fixed).isSome := by
      rw [hp]
      exact isSome_semVer?_dropV hversion
    rw [isOpenAt_of_isSome hversion', isOpenAt_of_isSome hversion, hp, isReachedBy_dropV hversion]
  · exact absurd hempty hne
  · have hgenesis' : p.fixed = genesis := by
      rw [hp, hgenesis]
      decide
    rw [isOpenAt_of_genesis hgenesis', isOpenAt_of_genesis hgenesis]

theorem hasBegunAt_of_introduced_eq {p : Span} (hp : p.introduced = dropV s.fixed)
    (h : s.HasPlainEnds) (hne : s.fixed ≠ "") (x : SemVer) : p.hasBegunAt x = !s.isOpenAt x := by
  rcases h.fixed with hversion | hempty | hgenesis
  · have hversion' : (semVer? p.introduced).isSome := by
      rw [hp]
      exact isSome_semVer?_dropV hversion
    rw [hasBegunAt_of_isSome hversion', isOpenAt_of_isSome hversion, Bool.not_not, hp,
      isReachedBy_dropV hversion]
  · exact absurd hempty hne
  · have hgenesis' : p.introduced = genesis := by
      rw [hp, hgenesis]
      decide
    rw [isOpenAt_of_genesis hgenesis, hasBegunAt_of_unbounded (Or.inr hgenesis')]
    rfl

theorem isOpenAt_of_fixed_eq {p : Span} (hp : p.fixed = dropV s.introduced)
    (h : (semVer? s.introduced).isSome) (x : SemVer) : p.isOpenAt x = !s.hasBegunAt x := by
  have hversion : (semVer? p.fixed).isSome := by
    rw [hp]
    exact isSome_semVer?_dropV h
  rw [isOpenAt_of_isSome hversion, hasBegunAt_of_isSome h, hp, isReachedBy_dropV h]

theorem contains_or_contains {next : Span} (hfirst : s.introduced = genesis)
    (hmeet : s.fixed = next.introduced) (hversion : (semVer? next.introduced).isSome)
    (hlast : next.fixed = "") {x : SemVer} : s.contains x = true ∨ next.contains x = true := by
  have hfixed : (semVer? s.fixed).isSome := by rwa [hmeet]
  rw [contains_eq_hasBegunAt_and_isOpenAt, contains_eq_hasBegunAt_and_isOpenAt,
    isEmpty_eq_false (Or.inr hfixed), isEmpty_eq_false (Or.inl hversion),
    hasBegunAt_of_unbounded (Or.inr hfirst), isOpenAt_of_isSome hfixed, hmeet,
    hasBegunAt_of_isSome hversion, isOpenAt_of_fixed_eq_empty hlast]
  cases isReachedBy next.introduced x <;> decide

theorem isPlain_dropV_fixed (h : s.HasPlainEnds) (hne : s.fixed ≠ "") : IsPlain (dropV s.fixed) := by
  rcases h.fixed with hversion | hempty | hgenesis
  · exact isPlain_dropV_of_isSome hversion
  · exact absurd hempty hne
  · rw [hgenesis]
    decide

theorem endEvents_upper_of_hasPlainEnds (h : s.HasPlainEnds) (kind : EventKind)
    (hc : Constraint.isConstraint s.lowerText = false) :
    endEvents kind s.bounds.upper = if s.fixed = "" then [] else [⟨kind, dropV s.fixed⟩] := by
  rcases h.fixed with hversion | hempty | hgenesis
  · rw [endEvents_upper kind hc (Or.inl hversion), versionEvents_of_isSome hversion,
      if_neg (ne_of_isSome_semVer? hversion).1]
  · have hnone : ¬(semVer? s.fixed).isSome := not_isSome_semVer?_of_unbounded (Or.inl hempty)
    rw [endEvents_upper kind hc (Or.inr hempty), versionEvents_of_not_isSome hnone, if_pos hempty]
  · have htext : s.upperText = genesis := by
      unfold upperText
      rw [hgenesis]
      decide
    have hne : genesis ≠ "" := by decide
    have hdrop : dropV genesis = genesis := by decide
    rw [upper_bounds, statedBounds_of_not_isConstraint hc, htext, nonEmpty?_of_ne hne,
      endEvents_some hne, hgenesis, if_neg hne, hdrop]

theorem events_of_hasPlainEnds {default : Status} (h : s.HasPlainEnds)
    (hknown : s.statusAgainst default ≠ .unknown) (hother : s.statusAgainst default ≠ default) :
    s.events default = versionEvents (s.openingKind default) s.introduced ++
      if s.fixed = "" then [] else [⟨(s.openingKind default).opposite, dropV s.fixed⟩] := by
  obtain ⟨hc, hlower⟩ := endEvents_lower (s.openingKind default) h.introduced
  rw [events_eq hknown hother, hlower, endEvents_upper_of_hasPlainEnds h _ hc]

end Span

end AffectedVersions
