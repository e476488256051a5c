import AffectedVersions.Proofs.Span.Ends
import AffectedVersions.Timeline.Coverage
import Mathlib

/-! Spans that hold no version. -/
namespace AffectedVersions.Span

open Version

/-- No version lies in the span. -/
def HoldsNothing (s : Span) : Prop := ∀ version x, semVer? version = some x → s.contains x = false

/-- An affected span between two plain texts in which no version lies. -/
structure IsVoid (s : Span) : Prop where
  layout : Layout.closed.span s.introduced s.fixed = s
  plain : IsPlain s.introduced ∧ IsPlain s.fixed
  holdsNothing : s.HoldsNothing

/-- The affected span with the same ends, each of them less its "v". -/
def bare (s : Span) : Span := Layout.closed.span (dropV s.introduced) (dropV s.fixed)

variable {s : Span}

theorem not_holdsNothing_of_fixed_eq_empty (hplain : s.HasPlainEnds) (hne : s.isEmpty = false)
    (hfixed : s.fixed = "") : ¬s.HoldsNothing := by
  intro hnone
  obtain ⟨version, x, hx, hbegun⟩ :
      ∃ version x, semVer? version = some x ∧ s.hasBegunAt x = true := by
    rcases hplain.introduced with hversion | hunbounded
    · obtain ⟨v, hv⟩ := Option.isSome_iff_exists.mp hversion
      refine ⟨s.introduced, v, hv, ?_⟩
      rw [hasBegunAt_of_isSome hversion, isReachedBy_eq hv]
      exact SemVer.notAfter_refl v
    · exact ⟨"0.0.0", { major := 0, minor := 0, patch := 0 }, by decide +kernel,
        hasBegunAt_of_unbounded hunbounded _⟩
  have hheld : s.contains x = true := by
    rw [contains_eq_hasBegunAt_and_isOpenAt, hne, hbegun, isOpenAt_of_fixed_eq_empty hfixed]
    rfl
  rw [hnone version x hx] at hheld
  exact Bool.noConfusion hheld

theorem holdsNothing_of_eq (hplain : s.HasPlainEnds) (h : s.introduced = s.fixed) :
    s.HoldsNothing := by
  intro version x _
  rcases hplain.fixed with hversion | hempty | hgenesis
  · have hbegins : (semVer? s.introduced).isSome := by rwa [h]
    rw [contains_eq_hasBegunAt_and_isOpenAt, hasBegunAt_of_isSome hbegins, isOpenAt_of_isSome hversion,
      h, Bool.and_assoc, Bool.and_not_self, Bool.and_false]
  · rw [contains_eq_hasBegunAt_and_isOpenAt, isEmpty, h, hempty]
    rfl
  · exact contains_of_not_isOpenAt (isOpenAt_of_genesis hgenesis x)

theorem HoldsNothing.isVoid_bare (h : s.HoldsNothing) (hplain : s.HasPlainEnds)
    (hbegins : (semVer? s.introduced).isSome) (hends : s.fixed ≠ "") : s.bare.IsVoid := by
  refine ⟨rfl, ⟨isPlain_dropV_of_isSome hbegins, isPlain_dropV_fixed hplain hends⟩, ?_⟩
  intro version x hx
  have hnone := h version x hx
  have hbare : s.bare.isEmpty = false := isEmpty_eq_false (Or.inl (isSome_semVer?_dropV hbegins))
  rw [contains_eq_hasBegunAt_and_isOpenAt, isEmpty_eq_false (Or.inl hbegins)] at hnone
  rw [contains_eq_hasBegunAt_and_isOpenAt, hbare, hasBegunAt_congr rfl hbegins,
    isOpenAt_congr rfl hplain hends]
  exact hnone

theorem HoldsNothing.ofGenesis (h : s.HoldsNothing) (hplain : s.HasPlainEnds)
    (hunbounded : s.introduced = "" ∨ s.introduced = genesis) (hends : s.fixed ≠ "") :
    (Layout.closed.span genesis (dropV s.fixed)).HoldsNothing := by
  intro version x hx
  have hnone := h version x hx
  have hproper : s.isEmpty = false := by
    unfold isEmpty
    rw [beq_false_of_ne hends, Bool.and_false]
  rw [contains_eq_hasBegunAt_and_isOpenAt, hproper, hasBegunAt_of_unbounded hunbounded] at hnone
  rw [contains_eq_hasBegunAt_and_isOpenAt, isOpenAt_congr rfl hplain hends]
  exact hnone

end AffectedVersions.Span
