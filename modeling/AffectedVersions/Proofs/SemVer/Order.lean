import AffectedVersions.SemVer.Precedence
import Mathlib

/-! Precedence is a total preorder of semantic versions. -/
namespace AffectedVersions

open Std

instance : TransCmp Identifier.compare where
  eq_swap {a b} := by
    cases a <;> cases b <;> simp only [Identifier.compare, Ordering.swap]
    · exact OrientedCmp.eq_swap
    · exact OrientedCmp.eq_swap
  isLE_trans {a b c} hab hbc := by
    cases a with
    | numeric m =>
      cases c with
      | numeric n =>
        cases b with
        | numeric k => exact @TransCmp.isLE_trans Nat Ord.compare _ m k n hab hbc
        | alphanumeric t => exact absurd hbc Bool.false_ne_true
      | alphanumeric s => rfl
    | alphanumeric s =>
      cases b with
      | numeric k => exact absurd hab Bool.false_ne_true
      | alphanumeric t =>
        cases c with
        | numeric n => exact absurd hbc Bool.false_ne_true
        | alphanumeric u => exact @TransCmp.isLE_trans String Ord.compare _ s t u hab hbc

namespace SemVer

instance : TransCmp comparePrerelease :=
  inferInstanceAs (TransCmp (compareLex (compareOn List.isEmpty) (List.compareLex Identifier.compare)))

instance : TransCmp fun a b : SemVer => comparePrerelease a.prerelease b.prerelease where
  eq_swap {a b} := @OrientedCmp.eq_swap _ comparePrerelease _ a.prerelease b.prerelease
  isLE_trans {a b c} :=
    @TransCmp.isLE_trans _ comparePrerelease _ a.prerelease b.prerelease c.prerelease

instance : TransCmp SemVer.compare :=
  inferInstanceAs (TransCmp (compareLex (compareOn major) (compareLex (compareOn minor)
    (compareLex (compareOn patch) fun a b => comparePrerelease a.prerelease b.prerelease))))

theorem notAfter_eq_isLE (a b : SemVer) : a.notAfter b = (a.compare b).isLE := by
  unfold notAfter
  cases a.compare b <;> rfl

theorem precedes_eq_not_notAfter (a b : SemVer) : a.precedes b = !b.notAfter a := by
  unfold precedes notAfter
  rw [@OrientedCmp.eq_swap _ SemVer.compare]
  cases b.compare a <;> rfl

theorem notAfter_refl (a : SemVer) : a.notAfter a = true := by
  have heq : a.compare a = .eq := ReflCmp.compare_self
  rw [notAfter_eq_isLE, heq]
  rfl

theorem notAfter_trans {a b c : SemVer} (hab : a.notAfter b = true) (hbc : b.notAfter c = true) :
    a.notAfter c = true := by
  rw [notAfter_eq_isLE] at *
  exact TransCmp.isLE_trans hab hbc

theorem precedes_trans {a b c : SemVer} (hab : a.precedes b = true) (hbc : b.precedes c = true) :
    a.precedes c = true := by
  unfold precedes at *
  rw [beq_iff_eq] at *
  exact TransCmp.lt_trans hab hbc

theorem notAfter_of_precedes {a b : SemVer} (h : a.precedes b = true) : a.notAfter b = true := by
  have hlt : a.compare b = .lt := by simpa [precedes] using h
  rw [notAfter_eq_isLE, hlt]
  rfl

end SemVer

end AffectedVersions
