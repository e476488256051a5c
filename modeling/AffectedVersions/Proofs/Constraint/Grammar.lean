import AffectedVersions.Proofs.Constraint.Clauses
import AffectedVersions.Proofs.Constraint.Splitting
import Mathlib

/-! Exactly the spellings of constraints are read, and other texts are blamed on one clause. -/
namespace AffectedVersions.Constraint

theorem parse_eq_ok_iff_addClauses {expression : Text} {bounds : Bounds} :
    parse expression = .ok bounds ↔ addClauses {} (clauses expression) = .ok bounds := by
  unfold parse
  cases addClauses {} (clauses expression) <;> simp

theorem parse_eq_error_iff_addClauses {expression : Text} {e : Error} :
    parse expression = .error e ↔ e.expression = expression ∧
      addClauses {} (clauses expression) = .error (e.reason, e.known) := by
  obtain ⟨_, _, _⟩ := e
  unfold parse
  cases addClauses {} (clauses expression) with
  | ok bounds => simp
  | error stop => simp [Prod.ext_iff, eq_comm]

theorem IsBeginning.isSpelledBy {texts : List Text} {bounds : Bounds}
    (h : IsBeginning texts bounds) (hupper : bounds.upper.isSome) {cs : List Letter}
    (hjoined : IsJoined (texts.map Text.toList) cs) :
    ∃ lower upper ds after, IsSpelledBy lower upper ds ∧ IsGap after ∧ cs = ds ++ after ∧
      bounds = ⟨lower.map Version.dropV, some (Version.dropV upper)⟩ := by
  cases h with
  | nothing => exact absurd hupper Bool.false_ne_true
  | lower _ => exact absurd hupper Bool.false_ne_true
  | @upper clause version hclause =>
    cases hjoined with
    | last hblanks => exact ⟨none, version, _, _, .below hclause, hblanks, rfl, rfl⟩
    | cons _ hpieces => cases hpieces
  | @both first second lower upper hfirst hsecond =>
    cases hjoined with
    | cons hseparator hpieces =>
      cases hpieces with
      | last hblanks =>
        exact ⟨some lower, upper, _, _, .between hfirst hseparator hsecond, hblanks,
          (List.append_assoc _ _ _).symm, rfl⟩
      | cons _ hpieces => cases hpieces

theorem exists_spells_of_parse {expression : Text} {bounds : Bounds}
    (h : parse expression = .ok bounds) :
    ∃ lower upper, Spells expression lower upper ∧
      bounds = ⟨lower.map Version.dropV, some (Version.dropV upper)⟩ := by
  obtain ⟨hbeginning, hupper⟩ :=
    isBeginning_of_addClauses_eq_ok .nothing (parse_eq_ok_iff_addClauses.mp h)
  obtain ⟨before, rest, hbefore, heq, hjoined⟩ := (isJoined_splitFrom expression.toList).2
  have htexts : (clauses expression).map Text.toList = splitFrom [] [] expression.toList := by
    simp [clauses, Function.comp_def]
  rw [← htexts] at hjoined
  obtain ⟨lower, upper, ds, after, hds, hafter, rfl, hbounds⟩ :=
    hbeginning.isSpelledBy hupper hjoined
  rw [← List.append_assoc] at heq
  exact ⟨lower, upper, ⟨before, ds, after, hbefore, hds, hafter, heq⟩, hbounds⟩

/-- A text is read as a constraint exactly when it is a spelling of one with blanks around it. The
bounds are the two versions, each less one "v", and no such text could be taken for a version. -/
theorem parse_eq_ok_iff (expression : Text) (bounds : Bounds) :
    (parse expression = .ok bounds ↔
      ∃ lower upper, IsSpelledBy lower upper (Text.trim expression).toList ∧
        bounds = ⟨lower.map Version.dropV, some (Version.dropV upper)⟩) ∧
    (parse expression = .ok bounds → isConstraint expression = true) := by
  constructor
  · constructor
    · intro h
      obtain ⟨lower, upper, hspells, hbounds⟩ := exists_spells_of_parse h
      exact ⟨lower, upper, hspells.isSpelledBy_trim, hbounds⟩
    · intro h
      obtain ⟨lower, upper, hspelled, rfl⟩ := h
      exact parse_of_spells ((spells_iff_isSpelledBy_trim expression lower upper).mpr hspelled)
  · intro h
    obtain ⟨lower, upper, hspells, -⟩ := exists_spells_of_parse h
    exact hspells.isConstraint

/-- A constraint between other blanks than spaces. -/
def spacedOut : Text := "\u00a0>=v1.0 ,\n<\u2003v2.0-rc.1\t"

theorem parse_eq_ok_iff_spacedOut :
    parse spacedOut = .ok ⟨some "1.0", some "2.0-rc.1"⟩ ∧ isConstraint spacedOut = true := by
  have hlower : (Clause.atLeast "v1.0").IsSpelledBy (">=v1.0" : Text).toList :=
    ⟨by decide +kernel, [], by decide +kernel, by decide +kernel⟩
  have hupper : (Clause.below "v2.0-rc.1").IsSpelledBy ("<\u2003v2.0-rc.1" : Text).toList :=
    ⟨by decide +kernel, ['\u2003'], by decide +kernel, by decide +kernel⟩
  have hseparator : IsSeparator ([(' ' : Letter)] ++ (',' : Letter) :: [('\n' : Letter)]) :=
    .comma (by decide +kernel) (by decide +kernel)
  have htrim : (Text.trim spacedOut).toList =
      (">=v1.0" : Text).toList ++ ([(' ' : Letter)] ++ (',' : Letter) :: [('\n' : Letter)]) ++
        ("<\u2003v2.0-rc.1" : Text).toList := by
    decide +kernel
  obtain ⟨hiff, hconstraint⟩ := parse_eq_ok_iff spacedOut ⟨some "1.0", some "2.0-rc.1"⟩
  have hparse : parse spacedOut = .ok ⟨some "1.0", some "2.0-rc.1"⟩ := by
    refine hiff.mpr ⟨some "v1.0", "v2.0-rc.1", ?_, by decide +kernel⟩
    rw [htrim]
    exact .between hlower hseparator hupper
  exact ⟨hparse, hconstraint hparse⟩

/-- A text that is no constraint keeps the bounds of the longest list of clauses with which one can
begin. To blame is the form of the next clause, or that all were read without an upper bound. -/
theorem exists_isLongestBeginning_of_parse {expression : Text} {e : Error}
    (h : parse expression = .error e) :
    e.expression = expression ∧ ∃ initial unread,
      clauses (Text.trim expression) = initial ++ unread ∧
      IsLongestBeginning (clauses (Text.trim expression)) initial e.known ∧
      (e.reason = .missingUpper ↔ unread = [] ∧ ∃ clause version, initial = [clause] ∧
        (Clause.atLeast version).IsSpelledBy clause.toList) ∧
      (e.reason ≠ .missingUpper → ∃ clause rest, unread = clause :: rest ∧
        (e.reason = .unrecognized clause ↔ ∀ c : Clause, ¬c.IsSpelledBy clause.toList) ∧
        (e.reason = .lowerNotFirst ↔
          ∃ version, (Clause.atLeast version).IsSpelledBy clause.toList) ∧
        (e.reason = .secondUpper ↔
          ∃ version, (Clause.below version).IsSpelledBy clause.toList)) := by
  obtain ⟨hexpression, herror⟩ := parse_eq_error_iff_addClauses.mp h
  obtain ⟨initial, unread, hclauses, hbeginning, hstop⟩ :=
    exists_isStop_of_addClauses_eq_error .nothing herror
  rw [List.nil_append] at hbeginning hstop
  have hne : initial ++ unread ≠ [] := by
    rw [← hclauses]
    exact clauses_ne_nil expression
  have hlongest := hstop.isLongestBeginning hbeginning
  have hmissing := hstop.missingUpper_iff hbeginning hne
  rw [← hclauses, ← clauses_trim] at hlongest
  refine ⟨hexpression, initial, unread, (clauses_trim expression).trans hclauses, hlongest, hmissing,
    fun hreason => ?_⟩
  obtain ⟨clause, rest, hunread, hblame⟩ := hstop.exists_isBlamedFor hreason
  exact ⟨clause, rest, hunread, hblame.reason_iff⟩

/-- Both bounds are set when a third clause turns up. -/
def overfull : Text := " >=v1.0 <2\t<  v3, x\n"

theorem exists_isLongestBeginning_of_parse_overfull :
    parse overfull = .error ⟨overfull, .secondUpper, ⟨some "1.0", some "2"⟩⟩ ∧
      ∃ initial unread, clauses (Text.trim overfull) = initial ++ unread ∧
        IsLongestBeginning (clauses (Text.trim overfull)) initial ⟨some "1.0", some "2"⟩ ∧
        ∃ clause rest, unread = clause :: rest ∧
          ∃ version, (Clause.below version).IsSpelledBy clause.toList := by
  have herror : parse overfull = .error ⟨overfull, .secondUpper, ⟨some "1.0", some "2"⟩⟩ := by
    decide +kernel
  obtain ⟨-, initial, unread, hclauses, hlongest, -, hfault⟩ :=
    exists_isLongestBeginning_of_parse herror
  obtain ⟨clause, rest, hunread, -, -, hsecond⟩ := hfault (by simp)
  exact ⟨herror, initial, unread, hclauses, hlongest, clause, rest, hunread, hsecond.mp rfl⟩

end AffectedVersions.Constraint
