import AffectedVersions.Proofs.Constraint.Spelling
import Mathlib

/-! Splitting a text into clauses loses nothing, and the blanks around it play no part. -/
namespace AffectedVersions.Constraint

inductive IsJoined : List (List Letter) → List Letter → Prop
  | last {piece blanks : List Letter} (hblanks : IsGap blanks) : IsJoined [piece] (piece ++ blanks)
  | cons {piece separator cs : List Letter} {pieces : List (List Letter)}
    (hseparator : IsSeparator separator) (hpieces : IsJoined pieces cs) :
    IsJoined (piece :: pieces) (piece ++ separator ++ cs)

/-- Within a piece the blanks read last count as text; before a piece they are left out. -/
theorem isJoined_splitFrom (cs : List Letter) :
    (∀ piece gap, piece ≠ [] → IsGap gap →
      IsJoined (splitFrom piece gap cs) (piece ++ gap ++ cs)) ∧
    ∃ before rest, IsGap before ∧ cs = before ++ rest ∧ IsJoined (splitFrom [] [] cs) rest := by
  induction cs with
  | nil =>
    refine ⟨fun piece gap _ hgap => ?_, [], [], isGap_nil, rfl, .last isGap_nil⟩
    rw [List.append_nil]
    exact .last hgap
  | cons c cs ih =>
    obtain ⟨ihpiece, before, rest, hbefore, hcs, hrest⟩ := ih
    have hsingle : IsJoined (splitFrom [c] [] cs) (c :: cs) :=
      ihpiece [c] [] (List.cons_ne_nil c []) isGap_nil
    constructor
    · intro piece gap hpiece hgap
      unfold splitFrom
      split_ifs with hblank hcomma hoperator
      · have hgap' : IsGap (gap ++ [c]) := List.forall_mem_append.mpr ⟨hgap, by simpa using hblank⟩
        simpa using ihpiece piece (gap ++ [c]) hpiece hgap'
      · have hjoined : IsJoined (piece :: splitFrom [] [] cs)
            (piece ++ (gap ++ (',' : Letter) :: before) ++ rest) := .cons (.comma hgap hbefore) hrest
        simpa [hcomma, hcs] using hjoined
      · exact .cons (.gap hoperator.1 hgap) hsingle
      · have hne : piece ++ gap ++ [c] ≠ [] := by simp
        simpa using ihpiece (piece ++ gap ++ [c]) [] hne isGap_nil
    · unfold splitFrom
      split_ifs with hblank hempty hcomma hoperator
      · exact ⟨c :: before, rest, List.forall_mem_cons.mpr ⟨hblank, hbefore⟩, by simp [hcs], hrest⟩
      · exact absurd rfl hempty
      · have hjoined : IsJoined ([] :: splitFrom [] [] cs)
            ([] ++ ([] ++ (',' : Letter) :: before) ++ rest) := .cons (.comma isGap_nil hbefore) hrest
        refine ⟨[], c :: cs, isGap_nil, rfl, ?_⟩
        simpa [hcomma, hcs] using hjoined
      · exact absurd rfl hoperator.1
      · exact ⟨[], c :: cs, isGap_nil, rfl, hsingle⟩

theorem clauses_ne_nil (expression : Text) : clauses expression ≠ [] := by
  obtain ⟨_, _, _, _, hjoined⟩ := (isJoined_splitFrom expression.toList).2
  intro hnil
  rw [List.map_eq_nil_iff.mp hnil] at hjoined
  cases hjoined

theorem splitFrom_append_gap (piece gap cs : List Letter) {blanks : List Letter} (h : IsGap blanks) :
    splitFrom piece gap (cs ++ blanks) = splitFrom piece gap cs := by
  induction cs generalizing piece gap with
  | nil => rw [List.nil_append, splitFrom_gap_end gap h]; rfl
  | cons c cs ih =>
    rw [List.cons_append]
    unfold splitFrom
    simp only [ih]

theorem clauses_trim (expression : Text) : clauses (Text.trim expression) = clauses expression := by
  obtain ⟨before, after, hbefore, hafter, heq⟩ := Text.exists_append_trim expression
  unfold clauses
  rw [heq, List.append_assoc, splitFrom_nil_gap _ hbefore, splitFrom_append_gap _ _ _ hafter]

theorem spells_iff_isSpelledBy_trim (expression : Text) (lower : Option Text) (upper : Text) :
    Spells expression lower upper ↔ IsSpelledBy lower upper (Text.trim expression).toList := by
  constructor
  · exact Spells.isSpelledBy_trim
  · intro h
    obtain ⟨before, after, hbefore, hafter, heq⟩ := Text.exists_append_trim expression
    exact ⟨before, _, after, hbefore, h, hafter, heq⟩

end AffectedVersions.Constraint
