import AffectedVersions.Proofs.Constraint.Splitting
import AffectedVersions.Proofs.Text.Pattern
import Mathlib

/-! Separators of clauses as a pattern, between whose fits the clauses of a text stand. -/
namespace AffectedVersions.Constraint

open Text (Pattern Fit isBlank)

/-- Any number of blanks, a comma and any number of blanks. -/
def commaPattern : Pattern :=
  (Pattern.many isBlank).seq ((Pattern.one (· == ',')).seq (.many isBlank))

/-- At least one blank, where an operator is next. -/
def gapPattern : Pattern :=
  (Pattern.one isBlank).seq ((Pattern.many isBlank).seq (.ahead isOperatorChar))

def separatorPattern : Pattern := commaPattern.alt gapPattern

section Fits

variable {gap : List Letter} {c : Letter}

theorem takeWhile_dropWhile_of_isGap (hgap : IsGap gap) (hc : isBlank c = false) (cs : List Letter) :
    (gap ++ c :: cs).takeWhile isBlank = gap ∧ (gap ++ c :: cs).dropWhile isBlank = c :: cs := by
  have hnot : ¬isBlank c = true := ne_true_of_eq_false hc
  constructor
  · rw [List.takeWhile_append_of_pos hgap, List.takeWhile_cons_of_neg hnot, List.append_nil]
  · rw [List.dropWhile_append_of_pos hgap, List.dropWhile_cons_of_neg hnot]

theorem fits_commaPattern (hgap : IsGap gap) (hc : isBlank c = false) (cs : List Letter) :
    commaPattern.fits (gap ++ c :: cs) =
      if c = ',' then (Text.runs isBlank cs).map (.after (gap ++ [(',' : Letter)])) else [] := by
  have hnone : ∀ b ds, isBlank b = true →
      ((Pattern.one (· == ',')).seq (.many isBlank)).fits (b :: ds) = [] := by
    intro b ds hb
    simp [Pattern.fits, (ne_comma_of_isBlank hb).1]
  obtain ⟨htake, hdrop⟩ := takeWhile_dropWhile_of_isGap hgap hc cs
  rw [commaPattern, Pattern.fits_many_seq hnone, htake, hdrop]
  split_ifs with hcomma
  · simp [Pattern.fits, hcomma, Function.comp_def, Fit.after]
  · simp [Pattern.fits, hcomma]

theorem fits_gapPattern (hgap : IsGap gap) (hc : isBlank c = false) (cs : List Letter) :
    gapPattern.fits (gap ++ c :: cs) =
      if gap ≠ [] ∧ isOperatorChar c = true then [⟨gap, c :: cs⟩] else [] := by
  have hnone : ∀ b ds, isBlank b = true → (Pattern.ahead isOperatorChar).fits (b :: ds) = [] := by
    intro b ds hb
    simp [Pattern.fits, (ne_comma_of_isBlank hb).2]
  unfold gapPattern
  cases gap with
  | nil => simp [Pattern.fits, hc]
  | cons b gap =>
    obtain ⟨hb, hgap⟩ := List.forall_mem_cons.mp hgap
    obtain ⟨htake, hdrop⟩ := takeWhile_dropWhile_of_isGap hgap hc cs
    rw [List.cons_append, Pattern.fits, Pattern.fits, if_pos hb, List.flatMap_singleton,
      Pattern.fits_many_seq hnone, htake, hdrop]
    by_cases hoperator : isOperatorChar c <;> simp [Pattern.fits, hoperator, Fit.after]

theorem first?_separatorPattern (hgap : IsGap gap) (hc : isBlank c = false) (cs : List Letter) :
    separatorPattern.first? (gap ++ c :: cs) =
      if c = ',' then some ⟨gap ++ (',' : Letter) :: cs.takeWhile isBlank, cs.dropWhile isBlank⟩
      else if gap ≠ [] ∧ isOperatorChar c = true then some ⟨gap, c :: cs⟩
      else none := by
  unfold separatorPattern Pattern.first?
  rw [Pattern.fits, fits_commaPattern hgap hc, fits_gapPattern hgap hc]
  by_cases hcomma : c = ','
  · rw [if_pos hcomma, if_pos hcomma, List.head?_append, List.head?_map, Text.head?_runs]
    simp [Fit.after]
  · rw [if_neg hcomma, if_neg hcomma, List.nil_append]
    split_ifs <;> rfl

end Fits

section Splitting

variable {gap : List Letter} {c : Letter}

theorem splitFrom_separatorPattern_of_not_operator (piece : List Letter) (hgap : IsGap gap)
    (hc : isBlank c = false) (hcomma : c ≠ ',')
    (hoperator : ¬(gap ≠ [] ∧ isOperatorChar c = true)) (cs : List Letter) :
    separatorPattern.splitFrom piece 0 (gap ++ c :: cs) =
      separatorPattern.splitFrom (piece ++ gap ++ [c]) 0 cs := by
  induction gap generalizing piece with
  | nil =>
    have hnone : separatorPattern.first? (c :: cs) = none := by
      rw [← List.nil_append (c :: cs), first?_separatorPattern hgap hc, if_neg hcomma, if_neg hoperator]
    rw [List.nil_append, Pattern.splitFrom_of_first?_eq_none hnone, List.append_nil]
  | cons b gap ih =>
    have hnone : separatorPattern.first? (b :: (gap ++ c :: cs)) = none := by
      rw [← List.cons_append, first?_separatorPattern hgap hc, if_neg hcomma, if_neg hoperator]
    have hrest : ¬(gap ≠ [] ∧ isOperatorChar c = true) :=
      fun h => hoperator ⟨List.cons_ne_nil b gap, h.2⟩
    rw [List.cons_append, Pattern.splitFrom_of_first?_eq_none hnone,
      ih _ (List.forall_mem_cons.mp hgap).2 hrest]
    simp

theorem splitFrom_separatorPattern_cons (piece : List Letter) (hgap : IsGap gap) (hc : isBlank c = false)
    (cs : List Letter) :
    separatorPattern.splitFrom piece 0 (gap ++ c :: cs) =
      if c = ',' then piece :: separatorPattern.splitFrom [] 0 (Text.trimLeft cs)
      else if gap ≠ [] ∧ isOperatorChar c = true then piece :: separatorPattern.splitFrom [c] 0 cs
      else separatorPattern.splitFrom (piece ++ gap ++ [c]) 0 cs := by
  have hfirst := first?_separatorPattern hgap hc cs
  split_ifs with hcomma hoperator
  · rw [if_pos hcomma] at hfirst
    exact Pattern.splitFrom_of_first?_eq_some hfirst (by simp) piece
  · rw [if_neg hcomma, if_pos hoperator] at hfirst
    have hsingle := splitFrom_separatorPattern_of_not_operator [] isGap_nil hc hcomma (by simp) cs
    rw [List.nil_append, List.nil_append] at hsingle
    rw [Pattern.splitFrom_of_first?_eq_some hfirst hoperator.1]
    exact congrArg (piece :: ·) hsingle
  · exact splitFrom_separatorPattern_of_not_operator piece hgap hc hcomma hoperator cs

/-- Both splitters find the same pieces in a text without blanks at its end. -/
theorem splitFrom_eq_splitFrom_separatorPattern (cs : List Letter) :
    (∀ piece gap, piece ≠ [] → IsGap gap → (∀ c ∈ (gap ++ cs).getLast?, isBlank c = false) →
      splitFrom piece gap cs = separatorPattern.splitFrom piece 0 (gap ++ cs)) ∧
    ((∀ c ∈ cs.getLast?, isBlank c = false) →
      splitFrom [] [] cs = separatorPattern.splitFrom [] 0 (Text.trimLeft cs)) := by
  induction cs with
  | nil =>
    refine ⟨fun piece gap _ hgap hlast => ?_, fun _ => rfl⟩
    have hnil : gap = [] := by
      by_contra hne
      have hblank := hgap _ (List.getLast_mem hne)
      rw [List.append_nil, List.getLast?_eq_some_getLast hne] at hlast
      rw [hlast _ rfl] at hblank
      exact Bool.false_ne_true hblank
    subst hnil
    rfl
  | cons c cs ih =>
    obtain ⟨ihpiece, ihstart⟩ := ih
    have hstep : ∀ piece gap, IsGap gap → isBlank c = false →
        (∀ d ∈ cs.getLast?, isBlank d = false) →
        splitFrom piece gap (c :: cs) = separatorPattern.splitFrom piece 0 (gap ++ c :: cs) := by
      intro piece gap hgap hc hlast
      have hnext : ∀ next, next ≠ [] → splitFrom next [] cs = separatorPattern.splitFrom next 0 cs :=
        fun next hnext => ihpiece next [] hnext isGap_nil hlast
      rw [splitFrom, if_neg (ne_true_of_eq_false hc), splitFrom_separatorPattern_cons piece hgap hc,
        ihstart hlast, hnext [c] (by simp), hnext (piece ++ gap ++ [c]) (by simp)]
    constructor
    · intro piece gap hpiece hgap hlast
      rw [← List.singleton_append, ← List.append_assoc] at hlast
      cases hc : isBlank c with
      | true =>
        have hgap' : IsGap (gap ++ [c]) := List.forall_mem_append.mpr ⟨hgap, by simpa using hc⟩
        rw [splitFrom, if_pos hc, if_neg hpiece, ihpiece piece _ hpiece hgap' hlast]
        simp
      | false =>
        exact hstep piece gap hgap hc fun d hd =>
          hlast d (List.mem_getLast?_append_of_mem_getLast? hd)
    · intro hlast
      rw [← List.singleton_append] at hlast
      have htail : ∀ d ∈ cs.getLast?, isBlank d = false :=
        fun d hd => hlast d (List.mem_getLast?_append_of_mem_getLast? hd)
      cases hc : isBlank c with
      | true =>
        rw [splitFrom, if_pos hc, if_pos rfl, ihstart htail, Text.trimLeft, Text.trimLeft,
          List.dropWhile_cons_of_pos hc]
      | false =>
        rw [hstep [] [] isGap_nil hc htail, Text.trimLeft,
          List.dropWhile_cons_of_neg (ne_true_of_eq_false hc), List.nil_append]

end Splitting

theorem clauses_eq_split (expression : Text) :
    clauses expression =
      (separatorPattern.split (Text.trim expression).toList).map Text.ofList := by
  obtain ⟨hfirst, hlast⟩ := Text.isTrimmed_trim expression
  rw [← clauses_trim, clauses, (splitFrom_eq_splitFrom_separatorPattern _).2 hlast,
    (Text.trimLeft_eq_self_iff _).mpr hfirst]
  rfl

end AffectedVersions.Constraint
