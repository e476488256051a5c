import AffectedVersions.Proofs.Constraint.Clauses
import AffectedVersions.Proofs.Constraint.Separator
import Mathlib

/-! Clauses as they come from the splitter hold nothing of a separator. -/
namespace AffectedVersions.Constraint

open Text (Pattern Fit isBlank)

/-- No comma is in the text, no blank at either end and none before an operator. -/
structure IsClean (clause : Text) : Prop where
  no_comma : (',' : Letter) ∉ clause.toList
  trimmed : Text.IsTrimmed clause
  no_gap : clause.toList.IsChain fun b c => isBlank b = true → isOperatorChar c = false

section Splitting

variable {piece gap : List Letter} {c : Letter}

theorem isClean_nil : IsClean (.ofList []) := by
  refine ⟨by simp, ⟨by simp, by simp⟩, ?_⟩
  rw [Text.toList_ofList]
  exact List.isChain_nil

theorem IsClean.append (h : IsClean (.ofList piece)) (hgap : IsGap gap)
    (hpiece : piece = [] → gap = []) (hc : isBlank c = false) (hcomma : c ≠ ',')
    (hoperator : ¬(gap ≠ [] ∧ isOperatorChar c = true)) :
    IsClean (.ofList (piece ++ gap ++ [c])) := by
  obtain ⟨hno, ⟨hfirst, hlast⟩, hchain⟩ := h
  rw [Text.toList_ofList] at hno hfirst hlast hchain
  have hcommas : (',' : Letter) ∉ piece ++ gap ++ [c] := by
    have hnone : (',' : Letter) ∉ gap := fun hmem => (ne_comma_of_isBlank (hgap _ hmem)).1 rfl
    simp [hno, hnone, Ne.symm hcomma]
  have hhead : ∀ d ∈ (piece ++ gap ++ [c]).head?, isBlank d = false := by
    cases piece with
    | nil => simpa [hpiece rfl] using hc
    | cons d piece => simpa using hfirst
  have hgaps : (piece ++ gap).IsChain fun b d => isBlank b = true → isOperatorChar d = false := by
    refine List.isChain_append.mpr ⟨hchain, ?_, fun b hb d _ hblank => ?_⟩
    · have hpairs : gap.Pairwise fun b d => isBlank b = true → isOperatorChar d = false :=
        List.pairwise_of_forall_mem_list fun _ _ d hd _ => (ne_comma_of_isBlank (hgap d hd)).2
      exact hpairs.isChain
    · rw [hlast b hb] at hblank
      exact absurd hblank Bool.false_ne_true
  have hbehind : ∀ b ∈ (piece ++ gap).getLast?, isBlank b = true → isOperatorChar c = false := by
    intro b hb hblank
    by_cases hempty : gap = []
    · rw [hempty, List.append_nil] at hb
      rw [hlast b hb] at hblank
      exact absurd hblank Bool.false_ne_true
    · exact Bool.eq_false_of_not_eq_true fun hc => hoperator ⟨hempty, hc⟩
  refine ⟨?_, ⟨?_, ?_⟩, ?_⟩
  · rwa [Text.toList_ofList]
  · rwa [Text.toList_ofList]
  · rw [Text.toList_ofList, List.getLast?_concat]
    simpa using hc
  · rw [Text.toList_ofList]
    refine List.isChain_append.mpr ⟨hgaps, List.isChain_singleton c, fun b hb d hd => ?_⟩
    obtain rfl : c = d := by simpa using hd
    exact hbehind b hb

theorem isClean_of_mem_splitFrom (h : IsClean (.ofList piece)) (hgap : IsGap gap)
    (hpiece : piece = [] → gap = []) (cs : List Letter) :
    ∀ text ∈ splitFrom piece gap cs, IsClean (.ofList text) := by
  induction cs generalizing piece gap with
  | nil => simpa [splitFrom] using h
  | cons c cs ih =>
    have hstart : ∀ text ∈ splitFrom [] [] cs, IsClean (.ofList text) :=
      ih isClean_nil isGap_nil fun _ => rfl
    unfold splitFrom
    split_ifs with hblank hempty hcomma hoperator
    · exact hstart
    · have hgap' : IsGap (gap ++ [c]) := List.forall_mem_append.mpr ⟨hgap, by simpa using hblank⟩
      exact ih h hgap' fun hpiece' => absurd hpiece' hempty
    · exact List.forall_mem_cons.mpr ⟨h, hstart⟩
    · have hsingle : IsClean (.ofList [c]) :=
        isClean_nil.append isGap_nil (fun _ => rfl) (Bool.eq_false_of_not_eq_true hblank) hcomma (by simp)
      exact List.forall_mem_cons.mpr ⟨h, ih hsingle isGap_nil fun _ => rfl⟩
    · have hnext : IsClean (.ofList (piece ++ gap ++ [c])) :=
        h.append hgap hpiece (Bool.eq_false_of_not_eq_true hblank) hcomma hoperator
      exact ih hnext isGap_nil fun _ => rfl

theorem isClean_of_mem_clauses {expression clause : Text} (h : clause ∈ clauses expression) :
    IsClean clause := by
  obtain ⟨piece, hpiece, rfl⟩ := List.mem_map.mp h
  exact isClean_of_mem_splitFrom isClean_nil isGap_nil (fun _ => rfl) _ piece hpiece

end Splitting

section Content

/-- A character that can stand in no separator. -/
def isContent (c : Letter) : Bool := !(isBlank c || c == ',')

variable {cs : List Letter}

theorem IsGap.filter_isContent (h : IsGap cs) : cs.filter isContent = [] := by
  refine List.filter_eq_nil_iff.mpr fun c hc => ?_
  simp [isContent, h c hc]

theorem IsSeparator.filter_isContent (h : IsSeparator cs) : cs.filter isContent = [] := by
  cases h with
  | comma hbefore hafter =>
    have hcomma : isContent ',' = false := by decide
    rw [List.filter_append, hbefore.filter_isContent,
      List.filter_cons_of_neg (ne_true_of_eq_false hcomma), hafter.filter_isContent]
    rfl
  | gap _ hgap => exact hgap.filter_isContent

theorem IsJoined.filter_isContent {pieces : List (List Letter)} (h : IsJoined pieces cs) :
    pieces.flatten.filter isContent = cs.filter isContent := by
  induction h with
  | last hblanks => simp [hblanks.filter_isContent]
  | cons hseparator _ ih =>
    rw [List.flatten_cons, List.filter_append, List.filter_append, List.filter_append, ih,
      hseparator.filter_isContent, List.append_nil]

/-- Splitting takes away blanks and commas only, and what is left keeps its order. -/
theorem filter_isContent_clauses (expression : Text) :
    ((clauses expression).flatMap Text.toList).filter isContent =
      expression.toList.filter isContent := by
  obtain ⟨before, rest, hbefore, heq, hjoined⟩ := (isJoined_splitFrom expression.toList).2
  have hpieces : (clauses expression).flatMap Text.toList =
      (splitFrom [] [] expression.toList).flatten := by
    simp [clauses, List.flatMap_map, ← List.flatMap_id]
  rw [hpieces, hjoined.filter_isContent, heq, List.filter_append, hbefore.filter_isContent]
  rfl

end Content

section Matching

/-- An operator at the beginning of a clause. -/
def operatorPattern : Pattern :=
  ((Pattern.one (· == '>')).seq (.one (· == '='))).alt (.one (· == '<'))

/-- A version up to the ending. -/
def operandPattern : Pattern :=
  (Pattern.one isVersionChar).seq ((Pattern.many isVersionChar).seq .ending)

def clausePattern : Pattern := operatorPattern.seq ((Pattern.many isBlank).seq operandPattern)

variable {taken rest cs : List Letter}

theorem mem_fits_operatorPattern_iff : ⟨taken, rest⟩ ∈ operatorPattern.fits cs ↔
    (taken = (['>', '='] : List Letter) ∨ taken = (['<'] : List Letter)) ∧ taken ++ rest = cs := by
  constructor
  · intro h
    refine ⟨?_, Pattern.append_of_mem_fits h⟩
    rcases Pattern.mem_fits_alt_iff.mp h with h | h
    · obtain ⟨start, next, rfl, hstart, hnext⟩ := Pattern.mem_fits_seq_iff.mp h
      obtain ⟨c, hc, rfl, -⟩ := Pattern.mem_fits_one_iff.mp hstart
      obtain ⟨d, hd, rfl, -⟩ := Pattern.mem_fits_one_iff.mp hnext
      rw [beq_iff_eq] at hc hd
      exact Or.inl (by rw [hc, hd]; rfl)
    · obtain ⟨c, hc, rfl, -⟩ := Pattern.mem_fits_one_iff.mp h
      rw [beq_iff_eq] at hc
      exact Or.inr (by rw [hc])
  · intro h
    obtain ⟨rfl | rfl, rfl⟩ := h
    · simp [operatorPattern, Pattern.fits, Fit.after]
    · simp [operatorPattern, Pattern.fits]

theorem mem_fits_operandPattern_iff : ⟨taken, rest⟩ ∈ operandPattern.fits cs ↔
    (taken ≠ [] ∧ ∀ c ∈ taken, isVersionChar c = true) ∧ (rest = [] ∨ rest = [('\n' : Letter)]) ∧
      taken ++ rest = cs := by
  constructor
  · intro h
    have happend := Pattern.append_of_mem_fits h
    obtain ⟨start, next, rfl, hstart, hnext⟩ := Pattern.mem_fits_seq_iff.mp h
    obtain ⟨c, hc, rfl, -⟩ := Pattern.mem_fits_one_iff.mp hstart
    obtain ⟨run, tail, rfl, hrun, htail⟩ := Pattern.mem_fits_seq_iff.mp hnext
    obtain ⟨hrest, rfl, -⟩ := Pattern.mem_fits_ending_iff.mp htail
    obtain ⟨hall, -⟩ := Text.mem_runs_iff.mp hrun
    rw [List.append_nil] at happend ⊢
    exact ⟨⟨by simp, List.forall_mem_cons.mpr ⟨hc, hall⟩⟩, hrest, happend⟩
  · intro h
    obtain ⟨⟨hne, hall⟩, hrest, rfl⟩ := h
    obtain ⟨c, run, rfl⟩ := List.exists_cons_of_ne_nil hne
    obtain ⟨hc, hrun⟩ := List.forall_mem_cons.mp hall
    have hfirst : ⟨[c], run ++ rest⟩ ∈ (Pattern.one isVersionChar).fits (c :: run ++ rest) :=
      Pattern.mem_fits_one_iff.mpr ⟨c, hc, rfl, rfl⟩
    refine Pattern.mem_fits_seq_iff.mpr ⟨[c], run, rfl, hfirst, ?_⟩
    refine Pattern.mem_fits_seq_iff.mpr ⟨run, [], List.append_nil run, ?_, ?_⟩
    · exact Text.mem_runs_iff.mpr ⟨hrun, rfl⟩
    · exact Pattern.mem_fits_ending_iff.mpr ⟨hrest, rfl, rfl⟩

/-- The pattern takes a clause, and a line feed is all that can be behind it. -/
theorem mem_fits_clausePattern_iff : ⟨taken, rest⟩ ∈ clausePattern.fits cs ↔
    (∃ clause : Clause, clause.IsSpelledBy taken) ∧ (rest = [] ∨ rest = [('\n' : Letter)]) ∧
      taken ++ rest = cs := by
  constructor
  · intro h
    have happend := Pattern.append_of_mem_fits h
    obtain ⟨start, next, rfl, hstart, hnext⟩ := Pattern.mem_fits_seq_iff.mp h
    obtain ⟨hoperator, -⟩ := mem_fits_operatorPattern_iff.mp hstart
    obtain ⟨gap, version, rfl, hmany, hversion⟩ := Pattern.mem_fits_seq_iff.mp hnext
    obtain ⟨hgap, -⟩ := Text.mem_runs_iff.mp hmany
    obtain ⟨⟨hne, hchars⟩, hrest, -⟩ := mem_fits_operandPattern_iff.mp hversion
    have htext : (Text.ofList version).toList = version := Text.toList_ofList
    have hoperand : IsOperand (.ofList version) :=
      ⟨mt Text.toList_eq_nil_iff.mpr (by rwa [htext]), by rwa [htext]⟩
    refine ⟨?_, hrest, happend⟩
    rw [← List.append_assoc]
    rcases hoperator with rfl | rfl
    · exact ⟨.atLeast _, hoperand, gap, hgap, congrArg (Clause.operator (.atLeast _) ++ gap ++ ·) htext.symm⟩
    · exact ⟨.below _, hoperand, gap, hgap, congrArg (Clause.operator (.below _) ++ gap ++ ·) htext.symm⟩
  · intro h
    obtain ⟨⟨clause, hversion, gap, hgap, rfl⟩, hrest, rfl⟩ := h
    have hne : clause.version.toList ≠ [] := mt Text.toList_eq_nil_iff.mp hversion.ne_empty
    have hoperator : clause.operator = (['>', '='] : List Letter) ∨ clause.operator = (['<'] : List Letter) := by
      cases clause <;> simp [Clause.operator]
    refine Pattern.mem_fits_seq_iff.mpr ⟨clause.operator, gap ++ clause.version.toList, ?_, ?_, ?_⟩
    · exact (List.append_assoc _ _ _).symm
    · exact mem_fits_operatorPattern_iff.mpr ⟨hoperator, by simp⟩
    · refine Pattern.mem_fits_seq_iff.mpr ⟨gap, clause.version.toList, rfl, ?_, ?_⟩
      · exact Text.mem_runs_iff.mpr ⟨hgap, by simp⟩
      · exact mem_fits_operandPattern_iff.mpr ⟨⟨hne, hversion.chars⟩, hrest, rfl⟩

example : clausePattern.fits ['<', '1', '\n'] = [⟨['<', '1'], ['\n']⟩] := by decide

theorem IsClean.getLast?_ne_newline {text : Text} (h : IsClean text) :
    text.toList.getLast? ≠ some ('\n' : Letter) := by
  intro hlast
  exact absurd (h.trimmed.last _ hlast) (by decide)

theorem IsClean.mem_fits_iff {text : Text} (h : IsClean text) (fit : Fit) :
    fit ∈ clausePattern.fits text.toList ↔
      fit = ⟨text.toList, []⟩ ∧ ∃ clause : Clause, clause.IsSpelledBy text.toList := by
  obtain ⟨taken, rest⟩ := fit
  rw [mem_fits_clausePattern_iff, Fit.mk.injEq]
  constructor
  · intro hfit
    obtain ⟨hclause, hrest, htext⟩ := hfit
    rcases hrest with rfl | rfl
    · rw [List.append_nil] at htext
      subst htext
      exact ⟨⟨rfl, rfl⟩, hclause⟩
    · have hlast : text.toList.getLast? = some ('\n' : Letter) := by rw [← htext, List.getLast?_concat]
      exact absurd hlast h.getLast?_ne_newline
  · intro hfit
    obtain ⟨⟨rfl, rfl⟩, hclause⟩ := hfit
    exact ⟨hclause, Or.inl rfl, List.append_nil _⟩

end Matching

/-- The clauses of a text are its pieces between separators. They are clean and keep all else that
the text holds, and the pattern of a clause fits the whole of one or not at all. -/
theorem clauses_eq_split_and_forall_isClean (expression : Text) :
    clauses expression =
      (separatorPattern.split (Text.trim expression).toList).map Text.ofList ∧
    ((clauses expression).flatMap Text.toList).filter isContent =
      expression.toList.filter isContent ∧
    ∀ text ∈ clauses expression, IsClean text ∧ text.toList.getLast? ≠ some ('\n' : Letter) ∧
      ∀ fit, fit ∈ clausePattern.fits text.toList ↔ fit = ⟨text.toList, []⟩ ∧
        ∃ clause, Clause.ofText? text = some clause ∧ clause.IsSpelledBy text.toList := by
  refine ⟨clauses_eq_split expression, filter_isContent_clauses expression, fun text htext => ?_⟩
  have hclean := isClean_of_mem_clauses htext
  have hread : (∃ clause, Clause.ofText? text = some clause ∧ clause.IsSpelledBy text.toList) ↔
      ∃ clause : Clause, clause.IsSpelledBy text.toList := by
    simp only [Clause.ofText?_eq_some_iff, and_self]
  refine ⟨hclean, hclean.getLast?_ne_newline, fun fit => ?_⟩
  rw [hread]
  exact hclean.mem_fits_iff fit

/-- Separators in a row, clauses of no form, and blanks inside of one. -/
def crowded : Text := "\u3000>= 1.0\n,, 2\u2003<\nv3 \n"

theorem clauses_eq_split_and_forall_isClean_crowded :
    clauses crowded = ([">= 1.0", "", "2", "<\nv3"] : List Text) ∧
      ("<\nv3" : Text) ∈ clauses crowded ∧
      (separatorPattern.split (Text.trim crowded).toList).map Text.ofList =
        ([">= 1.0", "", "2", "<\nv3"] : List Text) ∧
      IsClean "<\nv3" ∧ ⟨("<\nv3" : Text).toList, []⟩ ∈ clausePattern.fits ("<\nv3" : Text).toList := by
  have hclauses : clauses crowded = ([">= 1.0", "", "2", "<\nv3"] : List Text) := by decide +kernel
  have hmem : ("<\nv3" : Text) ∈ clauses crowded := by
    rw [hclauses]
    simp
  obtain ⟨hsplit, -, hall⟩ := clauses_eq_split_and_forall_isClean crowded
  obtain ⟨hclean, -, hfits⟩ := hall "<\nv3" hmem
  have hread : Clause.ofText? "<\nv3" = some (.below "v3") := by decide +kernel
  exact ⟨hclauses, hmem, hsplit.symm.trans hclauses, hclean,
    (hfits _).mpr ⟨rfl, _, hread, Clause.ofText?_eq_some_iff.mp hread⟩⟩

end AffectedVersions.Constraint
