import AffectedVersions.Constraint.Parser
import AffectedVersions.Proofs.Text.Trim
import Mathlib

/-! All spellings of a constraint are read alike, whatever its blanks and its separator. -/
namespace AffectedVersions.Constraint

/-- A text of blanks only, possibly empty. -/
def IsGap (cs : List Letter) : Prop := ∀ c ∈ cs, Text.isBlank c = true

instance (cs : List Letter) : Decidable (IsGap cs) :=
  decidable_of_iff (cs.all Text.isBlank = true) List.all_eq_true

theorem isGap_nil : IsGap [] := List.forall_mem_nil _

/-- A comma with blanks around it, or at least one blank. -/
inductive IsSeparator : List Letter → Prop
  | comma {before after : List Letter} (hbefore : IsGap before) (hafter : IsGap after) :
    IsSeparator (before ++ (',' : Letter) :: after)
  | gap {cs : List Letter} (hne : cs ≠ []) (hgap : IsGap cs) : IsSeparator cs

structure IsOperand (version : Text) : Prop where
  ne_empty : version ≠ ""
  chars : ∀ c ∈ version.toList, isVersionChar c = true

instance (version : Text) : Decidable (IsOperand version) :=
  decidable_of_iff (version ≠ "" ∧ version.toList.all isVersionChar = true)
    ⟨fun h => ⟨h.1, List.all_eq_true.mp h.2⟩, fun h => ⟨h.ne_empty, List.all_eq_true.mpr h.chars⟩⟩

namespace Clause

def operator : Clause → List Letter
  | atLeast _ => ['>', '=']
  | below _ => ['<']

def version : Clause → Text
  | atLeast version => version
  | below version => version

/-- The operator, blanks and the version. -/
def IsSpelledBy (clause : Clause) (cs : List Letter) : Prop :=
  IsOperand clause.version ∧
    ∃ gap, IsGap gap ∧ cs = clause.operator ++ gap ++ clause.version.toList

end Clause

/-- `< upper`, or `>= lower` and `< upper` with a separator between them. -/
inductive IsSpelledBy : Option Text → Text → List Letter → Prop
  | below {upper : Text} {cs : List Letter} (h : (Clause.below upper).IsSpelledBy cs) :
    IsSpelledBy none upper cs
  | between {lower upper : Text} {cs separator ds : List Letter}
    (hlower : (Clause.atLeast lower).IsSpelledBy cs) (hseparator : IsSeparator separator)
    (hupper : (Clause.below upper).IsSpelledBy ds) :
    IsSpelledBy (some lower) upper (cs ++ separator ++ ds)

/-- The text is a spelling of the constraint with blanks around it. -/
def Spells (expression : Text) (lower : Option Text) (upper : Text) : Prop :=
  ∃ before cs after, IsGap before ∧ IsSpelledBy lower upper cs ∧ IsGap after ∧
    expression.toList = before ++ cs ++ after

theorem not_isBlank_of_isVersionChar {c : Letter} (h : isVersionChar c = true) :
    Text.isBlank c = false ∧ c ≠ ',' ∧ isOperatorChar c = false := by
  simpa [isVersionChar, and_assoc] using h

theorem not_isBlank_of_isOperatorChar {c : Letter} (h : isOperatorChar c = true) :
    Text.isBlank c = false ∧ c ≠ ',' ∧ c ≠ 'v' := by
  simp only [isOperatorChar, Bool.or_eq_true, beq_iff_eq] at h
  rcases h with (rfl | rfl) | rfl <;> decide

theorem ne_comma_of_isBlank {c : Letter} (h : Text.isBlank c = true) :
    c ≠ ',' ∧ isOperatorChar c = false := by
  constructor
  · rintro rfl
    exact absurd h (by decide)
  · by_contra hoperator
    rw [Bool.not_eq_false] at hoperator
    rw [(not_isBlank_of_isOperatorChar hoperator).1] at h
    exact Bool.false_ne_true h

section Splitting

variable (piece gap cs : List Letter)

theorem splitFrom_cons_of_isVersionChar {c : Letter} (h : isVersionChar c = true) :
    splitFrom piece gap (c :: cs) = splitFrom (piece ++ gap ++ [c]) [] cs := by
  obtain ⟨hblank, hcomma, hoperator⟩ := not_isBlank_of_isVersionChar h
  rw [splitFrom, if_neg (ne_true_of_eq_false hblank), if_neg hcomma,
    if_neg (fun hand => ne_true_of_eq_false hoperator hand.2)]

theorem splitFrom_cons_of_isOperatorChar {c : Letter} (h : isOperatorChar c = true) :
    splitFrom piece [] (c :: cs) = splitFrom (piece ++ [c]) [] cs := by
  obtain ⟨hblank, hcomma, -⟩ := not_isBlank_of_isOperatorChar h
  rw [splitFrom, if_neg (ne_true_of_eq_false hblank), if_neg hcomma, if_neg (fun hand => hand.1 rfl),
    List.append_nil]

theorem splitFrom_append_of_forall {ds : List Letter}
    (h : ∀ d ∈ ds, isVersionChar d = true ∨ isOperatorChar d = true) :
    splitFrom piece [] (ds ++ cs) = splitFrom (piece ++ ds) [] cs := by
  induction ds generalizing piece with
  | nil => rw [List.nil_append, List.append_nil]
  | cons d ds ih =>
    obtain ⟨hd, hds⟩ := List.forall_mem_cons.mp h
    have hstep : splitFrom piece [] (d :: (ds ++ cs)) = splitFrom (piece ++ [d]) [] (ds ++ cs) := by
      rcases hd with hd | hd
      · rw [splitFrom_cons_of_isVersionChar _ _ _ hd, List.append_nil]
      · exact splitFrom_cons_of_isOperatorChar _ _ hd
    rw [List.cons_append, hstep, ih _ hds, List.append_assoc, List.singleton_append]

theorem splitFrom_nil_gap {blanks : List Letter} (h : IsGap blanks) :
    splitFrom [] [] (blanks ++ cs) = splitFrom [] [] cs := by
  induction blanks with
  | nil => rfl
  | cons b blanks ih =>
    obtain ⟨hb, hblanks⟩ := List.forall_mem_cons.mp h
    rw [List.cons_append, splitFrom, if_pos hb, if_pos rfl, ih hblanks]

variable {piece}

theorem splitFrom_gap (hpiece : piece ≠ []) {blanks : List Letter} (h : IsGap blanks) :
    splitFrom piece gap (blanks ++ cs) = splitFrom piece (gap ++ blanks) cs := by
  induction blanks generalizing gap with
  | nil => rw [List.nil_append, List.append_nil]
  | cons b blanks ih =>
    obtain ⟨hb, hblanks⟩ := List.forall_mem_cons.mp h
    rw [List.cons_append, splitFrom, if_pos hb, if_neg hpiece, ih _ hblanks, List.append_assoc,
      List.singleton_append]

theorem splitFrom_gap_operand (hpiece : piece ≠ []) {blanks : List Letter} (h : IsGap blanks)
    {version : Text} (hversion : IsOperand version) :
    splitFrom piece [] (blanks ++ version.toList ++ cs) =
      splitFrom (piece ++ blanks ++ version.toList) [] cs := by
  obtain ⟨c, ds, hds⟩ := List.exists_cons_of_ne_nil (mt Text.toList_eq_nil_iff.mp hversion.ne_empty)
  have hchars := hversion.chars
  rw [hds] at hchars ⊢
  obtain ⟨hc, htail⟩ := List.forall_mem_cons.mp hchars
  rw [List.append_assoc, splitFrom_gap _ _ hpiece h, List.nil_append, List.cons_append,
    splitFrom_cons_of_isVersionChar _ _ _ hc,
    splitFrom_append_of_forall _ _ (fun d hd => Or.inl (htail d hd)), List.append_assoc,
    List.singleton_append]

theorem splitFrom_gap_end {blanks : List Letter} (h : IsGap blanks) :
    splitFrom piece gap blanks = [piece] := by
  induction blanks generalizing piece gap with
  | nil => rfl
  | cons b blanks ih =>
    obtain ⟨hb, hblanks⟩ := List.forall_mem_cons.mp h
    rw [splitFrom, if_pos hb]
    split_ifs with hpiece
    · rw [hpiece]
      exact ih [] hblanks
    · exact ih _ hblanks

theorem splitFrom_separator (hpiece : piece ≠ []) {separator : List Letter}
    (h : IsSeparator separator) {c : Letter} (hc : isOperatorChar c = true) :
    splitFrom piece [] (separator ++ c :: cs) = piece :: splitFrom [] [] (c :: cs) := by
  cases h with
  | comma hbefore hafter =>
    rw [List.append_assoc, splitFrom_gap _ _ hpiece hbefore, List.cons_append, splitFrom,
      if_neg (by decide), if_pos rfl, splitFrom_nil_gap _ hafter]
  | gap hne hgap =>
    obtain ⟨hblank, hcomma, -⟩ := not_isBlank_of_isOperatorChar hc
    rw [splitFrom_gap _ _ hpiece hgap, List.nil_append, splitFrom,
      if_neg (ne_true_of_eq_false hblank), if_neg hcomma, if_pos ⟨hne, hc⟩,
      splitFrom_cons_of_isOperatorChar _ _ hc]
    rfl

end Splitting

theorem operand?_of_gap {gap : List Letter} (hgap : IsGap gap) {version : Text}
    (hversion : IsOperand version) : operand? (gap ++ version.toList) = some version := by
  have hne : version.toList ≠ [] := mt Text.toList_eq_nil_iff.mp hversion.ne_empty
  have htrim : Text.trimLeft (gap ++ version.toList) = version.toList := by
    rw [Text.trimLeft_append hgap, Text.trimLeft_eq_self_iff]
    exact fun c hc => (not_isBlank_of_isVersionChar (hversion.chars c (List.mem_of_mem_head? hc))).1
  unfold operand?
  rw [htrim]
  dsimp only
  rw [if_pos ⟨hne, List.all_eq_true.mpr hversion.chars⟩, Text.ofList_toList]

namespace Clause

variable {clause : Clause} {cs : List Letter}

theorem isOperatorChar_of_mem_operator (clause : Clause) :
    ∀ c ∈ clause.operator, isOperatorChar c = true := by
  cases clause <;> simp [operator, isOperatorChar]

theorem operator_ne_nil (clause : Clause) : clause.operator ≠ [] := by
  cases clause <;> exact List.cons_ne_nil _ _

theorem ofText?_of_isSpelledBy (h : clause.IsSpelledBy cs) :
    ofText? (.ofList cs) = some clause := by
  obtain ⟨hversion, gap, hgap, rfl⟩ := h
  unfold ofText?
  rw [Text.toList_ofList]
  cases clause with
  | atLeast version => exact congrArg (Option.map atLeast) (operand?_of_gap hgap hversion)
  | below version => exact congrArg (Option.map below) (operand?_of_gap hgap hversion)

theorem IsSpelledBy.exists_operator (h : clause.IsSpelledBy cs) :
    ∃ c ds, cs = c :: ds ∧ isOperatorChar c = true := by
  obtain ⟨-, gap, -, rfl⟩ := h
  obtain ⟨c, ds, hoperator⟩ := List.exists_cons_of_ne_nil clause.operator_ne_nil
  have hc := clause.isOperatorChar_of_mem_operator c (by rw [hoperator]; exact List.mem_cons_self)
  rw [hoperator]
  exact ⟨c, _, rfl, hc⟩

theorem IsSpelledBy.ne_nil (h : clause.IsSpelledBy cs) : cs ≠ [] := by
  obtain ⟨c, ds, rfl, -⟩ := h.exists_operator
  exact List.cons_ne_nil c ds

theorem IsSpelledBy.isVersionChar_of_getLast? (h : clause.IsSpelledBy cs) :
    ∀ c ∈ cs.getLast?, isVersionChar c = true := by
  obtain ⟨hversion, gap, -, rfl⟩ := h
  rw [List.getLast?_append_of_ne_nil _ (mt Text.toList_eq_nil_iff.mp hversion.ne_empty)]
  exact fun c hc => hversion.chars c (List.mem_of_mem_getLast? hc)

theorem IsSpelledBy.splitFrom_append (h : clause.IsSpelledBy cs) (rest : List Letter) :
    splitFrom [] [] (cs ++ rest) = splitFrom cs [] rest := by
  obtain ⟨hversion, gap, hgap, rfl⟩ := h
  have hoperator : ∀ c ∈ clause.operator, isVersionChar c = true ∨ isOperatorChar c = true :=
    fun c hc => Or.inr (clause.isOperatorChar_of_mem_operator c hc)
  rw [List.append_assoc, List.append_assoc, splitFrom_append_of_forall _ _ hoperator, List.nil_append,
    ← List.append_assoc, splitFrom_gap_operand _ clause.operator_ne_nil hgap hversion]

end Clause

section Reading

variable {lower : Option Text} {upper : Text}

theorem addClauses_splitFrom {cs after : List Letter} (h : IsSpelledBy lower upper cs)
    (hafter : IsGap after) :
    addClauses {} ((splitFrom [] [] (cs ++ after)).map Text.ofList) =
      .ok ⟨lower.map Version.dropV, some (Version.dropV upper)⟩ := by
  cases h with
  | below hupper =>
    rw [hupper.splitFrom_append, splitFrom_gap_end _ hafter]
    simp [addClauses, Clause.ofText?_of_isSpelledBy hupper]
  | @between lower upper cs separator ds hlower hseparator hupper =>
    have hrest : splitFrom cs [] (separator ++ (ds ++ after)) = [cs, ds] := by
      obtain ⟨c, tail, hds, hc⟩ := hupper.exists_operator
      rw [hds, List.cons_append, splitFrom_separator _ hlower.ne_nil hseparator hc, ← List.cons_append,
        ← hds, hupper.splitFrom_append, splitFrom_gap_end _ hafter]
    rw [List.append_assoc, List.append_assoc, hlower.splitFrom_append, hrest]
    simp [addClauses, Clause.ofText?_of_isSpelledBy hlower, Clause.ofText?_of_isSpelledBy hupper]

theorem parse_of_spells {expression : Text} (h : Spells expression lower upper) :
    parse expression = .ok ⟨lower.map Version.dropV, some (Version.dropV upper)⟩ := by
  obtain ⟨before, cs, after, hbefore, hcs, hafter, heq⟩ := h
  unfold parse clauses
  rw [heq, List.append_assoc, splitFrom_nil_gap _ hbefore, addClauses_splitFrom hcs hafter]

theorem IsSpelledBy.isOperand {cs : List Letter} (h : IsSpelledBy lower upper cs) :
    (∀ version ∈ lower, IsOperand version) ∧ IsOperand upper := by
  cases h with
  | below hupper => exact ⟨by simp, hupper.1⟩
  | @between lower _ _ _ _ hlower _ hupper =>
    refine ⟨fun version hversion => ?_, hupper.1⟩
    obtain rfl : lower = version := Option.some.inj hversion
    exact hlower.1

theorem IsSpelledBy.exists_operator {cs : List Letter} (h : IsSpelledBy lower upper cs) :
    ∃ c ds, cs = c :: ds ∧ isOperatorChar c = true := by
  cases h with
  | below hupper => exact hupper.exists_operator
  | between hlower _ _ =>
    obtain ⟨c, ds, rfl, hc⟩ := hlower.exists_operator
    exact ⟨c, _, rfl, hc⟩

theorem IsSpelledBy.isVersionChar_of_getLast? {cs : List Letter} (h : IsSpelledBy lower upper cs) :
    ∀ c ∈ cs.getLast?, isVersionChar c = true := by
  cases h with
  | below hupper => exact hupper.isVersionChar_of_getLast?
  | between _ _ hupper =>
    rw [List.getLast?_append_of_ne_nil _ hupper.ne_nil]
    exact hupper.isVersionChar_of_getLast?

theorem Spells.isSpelledBy_trim {expression : Text} (h : Spells expression lower upper) :
    IsSpelledBy lower upper (Text.trim expression).toList := by
  obtain ⟨before, cs, after, hbefore, hcs, hafter, heq⟩ := h
  obtain ⟨c, ds, hcons, hc⟩ := hcs.exists_operator
  have hne : cs ≠ [] := by
    rw [hcons]
    exact List.cons_ne_nil c ds
  have hfirst : ∀ d ∈ cs.head?, Text.isBlank d = false := by
    rw [hcons]
    simpa using (not_isBlank_of_isOperatorChar hc).1
  have hlast : ∀ d ∈ cs.getLast?, Text.isBlank d = false :=
    fun d hd => (not_isBlank_of_isVersionChar (hcs.isVersionChar_of_getLast? d hd)).1
  rwa [Text.toList_trim_of_blanks heq hbefore hafter hne hfirst hlast]

theorem Spells.isConstraint {expression : Text} (h : Spells expression lower upper) :
    isConstraint expression = true := by
  obtain ⟨before, cs, after, hbefore, hcs, -, heq⟩ := h
  obtain ⟨c, ds, rfl, hc⟩ := hcs.exists_operator
  have hleft : Text.trimLeft (c :: (ds ++ after)) = c :: (ds ++ after) := by
    rw [Text.trimLeft_eq_self_iff]
    simpa using (not_isBlank_of_isOperatorChar hc).1
  unfold Constraint.isConstraint
  rw [heq, List.append_assoc, Text.trimLeft_append hbefore, List.cons_append, hleft]
  simpa using hc

end Reading

end AffectedVersions.Constraint
