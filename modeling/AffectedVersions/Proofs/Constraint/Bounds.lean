import AffectedVersions.Proofs.Constraint.Clauses
import AffectedVersions.Proofs.Version.Plain
import Mathlib

/-! The bounds that a constraint sets hold no blank, no comma and no operator. -/
namespace AffectedVersions.Constraint

/-- The version at the lower bound holds nothing but version characters. -/
def HasCleanLower (b : Bounds) : Prop :=
  ∀ version ∈ b.lower, ∀ c ∈ version.toList, isVersionChar c = true

/-- The bounds that were reached when the clauses ended or one of them was at fault. -/
def reached : Except (Reason × Bounds) Bounds → Bounds
  | .ok bounds => bounds
  | .error (_, known) => known

/-- The bounds that are known of an expression after it was read. -/
def knownBounds (expression : Text) : Bounds :=
  match parse expression with
  | .ok bounds => bounds
  | .error e => e.known

theorem knownBounds_eq_reached (expression : Text) :
    knownBounds expression = reached (addClauses {} (clauses expression)) := by
  unfold knownBounds parse
  cases addClauses {} (clauses expression) <;> rfl

theorem IsBeginning.hasCleanLower {texts : List Text} {bounds : Bounds}
    (h : IsBeginning texts bounds) : HasCleanLower bounds := by
  have hclean : ∀ {clause version : Text} {upper : Option Text},
      (Clause.atLeast version).IsSpelledBy clause.toList →
      HasCleanLower ⟨some (Version.dropV version), upper⟩ := by
    intro clause version upper hclause v hv c hc
    obtain rfl := Option.some.inj hv
    exact hclause.1.chars c (Version.mem_of_mem_dropV hc)
  cases h with
  | nothing => simp [HasCleanLower]
  | lower hclause => exact hclean hclause
  | upper _ => simp [HasCleanLower]
  | both hfirst _ => exact hclean hfirst

theorem exists_isBeginning_reached (texts : List Text) :
    ∃ read, IsBeginning read (reached (addClauses {} texts)) := by
  cases h : addClauses {} texts with
  | ok bounds => exact ⟨_, (isBeginning_of_addClauses_eq_ok .nothing h).1⟩
  | error stop =>
    obtain ⟨read, _, _, hread, _⟩ := exists_isStop_of_addClauses_eq_error .nothing h
    exact ⟨_, hread⟩

theorem knownBounds_hasCleanLower (expression : Text) :
    HasCleanLower (knownBounds expression) := by
  rw [knownBounds_eq_reached]
  obtain ⟨read, hread⟩ := exists_isBeginning_reached (clauses expression)
  exact hread.hasCleanLower

theorem exists_operator_of_isConstraint {s : Text} (h : isConstraint s = true) :
    ∃ c ∈ s.toList, isOperatorChar c = true := by
  obtain ⟨c, hc, hop⟩ := (Option.any_eq_true _ _).mp h
  exact ⟨c, (Text.trimLeft_isSuffix _).subset (List.mem_of_mem_head? hc), hop⟩

/-- A constraint cannot give its own text as lower bound, since that holds an operator. -/
theorem lower_knownBounds_ne {s : Text} (h : isConstraint s = true) {version : Text}
    (hsub : s.toList ⊆ version.toList) : (knownBounds s).lower ≠ some version := by
  intro hlower
  obtain ⟨c, hc, hop⟩ := exists_operator_of_isConstraint h
  have hclean := knownBounds_hasCleanLower s version hlower c (hsub hc)
  simp [isVersionChar, hop] at hclean

theorem isConstraint_eq_false_iff {s : Text} (h : Text.IsTrimmed s) :
    isConstraint s = false ↔ ∀ c ∈ s.toList.head?, isOperatorChar c = false := by
  unfold isConstraint
  rw [(Text.trimLeft_eq_self_iff _).mpr h.first]
  cases s.toList.head? <;> simp

end AffectedVersions.Constraint
