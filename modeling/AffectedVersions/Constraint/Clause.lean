import AffectedVersions.Text.Blank

/-! Clauses of a constraint: an operator and a version. -/
namespace AffectedVersions.Constraint

def isOperatorChar (c : Letter) : Bool := c == '<' || c == '>' || c == '='

/-- The pieces of a text between separators, given the piece `piece` and the blanks `gap` read so
far. A separator is a comma with the blanks around it, or blanks before an operator. -/
def splitFrom (piece gap : List Letter) : List Letter → List (List Letter)
  | [] => [piece]
  | c :: cs =>
    if Text.isBlank c then
      if piece = [] then splitFrom [] [] cs else splitFrom piece (gap ++ [c]) cs
    else if c = ',' then piece :: splitFrom [] [] cs
    else if gap ≠ [] ∧ isOperatorChar c then piece :: splitFrom [c] [] cs
    else splitFrom (piece ++ gap ++ [c]) [] cs

/-- Blanks around the expression belong to no clause, and clauses may be empty. -/
def clauses (expression : Text) : List Text :=
  (splitFrom [] [] expression.toList).map Text.ofList

/-- `>= VERSION` or `< VERSION`. -/
inductive Clause where
  | atLeast (version : Text)
  | below (version : Text)
  deriving DecidableEq

def isVersionChar (c : Letter) : Bool := !(Text.isBlank c || c == ',' || isOperatorChar c)

/-- A version after an operator: not empty, blanks before it ignored. -/
def operand? (cs : List Letter) : Option Text :=
  let version := Text.trimLeft cs
  if version ≠ [] ∧ version.all isVersionChar then some (.ofList version) else none

def Clause.ofText? (clause : Text) : Option Clause :=
  match clause.toList with
  | .char '>' :: .char '=' :: cs => (operand? cs).map .atLeast
  | .char '<' :: cs => (operand? cs).map .below
  | _ => none

end AffectedVersions.Constraint
