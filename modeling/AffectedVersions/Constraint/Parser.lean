import AffectedVersions.Constraint.Clause
import AffectedVersions.Span.Basic
import AffectedVersions.Text.Quoted
import AffectedVersions.Version

/-! Constraints: both bounds of a span in one text, `>= A, < B` or `< B`. -/
namespace AffectedVersions.Constraint

/-- Why a clause cannot stand where it does, or that the last one is missing. -/
inductive Reason where
  | unrecognized (clause : Text)
  | lowerNotFirst
  | secondUpper
  | missingUpper
  deriving DecidableEq

def Reason.message : Reason → String
  | .unrecognized clause => "unrecognized clause " ++ Text.quote clause
  | .lowerNotFirst => "'>=' must be the first and only lower bound"
  | .secondUpper => "more than one '<' bound"
  | .missingUpper => "missing '<' upper bound"

/-- `known` holds the bounds read before the clause at fault. -/
structure Error where
  expression : Text
  reason : Reason
  known : Bounds
  deriving DecidableEq

def Error.message (e : Error) : String :=
  "Invalid constraint " ++ Text.quote e.expression ++ ": " ++ e.reason.message

/-- The bounds after `known` and the clauses, or those up to the first clause at fault. -/
def addClauses (known : Bounds) : List Text → Except (Reason × Bounds) Bounds
  | [] => if known.upper.isNone then .error (.missingUpper, known) else .ok known
  | clause :: rest =>
    match Clause.ofText? clause with
    | none => .error (.unrecognized clause, known)
    | some (.atLeast version) =>
      if known.lower.isSome || known.upper.isSome then .error (.lowerNotFirst, known)
      else addClauses { known with lower := some (Version.dropV version) } rest
    | some (.below version) =>
      if known.upper.isSome then .error (.secondUpper, known)
      else addClauses { known with upper := some (Version.dropV version) } rest

def parse (expression : Text) : Except Error Bounds :=
  match addClauses {} (clauses expression) with
  | .ok bounds => .ok bounds
  | .error (reason, known) => .error ⟨expression, reason, known⟩

/-- The first character that is not blank belongs to an operator. -/
def isConstraint (s : Text) : Bool := (Text.trimLeft s.toList).head?.any isOperatorChar

end AffectedVersions.Constraint
