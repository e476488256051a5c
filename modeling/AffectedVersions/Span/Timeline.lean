import AffectedVersions.Constraint.Parser
import AffectedVersions.Event.Basic

/-! The events that spans stand for, when they are read against a default status. -/
namespace AffectedVersions

def nonEmpty? (s : Text) : Option Text := if s = "" then none else some s

namespace Span

/-- The field `introduced` less the blanks around it and one "v". -/
def lowerText (s : Span) : Text := Version.dropV (Text.trim s.introduced)

def upperText (s : Span) : Text := Version.dropV (Text.trim s.fixed)

/-- A constraint sets both bounds. One with a fault gives those it could, and `fixed` stands in for
an upper bound that it did not reach. -/
def statedBounds (s : Span) : Bounds :=
  if Constraint.isConstraint s.lowerText then
    match Constraint.parse s.lowerText with
    | .ok bounds => bounds
    | .error e => { e.known with upper := e.known.upper <|> nonEmpty? s.upperText }
  else { lower := nonEmpty? s.lowerText, upper := nonEmpty? s.upperText }

/-- The bounds of a span. One that begins before every version has no lower bound. -/
def bounds (s : Span) : Bounds :=
  if s.statedBounds.lower = some Version.genesis then { s.statedBounds with lower := none }
  else s.statedBounds

/-- The status of the span where `default` is the status around it. -/
def statusAgainst (s : Span) (default : Status) : Status := s.status.getD default.opposite

/-- Whether the ends of the span change the status of versions: it has a known status, and another
one than the versions around it. An empty span has no ends. -/
def isRepresentable (s : Span) (default : Status) : Bool :=
  s.isEmpty || (s.statusAgainst default != .unknown && s.statusAgainst default != default)

def openingKind (s : Span) (default : Status) : EventKind :=
  if s.statusAgainst default = .affected then .introduced else .fixed

def endEvents (kind : EventKind) (version : Option Text) : Timeline :=
  (version.filter (· ≠ ("" : Text))).toList.map (Event.mk kind)

/-- The events at the two ends of a span; none for a span that is not representable. -/
def events (s : Span) (default : Status) : Timeline :=
  if s.isEmpty || !s.isRepresentable default then []
  else
    let opening := s.openingKind default
    endEvents opening s.bounds.lower ++ endEvents opening.opposite s.bounds.upper

end Span

/-- The events read from spans. It is `complete` when all of them could be told by events. -/
structure Reading where
  events : Timeline
  complete : Bool
  deriving DecidableEq

namespace Reading

/-- Spans that share a default status are read one after the other. -/
def ofSpans (spans : List Span) (default : Option Status) : Reading :=
  let default := default.getD .unaffected
  ⟨spans.flatMap (·.events default), spans.all (·.isRepresentable default)⟩

end Reading

def Coverage.read (c : Coverage) : Reading := .ofSpans c.spans (some c.default)

end AffectedVersions
