import AffectedVersions.Event.Basic
import AffectedVersions.Span.Basic

/-! What reports and advisories say about a module. -/
namespace AffectedVersions

/-- A module's timeline, `complete` unless spans that no events can tell were left out of it. -/
structure History where
  module : Text
  events : Timeline := []
  packages : List Text := []
  complete : Bool := true
  deriving DecidableEq

/-- A module's spans in an advisory. Its default status may be left out. -/
structure Entry where
  module : Text
  spans : List Span := []
  default : Option Status := none
  packages : List Text := []
  deriving DecidableEq

end AffectedVersions
