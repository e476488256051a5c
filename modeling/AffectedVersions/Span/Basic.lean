import AffectedVersions.Status

/-! Spans of versions that share a status. -/
namespace AffectedVersions

/-- The versions from `introduced` up to, and without, `fixed`. An `introduced` of "0" stands
before every version, and an empty `fixed` sets no end. A span without a status has the opposite of
the default it is read against. The field `introduced` may hold a constraint for both bounds. -/
structure Span where
  introduced : Text := ""
  fixed : Text := ""
  status : Option Status := none
  scheme : Text := "semver"
  deriving DecidableEq

def Span.isEmpty (s : Span) : Bool := s.introduced == "" && s.fixed == ""

/-- The two ends of a span; `none` where there is no end. -/
structure Bounds where
  lower : Option Text := none
  upper : Option Text := none
  deriving DecidableEq

/-- The spans of a module and the status of all versions outside them. -/
structure Coverage where
  spans : List Span
  default : Status
  deriving DecidableEq

end AffectedVersions
