import AffectedVersions.Span.Timeline
import AffectedVersions.Timeline.Coverage

/-! The status that a timeline, or spans with a default, give to a semantic version. -/
namespace AffectedVersions

namespace Version

/-- The text is a version, and `x` is level with it or comes after it. -/
def isReachedBy (version : Text) (x : SemVer) : Bool := (semVer? version).any (·.notAfter x)

def isAheadOf (version : Text) (x : SemVer) : Bool := (semVer? version).any x.precedes

end Version

def EventKind.status : EventKind → Status
  | .introduced => .affected
  | .fixed => .unaffected

/-- The last event in the list whose version is reached decides. Before all events the status is the
opposite of the one that the first event begins, and without events every version is affected. -/
def Timeline.statusAt (t : Timeline) (x : SemVer) : Status :=
  match (t.filter fun e => Version.isReachedBy e.version x).getLast?, t.head? with
  | some e, _ => e.kind.status
  | none, some first => first.kind.status.opposite
  | none, none => .affected

/-- Whether a span with plain bounds holds a version. An empty span holds none. -/
def Span.contains (s : Span) (x : SemVer) : Bool :=
  !s.isEmpty &&
    (s.introduced == "" || s.introduced == Version.genesis ||
      Version.isReachedBy s.introduced x) &&
    (s.fixed == "" || Version.isAheadOf s.fixed x)

/-- The status of the first span that holds the version, or else the default. -/
def Coverage.statusAt (c : Coverage) (x : SemVer) : Status :=
  match c.spans.find? (·.contains x) with
  | some s => s.statusAgainst c.default
  | none => c.default

end AffectedVersions
