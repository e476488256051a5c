import AffectedVersions.Event.Basic
import AffectedVersions.Status

/-! The two ways to lay a timeline out as spans and a default status. -/
namespace AffectedVersions

/-- A `closed` layout lists the affected spans, an `openEnded` one the unaffected gaps. -/
inductive Layout where
  | closed
  | openEnded
  deriving DecidableEq

namespace Layout

/-- A timeline whose last event is an introduction never closes; every other one does. -/
def ofLastKind : Option EventKind → Layout
  | some .introduced => openEnded
  | _ => closed

def name : Layout → String
  | closed => "closed"
  | openEnded => "open"

def defaultStatus : Layout → Status
  | closed => .unaffected
  | openEnded => .affected

def spanStatus (l : Layout) : Status := l.defaultStatus.opposite

def openingKind : Layout → EventKind
  | closed => .introduced
  | openEnded => .fixed

theorem spanStatus_ne_defaultStatus (l : Layout) : l.spanStatus ≠ l.defaultStatus := by
  cases l <;> decide

end Layout

end AffectedVersions
