import AffectedVersions.Version

/-! Events of a module's history, and timelines of them. -/
namespace AffectedVersions

inductive EventKind where
  | introduced
  | fixed
  deriving DecidableEq

/-- From `version` on the module is vulnerable (`introduced`) or no longer so (`fixed`). -/
structure Event where
  kind : EventKind
  version : Text
  deriving DecidableEq

/-- Events in the order in which they are said to have happened. The versions need not ascend. -/
abbrev Timeline := List Event

def EventKind.name : EventKind → String
  | .introduced => "introduced"
  | .fixed => "fixed"

def EventKind.opposite : EventKind → EventKind
  | .introduced => .fixed
  | .fixed => .introduced

@[simp] theorem EventKind.opposite_opposite (k : EventKind) : k.opposite.opposite = k := by
  cases k <;> rfl

/-- The event with its version less one leading "v". -/
def Event.normalized (e : Event) : Event := { e with version := Version.dropV e.version }

def Event.render (e : Event) : Text := e.kind.name ++ "=" ++ e.version

namespace Timeline

def normalized (t : Timeline) : Timeline := t.map Event.normalized

/-- The events with a space between each two, or a note that there are none. -/
def render (t : Timeline) : Text :=
  if t = [] then "(none)" else Text.intercalate " " (t.map Event.render)

end Timeline

end AffectedVersions
