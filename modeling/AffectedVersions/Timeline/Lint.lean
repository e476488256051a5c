import AffectedVersions.Event.Basic
import AffectedVersions.Text.Quoted

/-! Faults of a timeline that do not stop it from being converted. -/
namespace AffectedVersions

inductive Issue where
  | notSemVer (event : Event)
  | repeatedKind (earlier later : Event)
  | notAscending (earlier later : Event)
  | notRepresentable
  deriving DecidableEq

def Issue.message : Issue → Text
  | .notSemVer e => e.kind.name ++ " version " ++ Text.quote e.version ++ " is not valid semver"
  | .repeatedKind earlier later =>
    "consecutive " ++ later.kind.name ++ " events at " ++ earlier.version ++ " and " ++
      later.version
  | .notAscending earlier later =>
    "version " ++ later.version ++ " does not come after " ++ earlier.version
  | .notRepresentable => "ranges are not representable as a timeline"

/-- Whether the version of `later` is read and does not come after that of `earlier`. -/
def Event.doesNotFollow (later earlier : Event) : Bool :=
  match Version.semVer? earlier.version, Version.semVer? later.version with
  | some a, some b => b.notAfter a
  | _, _ => false

namespace Timeline

def versionIssues (t : Timeline) : List Issue :=
  (t.filter fun e => (Version.semVer? e.version).isNone).map .notSemVer

def stepIssues (earlier later : Event) : List Issue :=
  (if earlier.kind = later.kind then [.repeatedKind earlier later] else []) ++
    if later.doesNotFollow earlier then [.notAscending earlier later] else []

/-- All versions are read first; then each two consecutive events are compared. -/
def lint (t : Timeline) : List Issue :=
  t.versionIssues ++ (t.zip t.tail).flatMap fun (earlier, later) => stepIssues earlier later

end Timeline

end AffectedVersions
