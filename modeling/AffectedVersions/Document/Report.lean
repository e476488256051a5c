import AffectedVersions.History
import AffectedVersions.Schema.Field

/-! Reports: the histories of modules as a JSON document. -/
namespace AffectedVersions

structure Report where
  id : Option Text := none
  modules : List History := []
  deriving DecidableEq

namespace Report

open Schema

/-- A version entry has exactly one of the two kinds. -/
def eventOf : Option Text × Option Text → Checked Event
  | (some version, none) => .pass ⟨.introduced, version⟩
  | (none, some version) => .pass ⟨.fixed, version⟩
  | _ => .complain .notOneKind

def checkEvent : Json → Checked Event :=
  object "ReportVersion" fun ms =>
    Checked.andThen (Prod.mk <$> optional "introduced" text ms
      <*> optional "fixed" text ms) eventOf

def checkPackage : Json → Checked Text :=
  object "ReportPackage" fun ms => Field.required "package" text ms

def checkModule : Json → Checked History :=
  object "ReportModule" fun ms =>
    (fun module events packages => { module, events, packages })
      <$> Field.required "module" text ms
      <*> Field.orElse "versions" (list checkEvent) [] ms
      <*> Field.orElse "packages" (list checkPackage) [] ms

/-- Keys that are not named here are ignored at every level. -/
def check : Json → Checked Report :=
  object "ReportDocument" fun ms =>
    Report.mk <$> optional "id" text ms
      <*> Field.orElse "modules" (list checkModule) [] ms

end Report

def Event.toJson (e : Event) : Json := .obj [(e.kind.name, .str e.version)]

def History.toJson (h : History) : Json :=
  .obj [("module", .str h.module), ("versions", .arr (h.events.map Event.toJson)),
    ("packages", .arr (h.packages.map fun p => .obj [("package", .str p)]))]

def Report.toJson (modules : List History) : Json :=
  .obj [("modules", .arr (modules.map History.toJson))]

end AffectedVersions
