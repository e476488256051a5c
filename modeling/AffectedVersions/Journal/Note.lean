import AffectedVersions.Constraint.Parser
import AffectedVersions.Layout

/-! Notes that operations leave in a journal. -/
namespace AffectedVersions

inductive Level where
  | debug
  | info
  | warning
  | error
  | critical
  deriving DecidableEq

def Level.name : Level → String
  | .debug => "DEBUG"
  | .info => "INFO"
  | .warning => "WARNING"
  | .error => "ERROR"
  | .critical => "CRITICAL"

/-- The higher, the more severe. -/
def Level.severity : Level → Nat
  | .debug => 10
  | .info => 20
  | .warning => 30
  | .error => 40
  | .critical => 50

inductive Note where
  | adapterOpened (collectionUrl : Option Text)
  | adapterReleased
  | reportLoaded (title : Text) (modules : Nat)
  | advisoryLoaded (file : String) (entries : Nat)
  | statusUnrecognized (label : Text)
  | converting (file : String) (modules : Nat)
  | converted (module : Text) (spans : Nat) (default : Status)
  | layingOut (events : Nat) (layout : Layout)
  | laidOut (spans : Nat) (default : Status)
  | reconstructing (file : String) (entries : Nat)
  | spanNotRepresentable (introduced fixed : Text) (status default : Status)
  | constraintAtFault (error : Constraint.Error)
  | entryNotRepresentable (module : Text) (default : Status)
  | checking (file : String) (modules : Nat) (lint : Bool)
  | mismatch (module : Text)
  | checked (passed modules : Nat)
  deriving DecidableEq

namespace Note

def level : Note → Level
  | converting .. | reconstructing .. | checking .. | checked .. => .info
  | statusUnrecognized .. | spanNotRepresentable .. | constraintAtFault ..
  | entryNotRepresentable .. | mismatch .. => .warning
  | adapterOpened .. | adapterReleased | reportLoaded .. | advisoryLoaded .. | converted ..
  | layingOut .. | laidOut .. => .debug

def source : Note → String
  | adapterOpened .. | adapterReleased => "cve_ranges.app.container"
  | reportLoaded .. | advisoryLoaded .. | statusUnrecognized .. =>
    "cve_ranges.infra.json_documents"
  | converting .. | converted .. => "cve_ranges.core.usecases.convert_report"
  | layingOut .. | laidOut .. | spanNotRepresentable .. | constraintAtFault .. =>
    "cve_ranges.core.timeline"
  | reconstructing .. | entryNotRepresentable .. => "cve_ranges.core.usecases.reconstruct_timeline"
  | checking .. | mismatch .. | checked .. => "cve_ranges.core.usecases.check_round_trip"

def flagText (b : Bool) : String := if b then "True" else "False"

def message : Note → Text
  | adapterOpened url =>
    "Initializing JSON document adapter (collection_url=" ++ url.getD "None" ++ ")"
  | adapterReleased => "JSON document adapter released"
  | reportLoaded title modules =>
    "Loaded report " ++ title ++ " with " ++ modules.repr ++ " modules"
  | advisoryLoaded file entries => "Loaded " ++ entries.repr ++ " affected entries from " ++ file
  | statusUnrecognized label =>
    "Unrecognized version status " ++ Text.quote label ++ "; treating as unknown"
  | converting file modules => "Converting " ++ modules.repr ++ " modules from " ++ file
  | converted module spans default =>
    module ++ ": " ++ spans.repr ++ " ranges, default " ++ default.label
  | layingOut events layout =>
    "Converting " ++ events.repr ++ " events in " ++ layout.name.toUpper ++ " mode"
  | laidOut spans default =>
    "Produced " ++ spans.repr ++ " ranges, default status " ++ default.label
  | reconstructing file entries =>
    "Reconstructing timelines for " ++ entries.repr ++ " affected entries from " ++ file
  | spanNotRepresentable introduced fixed status default =>
    "Range " ++ Text.quote introduced ++ ".." ++ Text.quote fixed ++ " with status " ++
      status.label ++ " is not representable against default " ++ default.label
  | constraintAtFault e =>
    e.message ++ "; using partial bounds lower=" ++ Text.quoteOption e.known.lower ++ " upper=" ++
      Text.quoteOption e.known.upper
  | entryNotRepresentable module default =>
    module ++ ": some ranges are not representable against default " ++ default.label
  | checking file modules lint =>
    "Checking round trip for " ++ modules.repr ++ " modules from " ++ file ++ " (lint=" ++
      flagText lint ++ ")"
  | mismatch module => module ++ ": round trip mismatch"
  | checked passed modules => passed.repr ++ "/" ++ modules.repr ++ " modules passed"

def render (n : Note) : Text := n.level.name ++ " | " ++ n.source ++ " | " ++ n.message

end Note

end AffectedVersions
