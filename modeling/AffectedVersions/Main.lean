import AffectedVersions.CommandLine.Output

/-! The command line program. -/
namespace AffectedVersions.CommandLine

def readFile? (path : String) : IO (Option (List UInt8)) := do
  try
    return some (← IO.FS.readBinFile path).toList
  catch _ =>
    return none

/-- The environment variables of the settings, under their names in capitals. -/
def settingsEnvironment : IO Environment :=
  Settings.names.filterMapM fun name => do
    let key := (Settings.variableStem ++ name).toUpper
    return (← IO.getEnv key).map fun value => (key, .ofString value)

/-- The file that a command line asks for is read before the command is run. -/
def execute (items : List String) : IO UInt32 := do
  let content ← match parse items with
    | some ⟨_, .document _ path⟩ => readFile? path
    | _ => pure none
  match run (← settingsEnvironment) (fun _ => content) items with
  | .usage =>
    IO.eprintln "Usage: [--log-level LEVEL] ranges|timeline|convert|reconstruct|check ..."
    return 2
  | .badSettings details =>
    IO.eprintln (faultCount "AppConfig" details)
    return 1
  | .finished output =>
    IO.print (printed output.stdout)
    IO.eprint (printed output.stderr)
    return output.code.toUInt32
  | .unencodable output =>
    IO.print (printed output.stdout)
    IO.eprint (printed output.stderr)
    IO.eprintln "UnicodeEncodeError: surrogates not allowed"
    return 1

end AffectedVersions.CommandLine

def main (items : List String) : IO UInt32 := AffectedVersions.CommandLine.execute items
