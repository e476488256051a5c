import AffectedVersions.Journal.Note
import AffectedVersions.Text.Cut

/-! The arguments of the command line. -/
namespace AffectedVersions.CommandLine

inductive Task where
  | convert
  | reconstruct
  | check
  deriving DecidableEq

inductive Command where
  | spans (tokens : List Text)
  | events (span : Span) (default : Status)
  | document (task : Task) (path : String)
  deriving DecidableEq

/-- A command, and the least severity of the notes taken and shown. Without it none are shown. -/
structure Invocation where
  threshold : Option Nat
  command : Command
  deriving DecidableEq

/-- A lone hyphen is an argument. -/
def isOption (item : String) : Bool := item.toList.head? == some '-' && item.length != 1

/-- The options with their values, and the arguments: those between options, all items after `--`,
and without `mixed` all items from the first one on. -/
def scan (known : List String) (mixed : Bool) :
    List String → Option (List (String × String) × List String)
  | [] => some ([], [])
  | item :: rest =>
    if item = "--" then some ([], rest)
    else if isOption item then
      match Text.cut '=' item.toList with
      | (name, some value) =>
        if known.contains (.ofList name) then
          (scan known mixed rest).map fun (options, args) =>
            ((.ofList name, .ofList value) :: options, args)
        else none
      | (_, none) =>
        match rest with
        | value :: rest =>
          if known.contains item then
            (scan known mixed rest).map fun (options, args) => ((item, value) :: options, args)
          else none
        | [] => none
    else if mixed then (scan known mixed rest).map fun (options, args) => (options, item :: args)
    else some ([], item :: rest)

/-- The value of an option that is given several times is the last one. -/
def lastValue (options : List (String × String)) (name : String) : Option String :=
  (options.filter (·.1 == name)).getLast?.map Prod.snd

/-- The threshold of each log level. Without one of its own a warning is enough. -/
def thresholds : List (String × Option Nat) :=
  [("OFF", none), ("CRITICAL", some Level.critical.severity), ("ERROR", some Level.error.severity),
    ("WARNING", some Level.warning.severity), ("INFO", some Level.info.severity),
    ("DEBUG", some Level.debug.severity), ("NOTSET", some Level.warning.severity)]

def statusOption {α : Type} (options : List (String × String)) (name : String) (default : α)
    (given : Status → α) : Option α :=
  match lastValue options name with
  | none => some default
  | some label => (Status.ofLabel? label).map given

def documentCommand (task : Task) (items : List String) : Option Command := do
  let (_, [path]) ← scan [] true items | none
  return .document task path

def command (name : String) (items : List String) : Option Command :=
  match name with
  | "ranges" => do
    let (_, tokens) ← scan [] true items
    if tokens = [] then none else return .spans (tokens.map .ofString)
  | "timeline" => do
    let (options, [introduced]) ← scan ["--fixed", "--status", "--default-status"] true items | none
    let fixed := (lastValue options "--fixed").getD ""
    let status ← statusOption options "--status" none some
    let default ← statusOption options "--default-status" .unaffected id
    return .events { introduced, fixed, status } default
  | "convert" => documentCommand .convert items
  | "reconstruct" => documentCommand .reconstruct items
  | "check" => documentCommand .check items
  | _ => none

def parse (items : List String) : Option Invocation := do
  let (options, name :: rest) ← scan ["--log-level"] false items | none
  let threshold ← match lastValue options "--log-level" with
    | none => some none
    | some level => thresholds.lookup level
  return ⟨threshold, ← command name rest⟩

end AffectedVersions.CommandLine
