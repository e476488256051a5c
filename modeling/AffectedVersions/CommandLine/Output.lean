import AffectedVersions.CommandLine.Arguments
import AffectedVersions.CommandLine.Path
import AffectedVersions.Event.Token
import AffectedVersions.Json.Printer
import AffectedVersions.Operation
import AffectedVersions.Text.Plain

/-! What the commands print. -/
namespace AffectedVersions.CommandLine

/-- The exit code, the lines of the two outputs, and the notes taken. -/
structure Output where
  code : Nat
  stdout : List String
  stderr : List String
  journal : List Note
  deriving DecidableEq

/-- A command that prints a line which cannot be encoded ends there by an exception. -/
inductive Ending where
  | usage
  | badSettings (details : List Detail)
  | finished (output : Output)
  | unencodable (output : Output)
  deriving DecidableEq

/-- The lines to print, `none` for one that cannot be encoded, and those shown and remarked. -/
structure Draft where
  code : Nat
  lines : List (Option String) := []
  shown : List Text
  remarks : List Text := []
  journal : List Note

/-- Letters that are no characters are escaped on the error output only. -/
def Draft.ending (d : Draft) : Ending :=
  let lines := (d.lines.takeWhile Option.isSome).filterMap id
  if d.lines.all Option.isSome then
    .finished ⟨d.code, lines, (d.shown ++ d.remarks).map Text.escaped, d.journal⟩
  else .unencodable ⟨1, lines, d.shown.map Text.escaped, d.journal⟩

/-- The text that lines are printed as. Each is ended by a line feed. -/
def printed (lines : List String) : String :=
  .ofList (lines.flatMap fun line => line.toList ++ ['\n'])

def pad (width : Nat) (s : Text) : Text :=
  .ofList (s.toList ++ List.replicate (width - s.length) (.char ' '))

def row (introduced fixed status : Text) : Text :=
  pad 15 introduced ++ " " ++ pad 15 fixed ++ " " ++ pad 10 status

def spanRow (s : Span) : Text :=
  row s.introduced (if s.fixed = "" then "-" else s.fixed)
    ((s.status.map Status.label).getD "-")

def timelineLines (r : RoundTrip) : List Text :=
  ["  original:      " ++ r.original.render, "  reconstructed: " ++ r.reconstructed.render]

def issueLine (issue : Issue) : Text := "  - " ++ issue.message

def resultLines (r : RoundTrip) : List Text :=
  (pad 4 (if r.ok then "OK" else "FAIL") ++ " " ++ r.module) ::
    (if r.isMatch then [] else timelineLines r) ++ r.issues.map issueLine

def documentLine? (x : Json) : Option String := if x.isWhole then some x.render else none

/-- The notes that are taken: all of them, unless there is a threshold. -/
def taken (threshold : Option Nat) (notes : List Note) : List Note :=
  match threshold with
  | none => notes
  | some least => notes.filter fun n => least ≤ n.level.severity

def shown (threshold : Option Nat) (notes : List Note) : List Text :=
  if threshold.isSome then (taken threshold notes).map Note.render else []

/-- Messages pass no control sequences on to a terminal; tables, documents and results do. -/
def errorLine (message : String) : Text := Text.plain ("Error: " ++ message)

def incompleteLine (modules : List Text) : Text :=
  Text.plain ("Not representable: " ++ Text.intercalate ", " modules)

def runSpans (threshold : Option Nat) (tokens : List Text) : Draft :=
  match Timeline.ofTokens tokens with
  | .error e => { code := 1, shown := [errorLine e.message], journal := [] }
  | .ok events =>
    let c := events.toCoverage
    let table := row "Introduced" "Fixed" "Status" :: c.spans.map spanRow
    let last : Text := "Default: " ++ c.default.label
    { code := 0, lines := (table ++ [last]).map Text.whole?,
      shown := shown threshold events.notes, journal := taken threshold events.notes }

def runEvents (threshold : Option Nat) (span : Span) (default : Status) : Draft :=
  let reading := Reading.ofSpans [span] (some default)
  let notes := span.notes default
  let draft : Draft :=
    { code := 0, shown := shown threshold notes, journal := taken threshold notes }
  if reading.complete then
    { draft with lines := [(Text.plain reading.events.render).whole?] }
  else { draft with code := 1, remarks := ["Not representable as a timeline"] }

def taskNotes (s : Settings) (f : File) : Task → List Note
  | .convert => f.convertNotes
  | .reconstruct => f.reconstructNotes s.assumedDefault
  | .check => f.checkNotes s.lint

/-- The document adapter is released before the result is printed. -/
def runDocument (threshold : Option Nat) (s : Settings) (task : Task) (f : File) : Draft :=
  let documents := Adapter.ofSettings s
  let opened : List Note := [.adapterOpened documents.collectionUrl]
  let notes := opened ++ taskNotes s f task ++ [.adapterReleased]
  let draft : Draft :=
    { code := 0, shown := shown threshold notes, journal := taken threshold notes }
  let failed (e : DocumentError) : Draft :=
    { draft with
      code := 1
      shown := shown threshold opened ++
        errorLine e.message :: shown threshold [.adapterReleased] }
  match task with
  | .convert =>
    match f.convert with
    | .error e => failed e
    | .ok entries =>
      { draft with lines := [documentLine? (Advisory.toJson documents.collectionUrl entries)] }
  | .reconstruct =>
    match f.reconstruct s.assumedDefault with
    | .error e => failed e
    | .ok histories =>
      let incomplete := (histories.filter (!·.complete)).map History.module
      { draft with
        code := if incomplete = [] then 0 else 1
        lines := [documentLine? (Report.toJson histories)]
        remarks := if incomplete = [] then [] else [incompleteLine incomplete] }
  | .check =>
    match f.check s.lint with
    | .error e => failed e
    | .ok results =>
      { draft with
        code := if results.all RoundTrip.ok then 0 else 1
        lines := (results.flatMap resultLines).map Text.whole? }

/-- The bytes of the file at a path, if there is one, are `content? path`. -/
def run (env : Environment) (content? : String → Option (List UInt8)) (items : List String) :
    Ending :=
  match parse items with
  | none => .usage
  | some ⟨threshold, .spans tokens⟩ => (runSpans threshold tokens).ending
  | some ⟨threshold, .events span default⟩ => (runEvents threshold span default).ending
  | some ⟨threshold, .document task path⟩ =>
    match content? path with
    | none => .usage
    | some bytes =>
      match Settings.read env [] with
      | .fail details => .badSettings details
      | .pass settings => (runDocument threshold settings task ⟨tidyPath path, bytes⟩).ending

end AffectedVersions.CommandLine
