import AffectedVersions.Journal.Operations
import AffectedVersions.Settings

/-! What can be asked under given settings, and the answers. -/
namespace AffectedVersions

/-- The document adapter. It writes the collection URL that it was made with. -/
structure Adapter where
  collectionUrl : Option Text
  deriving DecidableEq

namespace Adapter

def ofSettings (s : Settings) : Adapter := ⟨s.collectionUrl⟩

def affected (a : Adapter) (entries : List Entry) : List Json :=
  Advisory.affected a.collectionUrl entries

end Adapter

namespace File

def convert (f : File) : Except DocumentError (List Entry) :=
  f.report.map fun r => r.modules.map History.toEntry

def reconstruct (assumed : Status) (f : File) : Except DocumentError (List History) :=
  f.entries.map fun entries => entries.map (·.toHistory assumed)

def check (lint : Bool) (f : File) : Except DocumentError (List RoundTrip) :=
  f.report.map fun r => r.modules.map (·.check lint)

/-- The notes of loading a report and of what is done `next` with it; none if it holds no report. -/
def reportNotes (f : File) (next : List History → List Note) : List Note :=
  match f.report with
  | .ok r => r.notes f.name ++ next r.modules
  | .error _ => []

def advisoryNotes (f : File) (next : List Entry → List Note) : List Note :=
  match f.advisory with
  | .ok records => Advisory.notes f.name records ++ next (records.map AffectedRecord.toEntry)
  | .error _ => []

def convertNotes (f : File) : List Note := f.reportNotes (History.convertAllNotes f.name)

def reconstructNotes (assumed : Status) (f : File) : List Note :=
  f.advisoryNotes (Entry.reconstructAllNotes assumed f.name)

def checkNotes (lint : Bool) (f : File) : List Note :=
  f.reportNotes (History.checkAllNotes lint f.name)

end File

/-- The last operation is one on a document at a path where no file can be opened. -/
inductive Operation where
  | coverage (events : Timeline)
  | reading (span : Option Span) (default : Option Status)
  | convert (file : File)
  | convertEntries (file : File)
  | reconstruct (file : File)
  | check (file : File)
  | unopened (reason : String)

inductive Answer where
  | coverage (coverage : Coverage)
  | reading (reading : Reading)
  | affected (objects : List Json)
  | entries (entries : List Entry)
  | histories (histories : List History)
  | roundTrips (results : List RoundTrip)

namespace Operation

def usesDocuments : Operation → Bool
  | coverage _ | reading .. => false
  | convert _ | convertEntries _ | reconstruct _ | check _ | unopened _ => true

def answer (s : Settings) (documents : Adapter) : Operation → Except DocumentError Answer
  | coverage events => .ok (.coverage events.toCoverage)
  | reading span default => .ok (.reading (.ofSpans span.toList default))
  | convert f => f.convert.map fun entries => .affected (documents.affected entries)
  | convertEntries f => f.convert.map .entries
  | reconstruct f => (f.reconstruct s.assumedDefault).map .histories
  | check f => (f.check s.lint).map .roundTrips
  | unopened reason => .error (.unopened reason)

def notes (s : Settings) : Operation → List Note
  | coverage events => events.notes
  | reading span default => Reading.notes span.toList default
  | convert f | convertEntries f => f.convertNotes
  | reconstruct f => f.reconstructNotes s.assumedDefault
  | check f => f.checkNotes s.lint
  | unopened _ => []

end Operation

end AffectedVersions
