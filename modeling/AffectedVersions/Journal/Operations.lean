import AffectedVersions.Document.File
import AffectedVersions.Journal.Note
import AffectedVersions.Timeline.RoundTrip

/-! The notes that each operation leaves, in order, as functions of what it works on. -/
namespace AffectedVersions

/-- Converting no events leaves no note. -/
def Timeline.notes (t : Timeline) : List Note :=
  if t = [] then []
  else [.layingOut t.length t.layout, .laidOut t.toCoverage.spans.length t.toCoverage.default]

def Span.constraintError? (s : Span) : Option Constraint.Error :=
  if Constraint.isConstraint s.lowerText then
    match Constraint.parse s.lowerText with
    | .ok _ => none
    | .error e => some e
  else none

def Span.notes (s : Span) (default : Status) : List Note :=
  if s.isEmpty then []
  else if s.isRepresentable default then s.constraintError?.toList.map .constraintAtFault
  else [.spanNotRepresentable s.introduced s.fixed (s.statusAgainst default) default]

namespace Reading

def notes (spans : List Span) (default : Option Status) : List Note :=
  spans.flatMap (·.notes (default.getD .unaffected))

end Reading

namespace History

def conversionNotes (h : History) : List Note :=
  h.events.notes ++
    [.converted h.module h.events.toCoverage.spans.length h.events.toCoverage.default]

def convertAllNotes (file : String) (modules : List History) : List Note :=
  .converting file modules.length :: modules.flatMap conversionNotes

def checkNotes (lint : Bool) (h : History) : List Note :=
  h.events.notes ++
    Reading.notes h.events.toCoverage.spans (some h.events.toCoverage.default) ++
    if (h.check lint).isMatch then [] else [.mismatch h.module]

def checkAllNotes (lint : Bool) (file : String) (modules : List History) : List Note :=
  .checking file modules.length lint :: modules.flatMap (checkNotes lint) ++
    [.checked (modules.countP fun h => (h.check lint).ok) modules.length]

end History

namespace Entry

def reconstructionNotes (assumed : Status) (e : Entry) : List Note :=
  Reading.notes e.spans (some (e.defaultOr assumed)) ++
    if (e.reading assumed).complete then []
    else [.entryNotRepresentable e.module (e.defaultOr assumed)]

def reconstructAllNotes (assumed : Status) (file : String) (entries : List Entry) : List Note :=
  .reconstructing file entries.length :: entries.flatMap (reconstructionNotes assumed)

end Entry

/-- A report is called by its id, or else by its file. -/
def Report.notes (file : String) (r : Report) : List Note :=
  [.reportLoaded ((r.id.filter (· ≠ ("" : Text))).getD file) r.modules.length]

def VersionRecord.notes (r : VersionRecord) : List Note :=
  if r.status?.isSome then [] else [.statusUnrecognized r.status]

def Advisory.notes (file : String) (records : List AffectedRecord) : List Note :=
  .advisoryLoaded file records.length ::
    records.flatMap fun r => (r.versions.getD []).flatMap VersionRecord.notes

end AffectedVersions
