import AffectedVersions.Document.Advisory
import AffectedVersions.Document.Report
import AffectedVersions.Json.Reader
import AffectedVersions.Text.Utf8

/-! Files that hold documents. -/
namespace AffectedVersions

/-- A file by the name that messages give it, and its content. -/
structure File where
  name : String
  bytes : List UInt8
  deriving DecidableEq

/-- Why a file does not hold the document that is wanted, or that there is none to be opened. -/
inductive DocumentError where
  | unopened (reason : String)
  | encoding (fault : Utf8.Fault)
  | json (error : Json.Error)
  | invalid (model : String) (details : List Detail)
  | notDocument (file : String) (type : String)
  deriving DecidableEq

def faultCount (model : String) (details : List Detail) : String :=
  details.length.repr ++ (if details.length = 1 then " validation error for " else
    " validation errors for ") ++ model

/-- The first line of what there is to say about the error. -/
def DocumentError.message : DocumentError → String
  | .unopened reason => reason
  | .encoding fault => fault.message
  | .json error => error.message
  | .invalid model details => faultCount model details
  | .notDocument file type => file ++ ": expected a JSON object or list, got " ++ type

def Checked.orInvalid {α : Type} (model : String) : Checked α → Except DocumentError α
  | .pass a => .ok a
  | .fail details => .error (.invalid model details)

def Json.typeName : Json → String
  | .null => "NoneType"
  | .bool _ => "bool"
  | .int _ => "int"
  | .real _ => "float"
  | .str _ => "str"
  | .arr _ => "list"
  | .obj _ => "object"

def Report.ofJson (x : Json) : Except DocumentError Report :=
  (Report.check x).orInvalid "ReportDocument"

/-- An advisory is a list of affected objects, an object with such a list, or a full record. -/
def Advisory.ofJson (file : String) : Json → Except DocumentError (List AffectedRecord)
  | .arr xs => (checkList (.arr xs)).orInvalid "list[Cve5Affected]"
  | .obj ms =>
    if (ms.lookup "containers").isSome then (checkRecord (.obj ms)).orInvalid "Cve5Record"
    else (checkList ((ms.lookup "affected").getD (.arr []))).orInvalid "list[Cve5Affected]"
  | x => .error (.notDocument file x.typeName)

namespace File

/-- The JSON value in a file: UTF-8 text whose line ends are unified before it is read. -/
def json (f : File) : Except DocumentError Json :=
  match Utf8.decode f.bytes with
  | .error fault => .error (.encoding fault)
  | .ok text => (Json.parse (Text.unifyLineEnds text)).mapError .json

def report (f : File) : Except DocumentError Report := f.json.bind Report.ofJson

def advisory (f : File) : Except DocumentError (List AffectedRecord) :=
  f.json.bind (Advisory.ofJson f.name)

def entries (f : File) : Except DocumentError (List Entry) :=
  f.advisory.map (·.map AffectedRecord.toEntry)

end File

end AffectedVersions
