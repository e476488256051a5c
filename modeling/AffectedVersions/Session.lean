import AffectedVersions.Operation

/-! Sessions: a client that is opened, asked, closed, and opened again. -/
namespace AffectedVersions

/-- A client keeps its settings. Its adapter is held once opened, and made again when used. -/
structure Client where
  settings : Settings
  adapter : Option Adapter
  deriving DecidableEq

/-- Why a client is not opened: it has no such keyword, or a setting cannot be read. -/
inductive Refusal where
  | unexpectedKeyword (name : String)
  | badSettings (details : List Detail)
  deriving DecidableEq

def Refusal.message : Refusal → String
  | .unexpectedKeyword name =>
    "CveRangesClient.__init__() got an unexpected keyword argument '" ++ name ++ "'"
  | .badSettings details => faultCount "AppConfig" details

namespace Client

def ofSettings (s : Settings) : Client := ⟨s, some (.ofSettings s)⟩

/-- The adapter that is used, and the client that holds it from then on. -/
def acquire (c : Client) : Adapter × Client :=
  match c.adapter with
  | some documents => (documents, c)
  | none =>
    let documents := .ofSettings c.settings
    (documents, { c with adapter := some documents })

def release (c : Client) : Client := { c with adapter := none }

def acquireNotes (c : Client) : List Note :=
  if c.adapter.isSome then [] else [.adapterOpened c.acquire.1.collectionUrl]

def releaseNotes (c : Client) : List Note := if c.adapter.isSome then [.adapterReleased] else []

/-- Only the names of the settings, spelled as they are, are keywords. -/
def unexpected? (keywords : Members) : Option String :=
  (keywords.map Prod.fst).find? fun name => !Settings.names.contains name

/-- Keywords that are null count as not given. -/
def given (keywords : Members) : Members :=
  keywords.filter fun (_, x) => match x with | .null => false | _ => true

def settings? (env : Environment) (keywords : Members) : Except Refusal Settings :=
  match unexpected? keywords with
  | some name => .error (.unexpectedKeyword name)
  | none =>
    match Settings.read env (given keywords) with
    | .pass settings => .ok settings
    | .fail details => .error (.badSettings details)

end Client

inductive Request where
  | connect (keywords : Members)
  | setEnvironment (env : Environment)
  | close
  | ask (operation : Operation)

inductive Response where
  | done
  | answered (answer : Answer)
  | failed (error : DocumentError)
  | refused (reason : Refusal)
  | noClient

def Response.ofResult : Except DocumentError Answer → Response
  | .ok answer => .answered answer
  | .error e => .failed e

structure Session where
  environment : Environment := []
  client : Option Client := none

namespace Session

/-- A client that cannot be opened leaves the one before it, and one that can does not close it. -/
def step (s : Session) : Request → Session
  | .connect keywords =>
    match Client.settings? s.environment keywords with
    | .ok settings => { s with client := some (.ofSettings settings) }
    | .error _ => s
  | .setEnvironment env => { s with environment := env }
  | .close => { s with client := s.client.map Client.release }
  | .ask operation =>
    if operation.usesDocuments then { s with client := s.client.map (·.acquire.2) } else s

def response (s : Session) : Request → Response
  | .connect keywords =>
    match Client.settings? s.environment keywords with
    | .ok _ => .done
    | .error reason => .refused reason
  | .setEnvironment _ => .done
  | .close => if s.client.isSome then .done else .noClient
  | .ask operation =>
    match s.client with
    | none => .noClient
    | some c => .ofResult (operation.answer c.settings c.acquire.1)

def notes (s : Session) : Request → List Note
  | .connect keywords =>
    match Client.settings? s.environment keywords with
    | .ok settings => [.adapterOpened (Adapter.ofSettings settings).collectionUrl]
    | .error _ => []
  | .setEnvironment _ => []
  | .close => (s.client.map Client.releaseNotes).getD []
  | .ask operation =>
    match s.client with
    | none => []
    | some c =>
      (if operation.usesDocuments then c.acquireNotes else []) ++ operation.notes c.settings

def run (s : Session) (requests : List Request) : Session := requests.foldl step s

def responses (s : Session) : List Request → List Response
  | [] => []
  | r :: rest => s.response r :: (s.step r).responses rest

/-- The notes of all requests and of the close at the end. -/
def journal (s : Session) : List Request → List Note
  | [] => s.notes .close
  | r :: rest => s.notes r ++ (s.step r).journal rest

end Session

end AffectedVersions
