import AffectedVersions.Document.File

/-! Settings, which come from keywords and from environment variables. -/
namespace AffectedVersions

abbrev Environment := List (String × Text)

structure Settings where
  assumedDefault : Status := .unaffected
  collectionUrl : Option Text := none
  lint : Bool := true
  deriving DecidableEq

namespace Settings

def statusName : String := "assumed_default_status"

def collectionUrlName : String := "collection_url"

def lintName : String := "lint"

def names : List String := [statusName, collectionUrlName, lintName]

/-- Before the name of a setting this makes the name of its environment variable. -/
def variableStem : String := "cve_ranges_"

/-- The value of a variable whose name may be in any case. Of several the last one counts. -/
def ofEnvironment? (env : Environment) (name : String) : Option Text :=
  (env.filter (Text.fold ·.1 == variableStem ++ name)).getLast?.map Prod.snd

/-- The value of the first keyword that is the name of a setting in any case. -/
def keyword? (keywords : Members) (name : String) : Option Json :=
  (keywords.find? (Text.fold ·.1 == name)).map Prod.snd

/-- The value given for a setting. A keyword makes the environment variable irrelevant. -/
def given? (env : Environment) (keywords : Members) (name : String) : Option Json :=
  keyword? keywords name <|> (ofEnvironment? env name).map .str

def flagWords : List (Text × Bool) :=
  [("1", true), ("on", true), ("t", true), ("true", true), ("y", true), ("yes", true),
    ("0", false), ("off", false), ("f", false), ("false", false), ("n", false), ("no", false)]

/-- Other numbers of the size of a machine word are flags that cannot be read, larger ones none. -/
def flagOf (n : Int) (isWord : Bool) : Checked Bool :=
  if n = 0 then .pass false
  else if n = 1 then .pass true
  else .complain (if isWord then .unreadableFlag else .notFlag)

def wordBound : Int := Int.pow 2 63

/-- A flag is a truth value, a zero or one as the nearest double, or a word in any case. -/
def checkFlag : Json → Checked Bool
  | .bool b => .pass b
  | .int n => flagOf n (-wordBound ≤ n && n < wordBound)
  | .real x =>
    match x.integer? with
    | some n => flagOf n (-wordBound < n && n < wordBound)
    | none => .complain .notFlag
  | .str s =>
    match flagWords.lookup (Text.fold s) with
    | some b => .pass b
    | none => .complain .unreadableFlag
  | _ => .complain .notFlag

/-- A status is given by exactly its label. -/
def checkStatus : Json → Checked Status
  | .str s =>
    match Status.ofLabel? s with
    | some status => .pass status
    | none => .complain .notStatus
  | _ => .complain .notStatus

/-- Check the value given for a setting, or take its default. -/
def setting {α : Type} (given : String → Option Json) (name : String) (check : Json → Checked α)
    (default : α) : Checked α :=
  match given name with
  | some x => (check x).under (.name name)
  | none => .pass default

def extraKeywords (keywords : Members) : List String :=
  (keywords.map Prod.fst).filter fun keyword => names.all fun name => Text.fold keyword != name

def checkExtra (keywords : Members) : Checked Unit :=
  match extraKeywords keywords with
  | [] => .pass ()
  | extra => .fail (extra.map fun name => ⟨.extraKeyword, [.name name]⟩)

def read (env : Environment) (keywords : Members) : Checked Settings :=
  let given := given? env keywords
  (fun assumedDefault collectionUrl lint _ => { assumedDefault, collectionUrl, lint })
    <$> setting given statusName checkStatus .unaffected
    <*> setting given collectionUrlName (Schema.nullable Schema.text) none
    <*> setting given lintName checkFlag true
    <*> checkExtra keywords

end Settings

end AffectedVersions
