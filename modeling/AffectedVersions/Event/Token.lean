import AffectedVersions.Event.Basic
import AffectedVersions.Text.Label
import AffectedVersions.Text.Quoted

/-! Events as they are typed: `KIND=VERSION`. -/
namespace AffectedVersions

inductive TokenFault where
  | noSeparator
  | unknownKind
  | missingVersion
  deriving DecidableEq

structure TokenError where
  token : Text
  fault : TokenFault
  deriving DecidableEq

def TokenFault.message : TokenFault → String
  | .noSeparator => "expected KIND=VERSION"
  | .unknownKind => "kind must be 'introduced' or 'fixed'"
  | .missingVersion => "missing version"

def TokenError.message (e : TokenError) : String :=
  "Invalid event " ++ Text.quote e.token ++ ": " ++ e.fault.message

/-- A kind by its name or first letter, in any case, blanks around it ignored. -/
def EventKind.read? (name : Text) : Option EventKind :=
  let key := Text.labelKey name
  if key = "introduced" ∨ key = "i" then some .introduced
  else if key = "fixed" ∨ key = "f" then some .fixed
  else none

/-- The kind stands before the first equals sign, and the trimmed version after it. -/
def Event.ofToken (token : Text) : Except TokenError Event :=
  match Text.cut ('=' : Letter) token.toList with
  | (_, none) => .error ⟨token, .noSeparator⟩
  | (kind, some version) =>
    match EventKind.read? (.ofList kind), Text.trim (.ofList version) with
    | none, _ => .error ⟨token, .unknownKind⟩
    | some kind, version =>
      if version = "" then .error ⟨token, .missingVersion⟩ else .ok ⟨kind, version⟩

/-- The timeline of all tokens, or the error of the first one that is no event. -/
def Timeline.ofTokens (tokens : List Text) : Except TokenError Timeline :=
  tokens.mapM Event.ofToken

end AffectedVersions
