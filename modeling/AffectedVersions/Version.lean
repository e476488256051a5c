import AffectedVersions.SemVer.Parser
import AffectedVersions.SemVer.Precedence
import AffectedVersions.Text.Basic

/-! Version texts. A version is any text; many begin with a cosmetic "v". -/
namespace AffectedVersions

def SemVer.ofText? (s : Text) : Option SemVer := s.whole?.bind parse?

namespace Version

/-- The version before every other one. -/
def genesis : Text := "0"

/-- Only one letter is dropped, so that "vv1" becomes "v1". -/
def dropVLetters : List Letter → List Letter
  | .char 'v' :: cs => cs
  | cs => cs

def dropV (version : Text) : Text := .ofList (dropVLetters version.toList)

def semVer? (version : Text) : Option SemVer := SemVer.ofText? (dropV version)

/-- The texts that are semantic versions, stably sorted by precedence. -/
def sort (versions : List Text) : List Text :=
  let read := versions.filterMap fun s => (semVer? s).map (s, ·)
  (read.mergeSort fun a b => a.2.notAfter b.2).map Prod.fst

end Version

end AffectedVersions
