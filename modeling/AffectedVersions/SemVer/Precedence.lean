import AffectedVersions.SemVer.Basic

/-! Precedence of semantic versions: a total preorder that ignores the build. -/
namespace AffectedVersions

/-- Numbers come before texts. -/
def Identifier.compare : Identifier → Identifier → Ordering
  | .numeric m, .numeric n => Ord.compare m n
  | .numeric _, .alphanumeric _ => .lt
  | .alphanumeric _, .numeric _ => .gt
  | .alphanumeric s, .alphanumeric t => Ord.compare s t

namespace SemVer

/-- A version without a prerelease comes after those with one. Otherwise the first parts that
differ decide, and a tag that runs out comes first. -/
def comparePrerelease : List Identifier → List Identifier → Ordering :=
  compareLex (compareOn List.isEmpty) (List.compareLex Identifier.compare)

def compare : SemVer → SemVer → Ordering :=
  compareLex (compareOn major) <| compareLex (compareOn minor) <| compareLex (compareOn patch)
    fun a b => comparePrerelease a.prerelease b.prerelease

def precedes (a b : SemVer) : Bool := a.compare b == .lt

/-- `a` comes before `b` or stands level with it. -/
def notAfter (a b : SemVer) : Bool := a.compare b != .gt

end SemVer

end AffectedVersions
