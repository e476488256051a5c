/-! Semantic versions. -/
namespace AffectedVersions

/-- One dot-separated part of a prerelease tag. -/
inductive Identifier where
  | numeric (value : Nat)
  | alphanumeric (text : String)
  deriving DecidableEq

/-- A semantic version. An empty `prerelease` or `build` means that the version has none. -/
structure SemVer where
  major : Nat
  minor : Nat
  patch : Nat
  prerelease : List Identifier := []
  build : List String := []
  deriving DecidableEq

def Identifier.render : Identifier → String
  | .numeric n => n.repr
  | .alphanumeric s => s

namespace SemVer

/-- The dot-separated text of a tag; `none` for an absent one. -/
def renderTag : List String → Option String
  | [] => none
  | parts => some (".".intercalate parts)

def prereleaseText (v : SemVer) : Option String := renderTag (v.prerelease.map Identifier.render)

def buildText (v : SemVer) : Option String := renderTag v.build

/-- `MAJOR.MINOR.PATCH`, then the prerelease after a hyphen and the build after a plus sign. -/
def render (v : SemVer) : String :=
  ".".intercalate [v.major.repr, v.minor.repr, v.patch.repr] ++
    (v.prereleaseText.map ("-" ++ ·)).getD "" ++ (v.buildText.map ("+" ++ ·)).getD ""

end SemVer

end AffectedVersions
