import AffectedVersions.Numeral
import AffectedVersions.SemVer.Basic
import AffectedVersions.Text.Cut

/-! Reading semantic versions. The whole text has to be a version. -/
namespace AffectedVersions

/-- Letters, digits and the hyphen of ASCII. -/
def isIdentifierChar (c : Char) : Bool := c.isAlphanum || c == '-'

/-- A part of digits only is a number and has no leading zero. -/
def Identifier.ofChars? (cs : List Char) : Option Identifier :=
  if cs.all Char.isDigit then (Numeral.read? cs).map .numeric
  else if cs.all isIdentifierChar then some (.alphanumeric (.ofList cs))
  else none

namespace SemVer

def buildPart? (cs : List Char) : Option String :=
  if cs ≠ [] ∧ cs.all isIdentifierChar then some (.ofList cs) else none

/-- The parts of a tag, none for an absent one. A tag that is present has no empty part. -/
def tag? {α : Type} (part? : List Char → Option α) : Option (List Char) → Option (List α)
  | none => some []
  | some cs => (cs.splitOn '.').mapM part?

/-- The build begins at the first plus sign, and the prerelease at the first hyphen before it. -/
def parse? (s : String) : Option SemVer := do
  let (front, build) := Text.cut '+' s.toList
  let (core, prerelease) := Text.cut '-' front
  let [major, minor, patch] := core.splitOn '.' | none
  return {
    major := ← Numeral.readBounded? major
    minor := ← Numeral.readBounded? minor
    patch := ← Numeral.readBounded? patch
    prerelease := ← tag? Identifier.ofChars? prerelease
    build := ← tag? buildPart? build }

end SemVer

end AffectedVersions
