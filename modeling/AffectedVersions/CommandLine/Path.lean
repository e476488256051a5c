/-! Paths as messages show them. -/
namespace AffectedVersions.CommandLine

/-- Two slashes before the first part of a path differ from one, and more than two are as one. -/
def rootSlashes : List Char → List Char
  | '/' :: '/' :: '/' :: _ => ['/']
  | '/' :: '/' :: _ => ['/', '/']
  | '/' :: _ => ['/']
  | _ => []

/-- A path less its empty parts and the parts that are a single dot. -/
def tidyPath (path : String) : String :=
  let parts := (path.toList.splitOn '/').filter fun part => part != [] && part != ['.']
  let tidy := rootSlashes path.toList ++ List.intercalate ['/'] parts
  if tidy = [] then "." else .ofList tidy

end AffectedVersions.CommandLine
