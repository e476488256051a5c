/-! Line ends, and places in a text counted by line and column. -/
namespace AffectedVersions.Text

/-- Every line end becomes a line feed: a carriage return with the line feed after it, or alone. -/
def unifyLineEnds : List Char → List Char
  | [] => []
  | '\r' :: '\n' :: cs => '\n' :: unifyLineEnds cs
  | c :: cs => (if c = '\r' then '\n' else c) :: unifyLineEnds cs

/-- The number of characters before a place, and its line and column counted from one. -/
structure Place where
  offset : Nat
  line : Nat
  column : Nat
  deriving DecidableEq

def Place.after (before : List Char) : Place where
  offset := before.length
  line := before.count '\n' + 1
  column := (before.reverse.takeWhile (· != '\n')).length + 1

end AffectedVersions.Text
