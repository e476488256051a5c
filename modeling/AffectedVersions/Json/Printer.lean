import AffectedVersions.Json.Basic
import AffectedVersions.Text.Hex

/-! Writing JSON text, one member or item a line. -/
namespace AffectedVersions.Json

/-- Each level is indented by two more spaces. -/
def newline (depth : Nat) : List Char := '\n' :: List.replicate (2 * depth) ' '

/-- Quotes, backslashes and controls are escaped, and nothing else. -/
def escapeChar (c : Char) : List Char :=
  if c = '"' ∨ c = '\\' then ['\\', c]
  else if c = '\x08' then ['\\', 'b']
  else if c = '\x0c' then ['\\', 'f']
  else if c = '\n' then ['\\', 'n']
  else if c = '\r' then ['\\', 'r']
  else if c = '\t' then ['\\', 't']
  else if c.toNat < 0x20 then '\\' :: 'u' :: Text.hexField 4 c.toNat
  else [c]

/-- Half of a surrogate pair is written by its number. -/
def escapeLetter : Letter → List Char
  | .char c => escapeChar c
  | .half n => Letter.escape (.half n)

def renderString (s : Text) : List Char := '"' :: s.toList.flatMap escapeLetter ++ ['"']

def renderInt : Int → List Char
  | .ofNat n => n.repr.toList
  | .negSucc n => '-' :: (n + 1).repr.toList

def renderDecimal : Decimal → List Char
  | .finite mantissa exponent => renderInt mantissa ++ 'e' :: renderInt exponent
  | .infinite false => "Infinity".toList
  | .infinite true => "-Infinity".toList
  | .nan => "NaN".toList

mutual

/-- The text of a value that stands inside `depth` arrays and objects. -/
def renderAt (depth : Nat) : Json → List Char
  | .null => "null".toList
  | .bool true => "true".toList
  | .bool false => "false".toList
  | .int n => renderInt n
  | .real x => renderDecimal x
  | .str s => renderString s
  | .arr [] => ['[', ']']
  | .arr (x :: xs) =>
    '[' :: newline (depth + 1) ++ renderAt (depth + 1) x ++ renderItems (depth + 1) xs ++
      newline depth ++ [']']
  | .obj [] => ['{', '}']
  | .obj ((name, x) :: ms) =>
    '{' :: newline (depth + 1) ++ renderString name ++ ':' :: ' ' :: renderAt (depth + 1) x ++
      renderMembers (depth + 1) ms ++ newline depth ++ ['}']

/-- The items after the first one. -/
def renderItems (depth : Nat) : List Json → List Char
  | [] => []
  | x :: xs => ',' :: newline depth ++ renderAt depth x ++ renderItems depth xs

/-- The members after the first one. -/
def renderMembers (depth : Nat) : List (String × Json) → List Char
  | [] => []
  | (name, x) :: ms =>
    ',' :: newline depth ++ renderString name ++ ':' :: ' ' :: renderAt depth x ++
      renderMembers depth ms

end

def render (x : Json) : String := .ofList (renderAt 0 x)

mutual

/-- Whether there is a character for each letter of the strings in a value. -/
def isWhole : Json → Bool
  | .str s => s.isWhole
  | .arr xs => areWhole xs
  | .obj ms => haveWholeValues ms
  | _ => true

def areWhole : List Json → Bool
  | [] => true
  | x :: xs => isWhole x && areWhole xs

def haveWholeValues : List (String × Json) → Bool
  | [] => true
  | (_, x) :: ms => isWhole x && haveWholeValues ms

end

end AffectedVersions.Json
