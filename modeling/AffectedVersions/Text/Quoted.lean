import AffectedVersions.Text.Basic
import AffectedVersions.Text.Printable

/-! The quoted form of a text, as it stands in messages. -/
namespace AffectedVersions.Text

/-- Single quotes, or double ones for a text that holds a single quote and no double one. -/
def quoteMark (cs : List Letter) : Char :=
  if cs.contains '\'' && !cs.contains '"' then '"' else '\''

/-- The mark in use and the backslash take a backslash. What does not print is written by a short
name or by its code in two, four or eight hexadecimal digits. -/
def quoteLetter (mark : Char) : Letter → List Char
  | .half n => '\\' :: 'u' :: hexField 4 (0xD800 + n)
  | .char c =>
    if c = mark ∨ c = '\\' then ['\\', c]
    else if c = '\n' then ['\\', 'n']
    else if c = '\r' then ['\\', 'r']
    else if c = '\t' then ['\\', 't']
    else if isPrintable c then [c]
    else if c.toNat < 0x100 then '\\' :: 'x' :: hexField 2 c.toNat
    else if c.toNat < 0x10000 then '\\' :: 'u' :: hexField 4 c.toNat
    else '\\' :: 'U' :: hexField 8 c.toNat

def quote (s : Text) : String :=
  let mark := quoteMark s.toList
  .ofList (mark :: s.toList.flatMap (quoteLetter mark) ++ [mark])

/-- An absent text is written without quotes. -/
def quoteOption : Option Text → String
  | none => "None"
  | some s => quote s

end AffectedVersions.Text
