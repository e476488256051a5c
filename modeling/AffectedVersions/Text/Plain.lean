import AffectedVersions.Text.Basic

/-! Texts without the control sequences of terminals. -/
namespace AffectedVersions.Text

def escapeMark : Char := '\x1b'

def isParameterChar (c : Char) : Bool := c.isDigit || c == ';' || c == '?'

/-- A control sequence of which `begun` was read goes on with `c`. -/
def continuesSequence (begun : List Letter) (c : Letter) : Bool :=
  match begun with
  | [] => c == escapeMark
  | [_] => c == '['
  | _ => c.char?.any isParameterChar

/-- An ASCII letter ends a control sequence that has its bracket, and the sequence is dropped. What
turns out to be no sequence is kept, and may be followed by one. -/
def dropSequences (begun : List Letter) : List Letter → List Letter
  | [] => begun
  | c :: cs =>
    if continuesSequence begun c then dropSequences (begun ++ [c]) cs
    else if 2 ≤ begun.length ∧ c.char?.any Char.isAlpha then dropSequences [] cs
    else if c = escapeMark then begun ++ dropSequences [c] cs
    else begun ++ c :: dropSequences [] cs

def plain (s : Text) : Text := .ofList (dropSequences [] s.toList)

end AffectedVersions.Text
