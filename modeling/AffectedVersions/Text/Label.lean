import AffectedVersions.Text.Blank

/-! Labels are compared without regard to the case of their letters. -/
namespace AffectedVersions.Text

/-- Lower case for the characters whose lower case is one ASCII letter: the ASCII capitals and the
Kelvin sign U+212A. All others stay, since no label contains them in any case. -/
def foldLetter : Letter → Letter
  | .char c => if c.toNat = 0x212A then 'k' else c.toLower
  | .half n => .half n

def fold (s : Text) : Text := .ofList (s.toList.map foldLetter)

/-- The form in which a label is looked up. -/
def labelKey (s : Text) : Text := fold (trim s)

end AffectedVersions.Text
