import AffectedVersions.Text.Basic

/-! Blank letters, and texts without the blanks around them. -/
namespace AffectedVersions.Text

/-- The blanks are the Unicode white space characters together with the four separator controls
U+001C to U+001F. Zero-width characters and the byte order mark are not among them. -/
def isBlank (c : Letter) : Bool :=
  let n := c.code
  (0x09 ≤ n && n ≤ 0x0D) || (0x1C ≤ n && n ≤ 0x20) || n == 0x85 || n == 0xA0 || n == 0x1680 ||
    (0x2000 ≤ n && n ≤ 0x200A) || n == 0x2028 || n == 0x2029 || n == 0x202F || n == 0x205F ||
    n == 0x3000

def trimLeft (cs : List Letter) : List Letter := cs.dropWhile isBlank

def trimRight (cs : List Letter) : List Letter := (cs.reverse.dropWhile isBlank).reverse

def trim (s : Text) : Text := .ofList (trimRight (trimLeft s.toList))

end AffectedVersions.Text
