/-! Decimal numerals. -/
namespace AffectedVersions.Numeral

/-- Longer numerals are refused where a number has to be held as an integer. -/
def maxDigits : Nat := 4300

def value (digits : List Char) : Nat := Nat.ofDigitChars 10 digits 0

/-- One or more ASCII digits, the first of which is zero only when it stands alone. -/
def isCanonical : List Char → Bool
  | [] => false
  | ['0'] => true
  | c :: cs => c != '0' && (c :: cs).all Char.isDigit

def read? (cs : List Char) : Option Nat :=
  if isCanonical cs then some (value cs) else none

/-- The number written by a canonical numeral of at most `maxDigits` digits. -/
def readBounded? (cs : List Char) : Option Nat :=
  if cs.length ≤ maxDigits then read? cs else none

end AffectedVersions.Numeral
