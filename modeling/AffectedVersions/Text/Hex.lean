/-! Hexadecimal fields of fixed width. -/
namespace AffectedVersions.Text

/-- The last `width` hexadecimal digits of `n`, in lower case. -/
def hexField : (width n : Nat) → List Char
  | 0, _ => []
  | width + 1, n => hexField width (n / 16) ++ [Nat.digitChar (n % 16)]

def hexDigit? (c : Char) : Option Nat :=
  if '0' ≤ c ∧ c ≤ '9' then some (c.toNat - '0'.toNat)
  else if 'a' ≤ c ∧ c ≤ 'f' then some (c.toNat - 'a'.toNat + 10)
  else if 'A' ≤ c ∧ c ≤ 'F' then some (c.toNat - 'A'.toNat + 10)
  else none

@[simp] theorem length_hexField (width n : Nat) : (hexField width n).length = width := by
  induction width generalizing n with
  | zero => rfl
  | succ w ih => simp [hexField, ih]

end AffectedVersions.Text
