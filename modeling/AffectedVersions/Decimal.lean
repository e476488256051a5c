/-! Decimal numbers, and the binary numbers of double precision nearest to them. -/
namespace AffectedVersions

/-- A number with a fraction or an exponent is `mantissa * 10 ^ exponent`; others are not finite. -/
inductive Decimal where
  | finite (mantissa exponent : Int)
  | infinite (negative : Bool)
  | nan
  deriving DecidableEq

/-- The integer nearest to `num / den`; a tie goes to the even one. -/
def roundDiv (num den : Nat) : Nat :=
  let whole := num / den
  let rest := num % den
  if 2 * rest < den then whole
  else if den < 2 * rest then whole + 1
  else whole + whole % 2

/-- The exponent of the greatest power of two that is at most `num / den`, both positive. -/
def floorLog2 (num den : Nat) : Int :=
  let e : Int := (num.log2 : Int) - den.log2
  if den * Nat.pow 2 e.toNat ≤ num * Nat.pow 2 (-e).toNat then e else e - 1

/-- The exponent of the last of 53 bits of a double near `num / den`, and -1074 at least. -/
def quantumExponent (num den : Nat) : Int := max (floorLog2 num den - 52) (-1074)

/-- How many times the last bit goes into the double nearest to `num / den`. -/
def nearestDouble (num den : Nat) : Nat :=
  let e := quantumExponent num den
  roundDiv (num * Nat.pow 2 (-e).toNat) (den * Nat.pow 2 e.toNat)

/-- The nearest double of `num / den` where that is an integer and not too large for a double. -/
def wholeDouble? (num den : Nat) : Option Nat :=
  let e := quantumExponent num den
  let scaled := nearestDouble num den * Nat.pow 2 e.toNat
  let unit := Nat.pow 2 (-e).toNat
  if scaled % unit = 0 ∧ scaled / unit < Nat.pow 2 1024 then some (scaled / unit) else none

namespace Decimal

/-- The exponent of the least power of ten above the absolute value. -/
def magnitude (mantissa exponent : Int) : Int := mantissa.natAbs.repr.length + exponent

/-- The nearest double, where that is an integer; beyond a magnitude of 400 zero or too large. -/
def integer? : Decimal → Option Int
  | finite m e =>
    if m = 0 ∨ magnitude m e < -400 then some 0
    else if 400 < magnitude m e then none
    else
      (wholeDouble? (m.natAbs * Nat.pow 10 e.toNat) (Nat.pow 10 (-e).toNat)).map fun n =>
        m.sign * n
  | _ => none

end Decimal

end AffectedVersions
