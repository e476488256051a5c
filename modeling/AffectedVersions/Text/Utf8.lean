import AffectedVersions.Text.Hex

/-! UTF-8, and the places where bytes fail to be UTF-8. -/
namespace AffectedVersions.Utf8

def encode (cs : List Char) : List UInt8 := cs.flatMap String.utf8EncodeChar

inductive Cause where
  | invalidStart
  | invalidContinuation
  | unexpectedEnd
  deriving DecidableEq

/-- The bytes at fault: how many there are, where they start, and the first of them. They are the
longest part of a character that could still have been completed, or one byte that starts none. -/
structure Fault where
  cause : Cause
  start : Nat
  size : Nat
  first : UInt8
  deriving DecidableEq

def Cause.message : Cause → String
  | .invalidStart => "invalid start byte"
  | .invalidContinuation => "invalid continuation byte"
  | .unexpectedEnd => "unexpected end of data"

def Fault.message (f : Fault) : String :=
  let what :=
    if f.size = 1 then
      "byte 0x" ++ String.ofList (Text.hexField 2 f.first.toNat) ++ " in position " ++ f.start.repr
    else "bytes in position " ++ f.start.repr ++ "-" ++ (f.start + f.size - 1).repr
  "'utf-8' codec can't decode " ++ what ++ ": " ++ f.cause.message

/-- A character that is not yet complete. Its next byte lies between `low` and `high`, and `left`
more bytes follow that one. -/
structure Pending where
  first : UInt8
  size : Nat
  value : Nat
  left : Nat
  low : UInt8
  high : UInt8

/-- The limits on the second byte leave out overlong forms, surrogates and codes above U+10FFFF. -/
def Pending.ofLead? (b : UInt8) : Option Pending :=
  if 0xC2 ≤ b ∧ b ≤ 0xDF then
    some ⟨b, 1, b.toNat - 0xC0, 0, 0x80, 0xBF⟩
  else if 0xE0 ≤ b ∧ b ≤ 0xEF then
    some ⟨b, 1, b.toNat - 0xE0, 1, if b = 0xE0 then 0xA0 else 0x80, if b = 0xED then 0x9F else 0xBF⟩
  else if 0xF0 ≤ b ∧ b ≤ 0xF4 then
    some ⟨b, 1, b.toNat - 0xF0, 2, if b = 0xF0 then 0x90 else 0x80, if b = 0xF4 then 0x8F else 0xBF⟩
  else none

/-- The code so far with the six bits of a continuation byte. -/
def Pending.push (p : Pending) (b : UInt8) : Nat := p.value * 64 + (b.toNat - 0x80)

/-- Decode from `start`, where a character may have begun before. -/
def decodeFrom (start : Nat) : Option Pending → List UInt8 → Except Fault (List Char)
  | none, [] => .ok []
  | some p, [] => .error ⟨.unexpectedEnd, start, p.size, p.first⟩
  | none, b :: bs =>
    if b < 0x80 then (Char.ofNat b.toNat :: ·) <$> decodeFrom (start + 1) none bs
    else
      match Pending.ofLead? b with
      | none => .error ⟨.invalidStart, start, 1, b⟩
      | some p => decodeFrom start (some p) bs
  | some p, b :: bs =>
    if p.low ≤ b ∧ b ≤ p.high then
      match p.left with
      | 0 => (Char.ofNat (p.push b) :: ·) <$> decodeFrom (start + p.size + 1) none bs
      | left + 1 =>
        decodeFrom start (some ⟨p.first, p.size + 1, p.push b, left, 0x80, 0xBF⟩) bs
    else .error ⟨.invalidContinuation, start, p.size, p.first⟩

def decode (bytes : List UInt8) : Except Fault (List Char) := decodeFrom 0 none bytes

end AffectedVersions.Utf8
