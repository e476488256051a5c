import AffectedVersions.Text.Utf8
import Mathlib

/-! Every text is read back from its UTF-8 bytes. -/
namespace AffectedVersions.Utf8

/-- The byte that holds the last six bits of `n`. -/
def continuation (n : Nat) : UInt8 := UInt8.ofNat (n % 64 + 128)

/-- The continuation bytes of the code `n` from the one that `left` more follow. -/
def continuations (n : Nat) : (left : Nat) → List UInt8
  | 0 => [continuation n]
  | left + 1 => continuation (n / 64 ^ (left + 1)) :: continuations n left

theorem toNat_continuation (n : Nat) : (continuation n).toNat = n % 64 + 128 := by
  have hbyte : n % 64 + 128 < 256 := by omega
  exact UInt8.toNat_ofNat_of_lt' hbyte

theorem le_continuation (n : Nat) : 0x80 ≤ continuation n := by
  have hlow : (0x80 : UInt8).toNat = 128 := rfl
  rw [UInt8.le_iff_toNat_le, toNat_continuation, hlow]
  omega

theorem continuation_le (n : Nat) : continuation n ≤ 0xBF := by
  have hhigh : (0xBF : UInt8).toNat = 191 := rfl
  rw [UInt8.le_iff_toNat_le, toNat_continuation, hhigh]
  omega

theorem push_continuation (p : Pending) (n : Nat) : p.push (continuation n) = p.value * 64 + n % 64 := by
  unfold Pending.push
  rw [toNat_continuation]
  omega

/-- A character with the code `n` is pending, all but the last `left + 1` bytes of it read. -/
structure Pending.Begins (p : Pending) (n : Nat) : Prop where
  value : p.value = n / 64 ^ (p.left + 1)
  low : p.low ≤ continuation (n / 64 ^ p.left)
  high : continuation (n / 64 ^ p.left) ≤ p.high

theorem decodeFrom_continuations {p : Pending} {n : Nat} (h : p.Begins n) (start : Nat)
    (bs : List UInt8) :
    decodeFrom start (some p) (continuations n p.left ++ bs) =
      (Char.ofNat n :: ·) <$> decodeFrom (start + p.size + p.left + 1) none bs := by
  obtain ⟨first, size, value, left, low, high⟩ := p
  obtain ⟨hvalue, hlow, hhigh⟩ := h
  dsimp only at hvalue hlow hhigh ⊢
  induction left generalizing size value low high with
  | zero =>
    rw [pow_zero, Nat.div_one] at hlow hhigh
    have hcode : value * 64 + n % 64 = n := by
      rw [hvalue, zero_add, pow_one]
      exact Nat.div_add_mod' n 64
    rw [continuations, List.singleton_append, decodeFrom, if_pos ⟨hlow, hhigh⟩, push_continuation]
    dsimp only
    rw [hcode, add_zero]
  | succ left ih =>
    have hpushed : value * 64 + n / 64 ^ (left + 1) % 64 = n / 64 ^ (left + 1) := by
      rw [hvalue, pow_succ 64 (left + 1), ← Nat.div_div_eq_div_mul]
      exact Nat.div_add_mod' _ 64
    have hstart : start + (size + 1) + left + 1 = start + size + (left + 1) + 1 := by omega
    rw [continuations, List.cons_append, decodeFrom, if_pos ⟨hlow, hhigh⟩, push_continuation, hpushed]
    dsimp only
    rw [ih (size + 1) _ 0x80 0xBF rfl (le_continuation _) (continuation_le _), hstart]

/-- After the byte `lead` a character with the code `n` is begun, and `left` bytes follow the next one. -/
def IsLead (lead n left : Nat) : Prop :=
  ∃ p, Pending.ofLead? (UInt8.ofNat lead) = some p ∧ p.left = left ∧ p.size = 1 ∧ p.Begins n

theorem decodeFrom_lead {lead left : Nat} {c : Char} (h : IsLead lead c.toNat left) (hlead : 0x80 ≤ lead)
    (hbyte : lead < 256) (start : Nat) (bs : List UInt8) :
    decodeFrom start none (UInt8.ofNat lead :: (continuations c.toNat left ++ bs)) =
      (c :: ·) <$> decodeFrom (start + (left + 2)) none bs := by
  obtain ⟨p, hp, rfl, hsize, hbegins⟩ := h
  have hascii : ¬ UInt8.ofNat lead < 0x80 := by
    rw [UInt8.lt_iff_toNat_lt, UInt8.toNat_ofNat_of_lt' hbyte]
    exact not_lt.mpr hlead
  have hnext : start + p.size + p.left + 1 = start + (p.left + 2) := by omega
  rw [decodeFrom, if_neg hascii, hp]
  dsimp only
  rw [decodeFrom_continuations hbegins, hnext, Char.ofNat_toNat]

section Code

variable {n : Nat} {b : UInt8}

theorem le_ofNat_iff (hbyte : n < 256) : b ≤ UInt8.ofNat n ↔ b.toNat ≤ n := by
  rw [UInt8.le_iff_toNat_le, UInt8.toNat_ofNat_of_lt' hbyte]

theorem ofNat_le_iff (hbyte : n < 256) : UInt8.ofNat n ≤ b ↔ n ≤ b.toNat := by
  rw [UInt8.le_iff_toNat_le, UInt8.toNat_ofNat_of_lt' hbyte]

theorem ofNat_eq_iff (hbyte : n < 256) : UInt8.ofNat n = b ↔ n = b.toNat := by
  rw [← UInt8.toNat_inj, UInt8.toNat_ofNat_of_lt' hbyte]

theorem ofLead?_ofNat (hbyte : n < 256) :
    Pending.ofLead? (UInt8.ofNat n) =
      if 0xC2 ≤ n ∧ n ≤ 0xDF then some ⟨UInt8.ofNat n, 1, n - 0xC0, 0, 0x80, 0xBF⟩
      else if 0xE0 ≤ n ∧ n ≤ 0xEF then
        some ⟨UInt8.ofNat n, 1, n - 0xE0, 1, if n = 0xE0 then 0xA0 else 0x80,
          if n = 0xED then 0x9F else 0xBF⟩
      else if 0xF0 ≤ n ∧ n ≤ 0xF4 then
        some ⟨UInt8.ofNat n, 1, n - 0xF0, 2, if n = 0xF0 then 0x90 else 0x80,
          if n = 0xF4 then 0x8F else 0xBF⟩
      else none := by
  unfold Pending.ofLead?
  simp only [le_ofNat_iff hbyte, ofNat_le_iff hbyte, ofNat_eq_iff hbyte, UInt8.reduceToNat,
    UInt8.toNat_ofNat_of_lt' hbyte]

theorem le_continuation_iff : b ≤ continuation n ↔ b.toNat ≤ n % 64 + 128 := by
  rw [UInt8.le_iff_toNat_le, toNat_continuation]

theorem continuation_le_iff : continuation n ≤ b ↔ n % 64 + 128 ≤ b.toNat := by
  rw [UInt8.le_iff_toNat_le, toNat_continuation]

theorem isLead_two (hlow : 0x80 ≤ n) (hhigh : n < 0x800) :
    IsLead (n / 64 + 0xC0) n 0 := by
  rw [IsLead, ofLead?_ofNat (by omega), if_pos (by omega)]
  refine ⟨_, rfl, rfl, rfl, ?_, le_continuation _, continuation_le _⟩
  exact Nat.add_sub_cancel ..

theorem isLead_three (hlow : 0x800 ≤ n) (hhigh : n < 0x10000) (hscalar : n < 0xD800 ∨ 0xDFFF < n) :
    IsLead (n / 4096 + 0xE0) n 1 := by
  rw [IsLead, ofLead?_ofNat (by omega), if_neg (by omega), if_pos (by omega)]
  refine ⟨_, rfl, rfl, rfl, Nat.add_sub_cancel .., ?_, ?_⟩
  · dsimp only
    split_ifs with hlead
    · simp only [le_continuation_iff, UInt8.reduceToNat]
      omega
    · exact le_continuation _
  · dsimp only
    split_ifs with hlead
    · simp only [continuation_le_iff, UInt8.reduceToNat]
      omega
    · exact continuation_le _

theorem isLead_four (hlow : 0x10000 ≤ n) (hhigh : n < 0x110000) :
    IsLead (n / 262144 + 0xF0) n 2 := by
  rw [IsLead, ofLead?_ofNat (by omega), if_neg (by omega), if_neg (by omega), if_pos (by omega)]
  refine ⟨_, rfl, rfl, rfl, Nat.add_sub_cancel .., ?_, ?_⟩
  · dsimp only
    split_ifs with hlead
    · simp only [le_continuation_iff, UInt8.reduceToNat]
      omega
    · exact le_continuation _
  · dsimp only
    split_ifs with hlead
    · simp only [continuation_le_iff, UInt8.reduceToNat]
      omega
    · exact continuation_le _

end Code

theorem decodeFrom_ascii {c : Char} (h : c.toNat < 0x80) (start : Nat) (bs : List UInt8) :
    decodeFrom start none (UInt8.ofNat c.toNat :: bs) = (c :: ·) <$> decodeFrom (start + 1) none bs := by
  have hbyte : c.toNat < 256 := by omega
  have hascii : UInt8.ofNat c.toNat < 0x80 := by
    rw [UInt8.lt_iff_toNat_lt, UInt8.toNat_ofNat_of_lt' hbyte]
    exact h
  rw [decodeFrom, if_pos hascii, UInt8.toNat_ofNat_of_lt' hbyte, Char.ofNat_toNat]

/-- The bytes of a character are read as the character, and reading goes on behind them. -/
theorem decodeFrom_encodeChar (c : Char) (start : Nat) (bs : List UInt8) :
    decodeFrom start none (String.utf8EncodeChar c ++ bs) =
      (c :: ·) <$> decodeFrom (start + (String.utf8EncodeChar c).length) none bs := by
  have hvalid : c.toNat < 0xD800 ∨ 0xDFFF < c.toNat ∧ c.toNat < 0x110000 := c.valid
  have hcode : c.val.toNat = c.toNat := rfl
  unfold String.utf8EncodeChar
  dsimp only
  rw [hcode]
  split_ifs with hone htwo hthree
  · exact decodeFrom_ascii (by omega) start bs
  · have hlead : c.toNat / 64 % 32 = c.toNat / 64 := by omega
    rw [hlead]
    exact decodeFrom_lead (isLead_two (by omega) (by omega)) (by omega) (by omega) start bs
  · have hlead : c.toNat / 4096 % 16 = c.toNat / 4096 := by omega
    rw [hlead]
    exact decodeFrom_lead (isLead_three (by omega) (by omega) (by omega)) (by omega) (by omega) start bs
  · have hlead : c.toNat / 262144 % 8 = c.toNat / 262144 := by omega
    rw [hlead]
    exact decodeFrom_lead (isLead_four (by omega) (by omega)) (by omega) (by omega) start bs

theorem decodeFrom_encode (cs : List Char) (start : Nat) :
    decodeFrom start none (encode cs) = .ok cs := by
  induction cs generalizing start with
  | nil => rfl
  | cons c cs ih =>
    change decodeFrom start none (String.utf8EncodeChar c ++ encode cs) = .ok (c :: cs)
    rw [decodeFrom_encodeChar, ih]
    rfl

theorem decode_encode (cs : List Char) : decode (encode cs) = .ok cs := decodeFrom_encode cs 0

end AffectedVersions.Utf8
