import AffectedVersions.Json.Printer
import AffectedVersions.Json.Reader
import Mathlib

/-! Every number is read back from the text in which it is written. -/
namespace AffectedVersions

theorem Numeral.value_toDigits (n : Nat) : value (Nat.toDigits 10 n) = n := Nat.ofDigitChars_ten_toDigits

namespace Json

theorem isDigit_of_mem_toDigits {n : Nat} {c : Char} (h : c ∈ Nat.toDigits 10 n) : c.isDigit = true :=
  Nat.isDigit_of_mem_toDigits (by decide) (by decide) h

theorem exists_toDigits_eq_cons (n : Nat) :
    ∃ c ds, Nat.toDigits 10 n = c :: ds ∧ c.isDigit = true := by
  obtain ⟨c, ds, h⟩ := List.exists_cons_of_ne_nil (Nat.toDigits_ne_nil (n := n) (b := 10))
  exact ⟨c, ds, h, isDigit_of_mem_toDigits (h ▸ List.mem_cons_self)⟩

theorem head?_toDigits_ne_zero {n : Nat} (h : 0 < n) : (Nat.toDigits 10 n).head? ≠ some '0' := by
  induction n using Nat.strong_induction_on with
  | h n ih =>
    rw [Nat.toDigits_eq_if (by decide)]
    split_ifs with hlt
    · interval_cases n <;> decide
    · have hhead := ih (n / 10) (by omega) (by omega)
      obtain ⟨c, ds, hds, _⟩ := exists_toDigits_eq_cons (n / 10)
      rw [hds] at hhead ⊢
      exact hhead

theorem digits_append {ds rest : List Char} (hds : ∀ c ∈ ds, c.isDigit = true)
    (hrest : ∀ c ∈ rest.head?, c.isDigit = false) : digits (ds ++ rest) = (ds, rest) := by
  have htake : rest.takeWhile Char.isDigit = [] := by
    cases rest with
    | nil => rfl
    | cons c rest => exact List.takeWhile_cons_of_neg (by simp [hrest c rfl])
  have hdrop : rest.dropWhile Char.isDigit = rest := by
    cases rest with
    | nil => rfl
    | cons c rest => exact List.dropWhile_cons_of_neg (by simp [hrest c rfl])
  rw [digits, List.takeWhile_append_of_pos hds, List.dropWhile_append_of_pos hds, htake, hdrop,
    List.append_nil]

theorem digits_toDigits (n : Nat) {rest : List Char} (hrest : ∀ c ∈ rest.head?, c.isDigit = false) :
    digits (Nat.toDigits 10 n ++ rest) = (Nat.toDigits 10 n, rest) :=
  digits_append (fun _ => isDigit_of_mem_toDigits) hrest

theorem integerDigits_toDigits (n : Nat) {rest : List Char}
    (hrest : ∀ c ∈ rest.head?, c.isDigit = false) :
    integerDigits (Nat.toDigits 10 n ++ rest) = (Nat.toDigits 10 n, rest) := by
  rcases Nat.eq_zero_or_pos n with rfl | hpos
  · rfl
  · rw [← digits_toDigits n hrest]
    have hhead := head?_toDigits_ne_zero hpos
    obtain ⟨c, ds, hds, _⟩ := exists_toDigits_eq_cons n
    rw [hds] at hhead ⊢
    unfold integerDigits
    split
    · next heq =>
      obtain rfl := List.head_eq_of_cons_eq heq
      exact absurd rfl hhead
    · rfl

theorem signed_natAbs (n : Int) : signed (decide (n < 0)) n.natAbs = n := by
  unfold signed
  split_ifs with h
  · rw [decide_eq_true_eq] at h
    omega
  · rw [decide_eq_true_eq] at h
    omega

theorem renderInt_eq (n : Int) :
    renderInt n = (if n < 0 then ['-'] else []) ++ Nat.toDigits 10 n.natAbs := by
  cases n with
  | ofNat n => simp [renderInt, Nat.toList_repr]
  | negSucc n => simp [renderInt, Nat.toList_repr, Int.negSucc_lt_zero]

/-- What stands behind a number is nothing that it could go on with. -/
def EndsNumber (rest : List Char) : Prop :=
  ∀ c ∈ rest.head?, c.isDigit = false ∧ c ≠ '.' ∧ c ≠ 'e' ∧ c ≠ 'E'

section Parts

variable {rest : List Char}

theorem fraction_of_ne (h : ∀ c ∈ rest.head?, c ≠ '.') : fraction rest = ([], rest) := by
  unfold fraction
  split
  · exact absurd rfl (h _ rfl)
  · rfl

theorem exponent?_of_ne (h : ∀ c ∈ rest.head?, c ≠ 'e' ∧ c ≠ 'E') : exponent? rest = (none, rest) := by
  cases rest with
  | nil => rfl
  | cons c rest =>
    obtain ⟨hlower, hupper⟩ := h c rfl
    unfold exponent?
    simp [hlower, hupper]

theorem sign_renderInt (n : Int) :
    sign (renderInt n ++ rest) = (decide (n < 0), Nat.toDigits 10 n.natAbs ++ rest) := by
  obtain ⟨c, ds, hds, hc⟩ := exists_toDigits_eq_cons n.natAbs
  rw [renderInt_eq, hds]
  split_ifs with h
  · simp [sign, h]
  · have hminus : c ≠ '-' := by
      rintro rfl
      exact absurd hc (by decide)
    have hplus : c ≠ '+' := by
      rintro rfl
      exact absurd hc (by decide)
    simp [sign, h, hminus, hplus]

theorem exponent?_renderInt (n : Int) (h : ∀ c ∈ rest.head?, c.isDigit = false) :
    exponent? ('e' :: (renderInt n ++ rest)) = (some n, rest) := by
  unfold exponent?
  simp [sign_renderInt, digits_toDigits _ h, Nat.toDigits_ne_nil, Numeral.value_toDigits, signed_natAbs]

end Parts

theorem number_of_parts {n : Int} {whole part afterWhole afterPart rest tail : List Char}
    {exponent : Option Int}
    (hwhole : integerDigits (Nat.toDigits 10 n.natAbs ++ tail) = (whole, afterWhole))
    (hpart : fraction afterWhole = (part, afterPart)) (hexponent : exponent? afterPart = (exponent, rest))
    (hne : whole ≠ []) :
    number (renderInt n ++ tail) =
      if part = [] ∧ exponent = none then
        if whole.length ≤ Numeral.maxDigits then
          .ok (.int (signed (decide (n < 0)) (Numeral.value whole)), rest)
        else .error (.overlong whole.length)
      else
        .ok (.real (.finite (signed (decide (n < 0)) (Numeral.value (whole ++ part)))
          (exponent.getD 0 - part.length)), rest) := by
  obtain ⟨c, ds, hds, hc⟩ := exists_toDigits_eq_cons n.natAbs
  rw [renderInt_eq]
  rw [hds, List.cons_append] at hwhole
  unfold number
  by_cases h : n < 0
  · rw [if_pos h, hds]
    simp [hwhole, hpart, hexponent, hne, h]
  · have hminus : c ≠ '-' := by
      rintro rfl
      exact absurd hc (by decide)
    rw [if_neg h, hds]
    simp [hwhole, hpart, hexponent, hne, h, hminus]

theorem number_renderInt {n : Int} {rest : List Char} (hlength : n.natAbs.repr.length ≤ Numeral.maxDigits)
    (h : EndsNumber rest) : number (renderInt n ++ rest) = .ok (.int n, rest) := by
  have hdigit : ∀ c ∈ rest.head?, c.isDigit = false := fun c hc => (h c hc).1
  have hfraction : fraction rest = ([], rest) := fraction_of_ne fun c hc => (h c hc).2.1
  have hexponent : exponent? rest = (none, rest) := exponent?_of_ne fun c hc => (h c hc).2.2
  have hdigits : (Nat.toDigits 10 n.natAbs).length ≤ Numeral.maxDigits := by
    rwa [← Nat.toList_repr, String.length_toList]
  rw [number_of_parts (integerDigits_toDigits _ hdigit) hfraction hexponent Nat.toDigits_ne_nil,
    if_pos ⟨rfl, rfl⟩, if_pos hdigits, Numeral.value_toDigits, signed_natAbs]

theorem number_renderDecimal (mantissa exponent : Int) {rest : List Char}
    (h : ∀ c ∈ rest.head?, c.isDigit = false) :
    number (renderDecimal (.finite mantissa exponent) ++ rest) =
      .ok (.real (.finite mantissa exponent), rest) := by
  have hexponent := exponent?_renderInt exponent h
  have htext : renderDecimal (.finite mantissa exponent) ++ rest =
      renderInt mantissa ++ 'e' :: (renderInt exponent ++ rest) := List.append_assoc ..
  have hhead : ('e' :: (renderInt exponent ++ rest)).head? = some 'e' := List.head?_cons
  rw [htext]
  generalize 'e' :: (renderInt exponent ++ rest) = tail at hexponent hhead
  have hdigit : ∀ c ∈ tail.head?, c.isDigit = false := by simp [hhead]
  have hfraction : fraction tail = ([], tail) := fraction_of_ne (by simp [hhead])
  rw [number_of_parts (integerDigits_toDigits _ hdigit) hfraction hexponent Nat.toDigits_ne_nil,
    if_neg (by simp), List.append_nil, Numeral.value_toDigits, signed_natAbs]
  simp

end Json

end AffectedVersions
