import AffectedVersions.Json.Printer
import AffectedVersions.Json.Reader
import AffectedVersions.Proofs.Text.Whole
import Mathlib

/-! Every string is read back from the text in which it is written. -/
namespace AffectedVersions

namespace Text

theorem hexDigit?_digitChar {d : Nat} (h : d < 16) : hexDigit? (Nat.digitChar d) = some d := by
  revert d
  decide

end Text

namespace Json

@[simp] theorem Step.map_ok {α β : Type} (f : α → β) (x : α) (rest : List Char) :
    Step.map f (.ok (x, rest)) = .ok (f x, rest) := rfl

@[simp] theorem Step.andThen_ok {α β : Type} (x : α) (rest : List Char)
    (next : α → List Char → Except Stop β) : Step.andThen (.ok (x, rest)) next = next x rest := rfl

theorem hexValue?_hexField (width n : Nat) :
    hexValue? (Text.hexField width n) = some (n % 16 ^ width) := by
  induction width generalizing n with
  | zero => simp [hexValue?, Text.hexField, Nat.mod_one]
  | succ width ih =>
    have hdigit : n % 16 < 16 := Nat.mod_lt _ (by decide)
    have hvalue : 16 * (n / 16 % 16 ^ width) + n % 16 = n % 16 ^ (width + 1) := by
      rw [pow_succ', Nat.mod_mul, add_comm]
    unfold hexValue? at ih ⊢
    rw [Text.hexField, List.foldlM_append, ih]
    simp [Text.hexDigit?_digitChar hdigit, hvalue]

section Codes

variable {start rest : List Char} {c : Char}

theorem stringCodes_shortEscape {letter : Char} (h : shortEscape? letter = some c) :
    stringCodes start ('\\' :: letter :: rest) = (stringCodes start rest).map (c.toNat :: ·) := by
  have hletter : letter ≠ 'u' := by
    rintro rfl
    exact absurd h nofun
  rw [stringCodes, h]
  exact hletter

theorem stringCodes_unicodeEscape {n : Nat} (hn : n < 0x10000) (hrest : rest ≠ []) :
    stringCodes start ('\\' :: 'u' :: (Text.hexField 4 n ++ rest)) =
      (stringCodes start rest).map (n :: ·) := by
  have hvalue : hexValue? (Text.hexField 4 n) = some n := by
    rw [hexValue?_hexField, Nat.mod_eq_of_lt (show n < 16 ^ 4 from hn)]
  have hfour : (Text.hexField 4 n).length = 4 := Text.length_hexField 4 n
  match Text.hexField 4 n, hfour, hvalue with
  | [a, b, c, d], _, hvalue =>
    change stringCodes start ('\\' :: 'u' :: a :: b :: c :: d :: rest) = _
    rw [stringCodes, hvalue]
    exact if_neg hrest

theorem stringCodes_of_ne (hquote : c ≠ '"') (hbackslash : c ≠ '\\') (hcontrol : ¬ c.toNat < 0x20) :
    stringCodes start (c :: rest) = (stringCodes start rest).map (c.toNat :: ·) := by
  rw [stringCodes, if_neg hcontrol]
  all_goals simp [hquote, hbackslash]

theorem stringCodes_escapeChar (c : Char) (hrest : rest ≠ []) :
    stringCodes start (escapeChar c ++ rest) = (stringCodes start rest).map (c.toNat :: ·) := by
  unfold escapeChar
  split_ifs with hmark hback hform hline hreturn htab hcontrol
  · rcases hmark with rfl | rfl <;> exact stringCodes_shortEscape rfl
  · exact hback ▸ stringCodes_shortEscape rfl
  · exact hform ▸ stringCodes_shortEscape rfl
  · exact hline ▸ stringCodes_shortEscape rfl
  · exact hreturn ▸ stringCodes_shortEscape rfl
  · exact htab ▸ stringCodes_shortEscape rfl
  · exact stringCodes_unicodeEscape (by omega) hrest
  · rw [not_or] at hmark
    exact stringCodes_of_ne hmark.1 hmark.2 hcontrol

theorem stringCodes_flatMap (cs : List Char) :
    stringCodes start (cs.flatMap escapeChar ++ '"' :: rest) = .ok (cs.map Char.toNat, rest) := by
  induction cs with
  | nil => rfl
  | cons c cs ih =>
    have hrest : cs.flatMap escapeChar ++ '"' :: rest ≠ [] :=
      List.append_ne_nil_of_right_ne_nil _ (List.cons_ne_nil _ _)
    rw [List.flatMap_cons, List.append_assoc, stringCodes_escapeChar c hrest, ih]
    rfl

end Codes

theorem scalar_toNat (c : Char) : scalar c.toNat = c := by
  have hvalid : c.toNat.isValidChar := c.valid
  rw [scalar, if_pos hvalid, Char.ofNat_toNat]

theorem ofCode_toNat (c : Char) : Letter.ofCode c.toNat = .char c := by
  have hvalid : c.toNat.isValidChar := c.valid
  rw [Letter.ofCode, if_pos hvalid, Char.ofNat_toNat]

theorem joinSurrogates_map (cs : List Char) :
    joinSurrogates (cs.map Char.toNat) = cs.map Char.toNat := by
  induction cs with
  | nil => rfl
  | cons c cs ih =>
    cases cs with
    | nil => rfl
    | cons d cs =>
      have hvalid : c.toNat < 0xD800 ∨ 0xDFFF < c.toNat ∧ c.toNat < 0x110000 := c.valid
      rw [List.map_cons] at ih
      rw [List.map_cons, List.map_cons, joinSurrogates, if_neg (by omega), ih]

/-- The codes of a string are read back from what stands behind its opening quote. -/
theorem string_flatMap (s : String) (rest : List Char) :
    string (s.toList.flatMap escapeChar ++ '"' :: rest) = .ok (s.toList.map Char.toNat, rest) := by
  rw [string, stringCodes_flatMap, Step.map_ok, joinSurrogates_map]

theorem nameOfCodes_map (s : String) : nameOfCodes (s.toList.map Char.toNat) = s := by
  have hid : scalar ∘ Char.toNat = id := funext scalar_toNat
  rw [nameOfCodes, List.map_map, hid, List.map_id, String.ofList_toList]

theorem ofCodes_map (s : String) : Text.ofCodes (s.toList.map Char.toNat) = s := by
  have hchar : Letter.ofCode ∘ Char.toNat = .char := funext ofCode_toNat
  rw [Text.ofCodes, List.map_map, hchar]
  rfl

end Json

end AffectedVersions
