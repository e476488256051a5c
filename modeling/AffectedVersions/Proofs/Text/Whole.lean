import AffectedVersions.Text.Basic
import Mathlib

/-! Texts that consist of characters only. -/
namespace AffectedVersions

theorem Letter.char?_eq_some_iff {letter : Letter} {c : Char} :
    letter.char? = some c ↔ letter = .char c := by
  cases letter <;> simp [char?]

theorem Letter.mapM_char?_eq_some_iff {letters : List Letter} {cs : List Char} :
    letters.mapM char? = some cs ↔ letters = cs.map .char := by
  induction letters generalizing cs with
  | nil => simp [eq_comm]
  | cons letter letters ih =>
    rw [List.mapM_cons]
    cases cs with
    | nil => simp [Option.bind_eq_some_iff]
    | cons c cs => simp [Option.bind_eq_some_iff, char?_eq_some_iff, ih]

namespace Text

theorem whole?_eq_some_iff {t : Text} {s : String} : t.whole? = some s ↔ t = s := by
  rw [whole?, Option.map_eq_some_iff, ← toList_inj, toList_ofString]
  constructor
  · intro h
    obtain ⟨cs, hcs, rfl⟩ := h
    rwa [String.toList_ofList, ← Letter.mapM_char?_eq_some_iff]
  · intro h
    exact ⟨s.toList, Letter.mapM_char?_eq_some_iff.mpr h, String.ofList_toList⟩

@[simp] theorem whole?_ofString (s : String) : (ofString s).whole? = some s :=
  whole?_eq_some_iff.mpr rfl

theorem escaped_ofString_append (s : String) (t : Text) :
    (ofString s ++ t).escaped = s ++ t.escaped := by
  have hchars : (ofString s).toList.flatMap Letter.escape = s.toList := by
    rw [toList_ofString, List.flatMap_map]
    exact List.flatMap_singleton' s.toList
  rw [escaped, toList_append, List.flatMap_append, hchars, String.ofList_append, String.ofList_toList]
  rfl

theorem isWhole_iff_exists {t : Text} : t.isWhole = true ↔ ∃ s : String, t = s := by
  rw [isWhole, Option.isSome_iff_exists]
  exact exists_congr fun _ => whole?_eq_some_iff

theorem exists_map_ofString {ts : List Text} (h : ∀ t ∈ ts, t.isWhole = true) :
    ∃ strings : List String, strings.map ofString = ts := by
  induction ts with
  | nil => exact ⟨[], rfl⟩
  | cons t ts ih =>
    obtain ⟨ht, hts⟩ := List.forall_mem_cons.mp h
    obtain ⟨s, rfl⟩ := isWhole_iff_exists.mp ht
    obtain ⟨strings, rfl⟩ := ih hts
    exact ⟨s :: strings, rfl⟩

end Text

end AffectedVersions
