import AffectedVersions.Proofs.SemVer.Text
import AffectedVersions.Proofs.Text.Whole
import AffectedVersions.Proofs.Version.Plain
import Mathlib

/-! Semantic versions are plain, so that trimming them changes nothing. -/
namespace AffectedVersions.Version

open SemVer

theorem isBlank_of_isTextChar {c : Char} (h : isTextChar c = true) : Text.isBlank c = false := by
  obtain ⟨hl, hu, -⟩ := toNat_of_isTextChar h
  have hcode : (c : Letter).code = c.toNat := rfl
  unfold Text.isBlank
  rw [hcode]
  simp only [Bool.or_eq_false_iff, Bool.and_eq_false_iff, decide_eq_false_iff_not, beq_eq_false_iff_ne]
  omega

theorem isOperatorChar_of_isTextChar {c : Char} (h : isTextChar c = true) :
    Constraint.isOperatorChar c = false := by
  obtain ⟨-, -, hop⟩ := toNat_of_isTextChar h
  simp only [Constraint.isOperatorChar, Bool.or_eq_false_iff, beq_eq_false_iff_ne]
  refine ⟨⟨?_, ?_⟩, ?_⟩ <;> rintro ⟨⟩ <;> revert hop <;> decide

/-- A version begins with a digit, and none of its characters is a blank or belongs to an operator. -/
theorem letters_of_ofText? {s : Text} {v : SemVer} (h : ofText? s = some v) :
    (∃ c : Char, s.toList.head? = some (.char c) ∧ c.isDigit = true) ∧
      ∀ c ∈ s.toList, Text.isBlank c = false ∧ Constraint.isOperatorChar c = false := by
  obtain ⟨s, hs, hparse⟩ := Option.bind_eq_some_iff.mp h
  obtain rfl := Text.whole?_eq_some_iff.mp hs
  obtain ⟨⟨d, hd, hdigit⟩, hchars⟩ := chars_of_parse? hparse
  rw [Text.toList_ofString, List.head?_map, hd, List.forall_mem_map]
  exact ⟨⟨d, rfl, hdigit⟩, fun c hc =>
    ⟨isBlank_of_isTextChar (hchars c hc), isOperatorChar_of_isTextChar (hchars c hc)⟩⟩

theorem isPlain_of_ofText? {s : Text} {v : SemVer} (h : ofText? s = some v) : IsPlain s := by
  obtain ⟨⟨d, hd, hdigit⟩, hletters⟩ := letters_of_ofText? h
  refine ⟨?_, ⟨?_, ?_⟩, ?_⟩
  · rintro rfl
    exact absurd hd nofun
  · exact fun c hc => (hletters c (List.mem_of_mem_head? hc)).1
  · exact fun c hc => (hletters c (List.mem_of_mem_getLast? hc)).1
  · intro hv
    obtain rfl : d = 'v' := Letter.char.inj (Option.some.inj (hd.symm.trans hv))
    exact absurd hdigit (by decide)

theorem canBegin_of_ofText? {s : Text} {v : SemVer} (h : ofText? s = some v) : CanBegin s := by
  constructor
  · rintro rfl
    have hnone : ofText? genesis = none := by decide
    exact absurd (hnone.symm.trans h) nofun
  · exact fun c hc => ((letters_of_ofText? h).2 c (List.mem_of_mem_head? hc)).2

/-- The text less its "v" stands for the same version. -/
theorem semVer?_dropV {version : Text} {v : SemVer} (h : semVer? version = some v) :
    semVer? (dropV version) = some v := by
  unfold semVer? at *
  rw [(dropV_eq_self_iff _).mpr (isPlain_of_ofText? h).no_v]
  exact h

theorem mem_dropV_or_eq {version : Text} {c : Letter} (h : c ∈ version.toList) :
    c = 'v' ∨ c ∈ (dropV version).toList := by
  rw [toList_dropV]
  unfold dropVLetters
  split
  · next cs heq =>
    rw [heq] at h
    exact List.mem_cons.mp h
  · exact Or.inr h

/-- A "v" before the version is no blank, so that nothing is trimmed from the whole text. -/
theorem trim_of_semVer? {version : Text} {v : SemVer} (h : semVer? version = some v) :
    Text.trim version = version := by
  have hchars : ∀ c ∈ version.toList, Text.isBlank c = false := by
    intro c hc
    rcases mem_dropV_or_eq hc with rfl | hc
    · decide
    · exact ((letters_of_ofText? h).2 c hc).1
  rw [Text.trim_eq_self_iff]
  exact ⟨fun c hc => hchars c (List.mem_of_mem_head? hc),
    fun c hc => hchars c (List.mem_of_mem_getLast? hc)⟩

end AffectedVersions.Version
