import AffectedVersions.Text.Cut
import Mathlib

/-! Texts that are cut at a mark, and pieces with marks between them. -/
namespace AffectedVersions.Text

variable {α : Type}

/-- What was cut off, put back behind its mark. -/
def afterMark (mark : α) (rest : Option (List α)) : List α :=
  (rest.map (mark :: ·)).getD []

theorem cut_append_afterMark [DecidableEq α] (mark : α) (cs : List α) :
    (cut mark cs).1 ++ afterMark mark (cut mark cs).2 = cs := by
  induction cs with
  | nil => rfl
  | cons c cs ih =>
    unfold cut
    split_ifs with hc
    · simp [afterMark, hc]
    · exact congrArg (c :: ·) ih

theorem mem_of_mem_intercalate {c : α} {mark : List α} {parts : List (List α)}
    (h : c ∈ mark.intercalate parts) : c ∈ mark ∨ ∃ part ∈ parts, c ∈ part := by
  induction parts with
  | nil => simp at h
  | cons part parts ih =>
    cases parts with
    | nil => exact Or.inr ⟨part, by simp, by simpa using h⟩
    | cons next parts =>
      rw [List.intercalate_cons_cons, List.mem_append, List.mem_append] at h
      rcases h with (hc | hc) | hc
      · exact Or.inr ⟨part, by simp, hc⟩
      · exact Or.inl hc
      · exact (ih hc).imp_right fun ⟨p, hp, hcp⟩ => ⟨p, List.mem_cons_of_mem _ hp, hcp⟩

end AffectedVersions.Text
