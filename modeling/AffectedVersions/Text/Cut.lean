/-! Text before and after the first occurrence of a mark. -/
namespace AffectedVersions.Text

variable {α : Type} [DecidableEq α]

/-- What stands before the first `mark`, and what stands after it when there is one. -/
def cut (mark : α) : List α → List α × Option (List α)
  | [] => ([], none)
  | c :: cs =>
    if c = mark then ([], some cs)
    else (c :: (cut mark cs).1, (cut mark cs).2)

theorem cut_append {mark : α} {cs : List α} (h : mark ∉ cs) (rest : List α) :
    cut mark (cs ++ mark :: rest) = (cs, some rest) := by
  induction cs with
  | nil => simp [cut]
  | cons c cs ih =>
    simp only [List.mem_cons, not_or] at h
    simp [cut, Ne.symm h.1, ih h.2]

end AffectedVersions.Text
