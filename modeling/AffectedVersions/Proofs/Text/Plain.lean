import AffectedVersions.Text.Plain
import Mathlib

/-! Text that begins without an escape keeps its beginning when control sequences are dropped. -/
namespace AffectedVersions.Text

theorem continuesSequence_nil {c : Letter} (h : c ≠ escapeMark) : continuesSequence [] c = false :=
  beq_false_of_ne h

theorem dropSequences_cons {c : Letter} (h : c ≠ escapeMark) (cs : List Letter) :
    dropSequences [] (c :: cs) = c :: dropSequences [] cs := by
  rw [dropSequences, continuesSequence_nil h, if_neg Bool.false_ne_true, if_neg (by simp), if_neg h]
  rfl

theorem dropSequences_append {start : List Letter} (h : (escapeMark : Letter) ∉ start) (cs : List Letter) :
    dropSequences [] (start ++ cs) = start ++ dropSequences [] cs := by
  induction start with
  | nil => rfl
  | cons c rest ih =>
    rw [List.mem_cons, not_or] at h
    rw [List.cons_append, dropSequences_cons (Ne.symm h.1), ih h.2, List.cons_append]

theorem plain_append {start : Text} (h : (escapeMark : Letter) ∉ start.toList) (s : Text) :
    plain (start ++ s) = start ++ plain s := by
  rw [← toList_inj]
  simp only [plain, toList_append, toList_ofList, dropSequences_append h]

/-- Text without escapes has no control sequences. -/
theorem plain_of_notMem {s : Text} (h : (escapeMark : Letter) ∉ s.toList) : plain s = s := by
  have hdrop := dropSequences_append h []
  rw [List.append_nil] at hdrop
  rw [plain, hdrop, dropSequences, List.append_nil, Text.ofList_toList]

end AffectedVersions.Text
