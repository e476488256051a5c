import AffectedVersions.Text.Blank
import Mathlib

/-! Trimming takes characters from the two ends of a text only. -/
namespace AffectedVersions.Text

/-- Neither the first nor the last character is a blank. -/
structure IsTrimmed (s : Text) : Prop where
  first : ∀ c ∈ s.toList.head?, isBlank c = false
  last : ∀ c ∈ s.toList.getLast?, isBlank c = false

instance (s : Text) : Decidable (IsTrimmed s) :=
  decidable_of_iff (s.toList.head?.any isBlank = false ∧ s.toList.getLast?.any isBlank = false)
    ⟨fun h => ⟨(Option.any_eq_false _ _).mp h.1, (Option.any_eq_false _ _).mp h.2⟩,
      fun h => ⟨(Option.any_eq_false _ _).mpr h.first, (Option.any_eq_false _ _).mpr h.last⟩⟩

theorem trimLeft_isSuffix (cs : List Letter) : trimLeft cs <:+ cs := List.dropWhile_suffix isBlank

theorem trimRight_isPrefix (cs : List Letter) : trimRight cs <+: cs := List.rdropWhile_prefix isBlank cs

theorem trimLeft_eq_self_iff (cs : List Letter) :
    trimLeft cs = cs ↔ ∀ c ∈ cs.head?, isBlank c = false := by
  cases cs with
  | nil => simp [trimLeft]
  | cons c cs =>
    unfold trimLeft
    rw [List.dropWhile_eq_self_iff]
    simp

theorem trimRight_eq_self_iff (cs : List Letter) :
    trimRight cs = cs ↔ ∀ c ∈ cs.getLast?, isBlank c = false := by
  have h : trimRight cs = cs.rdropWhile isBlank := rfl
  rw [h, List.rdropWhile_eq_self_iff]
  constructor
  · intro hl c hc
    obtain ⟨hne, rfl⟩ := List.mem_getLast?_eq_getLast hc
    simpa using hl hne
  · intro hl hne
    simpa using hl _ (List.getLast_mem_getLast? hne)

theorem toList_trim (s : Text) : (trim s).toList = trimRight (trimLeft s.toList) :=
  Text.toList_ofList

theorem trimLeft_append {blanks : List Letter} (h : ∀ c ∈ blanks, isBlank c = true) (cs : List Letter) :
    trimLeft (blanks ++ cs) = trimLeft cs := List.dropWhile_append_of_pos h

theorem trimRight_append {blanks : List Letter} (h : ∀ c ∈ blanks, isBlank c = true) (cs : List Letter) :
    trimRight (cs ++ blanks) = trimRight cs := by
  have hreverse : ∀ c ∈ blanks.reverse, isBlank c = true := fun c hc => h c (List.mem_reverse.mp hc)
  unfold trimRight
  rw [List.reverse_append, List.dropWhile_append_of_pos hreverse]

theorem trimRight_cons {c : Letter} (hc : isBlank c = false) (cs : List Letter) :
    trimRight (c :: cs) = c :: trimRight cs := by
  unfold trimRight
  rw [List.reverse_cons, List.dropWhile_append]
  cases hrest : cs.reverse.dropWhile isBlank with
  | nil => simp [hc]
  | cons d ds => simp

theorem toList_trim_of_blanks {s : Text} {before cs after : List Letter}
    (hs : s.toList = before ++ cs ++ after) (hbefore : ∀ c ∈ before, isBlank c = true)
    (hafter : ∀ c ∈ after, isBlank c = true) (hne : cs ≠ [])
    (hfirst : ∀ c ∈ cs.head?, isBlank c = false) (hlast : ∀ c ∈ cs.getLast?, isBlank c = false) :
    (trim s).toList = cs := by
  have hleft : trimLeft (cs ++ after) = cs ++ after := by
    rw [trimLeft_eq_self_iff, List.head?_append_of_ne_nil _ hne]
    exact hfirst
  rw [toList_trim, hs, List.append_assoc, trimLeft_append hbefore, hleft, trimRight_append hafter,
    trimRight_eq_self_iff]
  exact hlast

theorem exists_append_trim (s : Text) :
    ∃ before after, (∀ c ∈ before, isBlank c = true) ∧ (∀ c ∈ after, isBlank c = true) ∧
      s.toList = before ++ (trim s).toList ++ after := by
  refine ⟨s.toList.takeWhile isBlank, (trimLeft s.toList).rtakeWhile isBlank,
    fun c hc => List.mem_takeWhile_imp hc, fun c hc => List.mem_rtakeWhile_imp hc, ?_⟩
  have hright : trimRight (trimLeft s.toList) ++ (trimLeft s.toList).rtakeWhile isBlank =
      trimLeft s.toList := List.rdropWhile_append_rtakeWhile
  rw [toList_trim, List.append_assoc, hright]
  exact List.takeWhile_append_dropWhile.symm

theorem mem_of_mem_trim {s : Text} {c : Letter} (h : c ∈ (trim s).toList) : c ∈ s.toList := by
  rw [toList_trim] at h
  exact (trimLeft_isSuffix _).subset ((trimRight_isPrefix _).subset h)

theorem trim_of_length_le {s : Text} (h : s.toList.length ≤ (trim s).toList.length) :
    trimLeft s.toList = s.toList ∧ trimRight s.toList = s.toList := by
  rw [toList_trim] at h
  have hright := (trimRight_isPrefix (trimLeft s.toList)).length_le
  have hleft : trimLeft s.toList = s.toList :=
    (trimLeft_isSuffix _).eq_of_length (le_antisymm (trimLeft_isSuffix _).length_le (h.trans hright))
  rw [hleft] at h
  exact ⟨hleft, (trimRight_isPrefix _).eq_of_length (le_antisymm (trimRight_isPrefix _).length_le h)⟩

theorem trim_eq_self_iff (s : Text) : trim s = s ↔ IsTrimmed s := by
  constructor
  · intro h
    obtain ⟨hleft, hright⟩ := trim_of_length_le (le_of_eq (congrArg (·.toList.length) h.symm))
    exact ⟨(trimLeft_eq_self_iff _).mp hleft, (trimRight_eq_self_iff _).mp hright⟩
  · intro h
    rw [← Text.toList_inj, toList_trim, (trimLeft_eq_self_iff _).mpr h.first,
      (trimRight_eq_self_iff _).mpr h.last]

theorem isTrimmed_trim (s : Text) : IsTrimmed (trim s) := by
  constructor
  · intro c hc
    have hstart : (trim s).toList <+: trimLeft s.toList := by
      rw [toList_trim]
      exact trimRight_isPrefix _
    obtain ⟨rest, hrest⟩ := hstart
    have hhead : (trimLeft s.toList).head? = some c := by
      rw [← hrest, List.head?_append_of_ne_nil _ (List.ne_nil_of_mem (List.mem_of_mem_head? hc))]
      exact hc
    have hnot := List.head?_dropWhile_not isBlank s.toList
    unfold trimLeft at hhead
    rwa [hhead] at hnot
  · rw [← trimRight_eq_self_iff, toList_trim]
    exact List.rdropWhile_idempotent isBlank _

end AffectedVersions.Text
