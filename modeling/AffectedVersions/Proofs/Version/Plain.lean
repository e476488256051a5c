import AffectedVersions.Constraint.Clause
import AffectedVersions.Proofs.Text.Trim
import AffectedVersions.Version
import Mathlib

/-! Plain versions: the texts that are left as they are when the end of a span is read. -/
namespace AffectedVersions.Version

/-- A text without blanks at its ends and without a leading "v". -/
structure IsPlain (version : Text) : Prop where
  ne_empty : version ≠ ""
  trimmed : Text.IsTrimmed version
  no_v : version.toList.head? ≠ some ('v' : Letter)

instance (version : Text) : Decidable (IsPlain version) :=
  decidable_of_iff (version ≠ "" ∧ Text.IsTrimmed version ∧ version.toList.head? ≠ some ('v' : Letter))
    ⟨fun h => ⟨h.1, h.2.1, h.2.2⟩, fun h => ⟨h.ne_empty, h.trimmed, h.no_v⟩⟩

/-- The text neither means the first of all versions nor is taken for a constraint. -/
structure CanBegin (version : Text) : Prop where
  ne_genesis : version ≠ genesis
  no_operator : ∀ c ∈ version.toList.head?, Constraint.isOperatorChar c = false

instance (version : Text) : Decidable (CanBegin version) :=
  decidable_of_iff (version ≠ genesis ∧ version.toList.head?.any Constraint.isOperatorChar = false)
    ⟨fun h => ⟨h.1, (Option.any_eq_false _ _).mp h.2⟩,
      fun h => ⟨h.ne_genesis, (Option.any_eq_false _ _).mpr h.no_operator⟩⟩

theorem dropVLetters_isSuffix (cs : List Letter) : dropVLetters cs <:+ cs := by
  unfold dropVLetters
  split
  · exact List.suffix_cons _ _
  · exact List.suffix_rfl

theorem toList_dropV (version : Text) : (dropV version).toList = dropVLetters version.toList :=
  Text.toList_ofList

theorem length_dropV_le (version : Text) :
    (dropV version).toList.length ≤ version.toList.length := by
  rw [toList_dropV]
  exact (dropVLetters_isSuffix _).length_le

theorem mem_of_mem_dropV {version : Text} {c : Letter} (h : c ∈ (dropV version).toList) :
    c ∈ version.toList := by
  rw [toList_dropV] at h
  exact (dropVLetters_isSuffix _).subset h

theorem dropV_eq_self_iff (version : Text) :
    dropV version = version ↔ version.toList.head? ≠ some ('v' : Letter) := by
  rw [← Text.toList_inj, toList_dropV]
  cases version.toList with
  | nil => simp [dropVLetters]
  | cons c cs =>
    by_cases hc : c = 'v'
    · simp [hc, dropVLetters]
    · have : dropVLetters (c :: cs) = c :: cs := by
        unfold dropVLetters
        split
        · simp_all
        · rfl
      simp [this, hc]

/-- Dropping a "v" cannot make up for a blank that was trimmed: both only shorten the text. -/
theorem isPlain_iff (version : Text) :
    IsPlain version ↔ version ≠ "" ∧ dropV (Text.trim version) = version := by
  constructor
  · intro hh
    obtain ⟨hne, ht, hv⟩ := hh
    rw [(Text.trim_eq_self_iff version).mpr ht]
    exact ⟨hne, (dropV_eq_self_iff version).mpr hv⟩
  · intro hh
    obtain ⟨hne, h⟩ := hh
    have hlen := length_dropV_le (Text.trim version)
    rw [h] at hlen
    obtain ⟨hleft, hright⟩ := Text.trim_of_length_le hlen
    have htrim : Text.trim version = version := by
      rw [← Text.toList_inj, Text.toList_trim, hleft, hright]
    rw [htrim] at h
    exact ⟨hne, (Text.trim_eq_self_iff version).mp htrim, (dropV_eq_self_iff version).mp h⟩

end AffectedVersions.Version
