import AffectedVersions.Schema.Field
import Mathlib

/-! Checks of values that are written as the schema expects them. They pass. -/
namespace AffectedVersions

namespace Checked

variable {α β : Type}

@[simp] theorem map_pass (f : α → β) (a : α) : f <$> (pass a : Checked α) = pass (f a) := rfl

@[simp] theorem seq_pass (f : α → β) (a : α) : (pass f : Checked (α → β)) <*> pass a = pass (f a) :=
  rfl

@[simp] theorem under_pass (key : Key) (a : α) : (pass a).under key = pass a := rfl

theorem itemsFrom_map {check : Json → Checked α} {toJson : α → Json} {xs : List α}
    (h : ∀ x ∈ xs, check (toJson x) = pass x) (i : Nat) :
    itemsFrom check i (xs.map toJson) = pass xs := by
  induction xs generalizing i with
  | nil => rfl
  | cons x xs ih =>
    obtain ⟨hx, hxs⟩ := List.forall_mem_cons.mp h
    rw [List.map_cons, itemsFrom, hx, ih hxs, under_pass, map_pass, seq_pass]

end Checked

namespace Field

variable {α : Type}

theorem find?_of_lookup {f : Field} {ms : Members} {value : Option Json}
    (h : ms.lookup f.name = value) (hother : value = none → ms.lookup f.otherName = none) :
    f.find? ms = value.map (f.name, ·) := by
  unfold find?
  rw [h]
  cases value with
  | none => rw [hother rfl]; rfl
  | some x => rfl

theorem required_of_lookup {f : Field} {check : Json → Checked α} {ms : Members} {x : Json} {a : α}
    (h : ms.lookup f.name = some x) (hx : check x = .pass a) : f.required check ms = .pass a := by
  unfold required read
  rw [find?_of_lookup h (by simp)]
  simp [hx]

theorem orElse_of_lookup {f : Field} {check : Json → Checked α} {ms : Members} {x : Json} {a : α}
    (h : ms.lookup f.name = some x) (hx : check x = .pass a) (value : α) :
    f.orElse check value ms = .pass a := by
  unfold orElse read
  rw [find?_of_lookup h (by simp)]
  simp [hx]

end Field

namespace Schema

variable {α : Type}

theorem text_str (s : Text) : text (.str s) = .pass s := rfl

@[simp] theorem object_obj (model : String) (check : Members → Checked α) (ms : Members) :
    object model check (.obj ms) = check ms := rfl

theorem list_map {check : Json → Checked α} {toJson : α → Json} {xs : List α}
    (h : ∀ x ∈ xs, check (toJson x) = .pass x) : list check (.arr (xs.map toJson)) = .pass xs :=
  Checked.itemsFrom_map h 0

theorem optional_of_lookup {f : Field} {check : Json → Checked α} {toJson : α → Json}
    {ms : Members} {value : Option α} (h : ms.lookup f.name = value.map toJson)
    (hother : value = none → ms.lookup f.otherName = none)
    (hcheck : ∀ a ∈ value, check (toJson a) = .pass a) (hnull : ∀ a, toJson a ≠ .null) :
    optional f check ms = .pass value := by
  unfold optional Field.orElse Field.read
  rw [Field.find?_of_lookup h fun hv => hother (Option.map_eq_none_iff.mp hv)]
  cases value with
  | none => rfl
  | some a =>
    have ha : nullable check (toJson a) = .pass (some a) := by
      unfold nullable
      split
      · next heq => exact absurd heq (hnull a)
      · rw [hcheck a rfl]
        rfl
    simp [ha]

end Schema

end AffectedVersions
