import AffectedVersions.Proofs.Json.Path
import AffectedVersions.Proofs.Schema.Acceptance
import Mathlib

/-! A check finds the faults of all its parts, each located inside of the whole. -/
namespace AffectedVersions

/-- The elements of the list under a name; none where there is no such list. -/
def Json.listAt (name : String) (x : Json) : List Json := ((x.at? [name]).map elements).getD []

namespace Checked

variable {α β : Type}

@[simp] theorem details_pass (a : α) : (pass a).details = [] := rfl

@[simp] theorem details_map (f : α → β) (c : Checked α) : (f <$> c).details = c.details := by
  cases c <;> rfl

@[simp] theorem details_seq (g : Checked (α → β)) (c : Checked α) :
    (g <*> c).details = g.details ++ c.details := by
  cases g with
  | pass f => exact details_map f c
  | fail details => rfl

@[simp] theorem details_under (key : Key) (c : Checked α) :
    (c.under key).details = c.details.map (Detail.under key) := by
  cases c <;> rfl

theorem details_itemsFrom (check : Json → Checked α) (i : Nat) (xs : List Json) :
    (itemsFrom check i xs).details =
      (xs.zipIdx i).flatMap fun (x, j) => (check x).details.map (Detail.under (.index j)) := by
  induction xs generalizing i with
  | nil => rfl
  | cons x xs ih =>
    rw [itemsFrom, details_seq, details_map, details_under, ih, List.zipIdx_cons, List.flatMap_cons]

theorem eq_fail_of_details_ne_nil {c : Checked α} (h : c.details ≠ []) : c = fail c.details := by
  cases c with
  | pass a => exact absurd rfl h
  | fail details => rfl

end Checked

namespace Schema

variable {α : Type}

theorem details_orElse_list {name : String} {ms : Members} {check : Json → Checked α}
    (h : ∀ y ∈ ms.lookup name, ∃ xs, y = .arr xs) :
    (Field.orElse name (list check) [] ms).details =
      ((Json.obj ms).listAt name).zipIdx.flatMap fun (x, i) =>
        ((check x).details.map (Detail.under (.index i))).map (Detail.under (.name name)) := by
  unfold Field.orElse Field.read Field.find? Json.listAt
  rw [Json.at?_singleton]
  cases hlookup : ms.lookup name with
  | none => simp
  | some y =>
    obtain ⟨xs, rfl⟩ := h y hlookup
    simp only [list, Checked.details_under, Checked.details_itemsFrom, List.map_flatMap,
      Option.map_some, Option.getD_some, Json.elements]

theorem isList_arr {is : Json → Prop} {xs : List Json} (h : ∀ z ∈ xs, is z) :
    IsList is (some (.arr xs)) := fun _ hy => ⟨xs, (Option.some.inj hy).symm, h⟩

theorem isList_none {is : Json → Prop} : IsList is none := nofun

theorem IsList.forall_mem_listAt {is : Json → Prop} {name : String} {x : Json}
    (h : IsList is (x.at? [name])) : ∀ y ∈ x.listAt name, is y := by
  unfold Json.listAt
  cases hx : x.at? [name] with
  | none => exact fun y hy => absurd hy List.not_mem_nil
  | some y =>
    obtain ⟨xs, rfl, hxs⟩ := h y hx
    exact hxs

theorem IsList.imp {is is' : Json → Prop} {name : String} {x : Json} (h : IsList is (x.at? [name]))
    (himp : ∀ y ∈ x.listAt name, is y → is' y) : IsList is' (x.at? [name]) := by
  intro y hy
  obtain ⟨xs, rfl, hxs⟩ := h y hy
  have hlist : x.listAt name = xs := by
    unfold Json.listAt
    rw [Option.mem_def.mp hy]
    rfl
  rw [hlist] at himp
  exact ⟨xs, rfl, fun z hz => himp z hz (hxs z hz)⟩

end Schema

end AffectedVersions
