import AffectedVersions.Schema.Field
import Mathlib

/-! What a value is like that passes a check. -/
namespace AffectedVersions

namespace Checked

variable {α β : Type}

theorem map_eq_pass_iff {f : α → β} {c : Checked α} {b : β} :
    f <$> c = pass b ↔ ∃ a, c = pass a ∧ f a = b := by
  cases c with
  | pass a =>
    change pass (f a) = pass b ↔ _
    simp
  | fail details =>
    change fail details = pass b ↔ _
    simp

theorem seq_eq_pass_iff {g : Checked (α → β)} {c : Checked α} {b : β} :
    g <*> c = pass b ↔ ∃ f, g = pass f ∧ ∃ a, c = pass a ∧ f a = b := by
  cases g with
  | pass f =>
    change f <$> c = pass b ↔ _
    rw [map_eq_pass_iff]
    simp
  | fail details =>
    change fail (details ++ c.details) = pass b ↔ _
    simp

theorem andThen_eq_pass_iff {c : Checked α} {next : α → Checked β} {b : β} :
    c.andThen next = pass b ↔ ∃ a, c = pass a ∧ next a = pass b := by
  cases c with
  | pass a =>
    change next a = pass b ↔ _
    simp
  | fail details =>
    change fail details = pass b ↔ _
    simp

theorem under_eq_pass_iff {key : Key} {c : Checked α} {a : α} : c.under key = pass a ↔ c = pass a := by
  cases c with
  | pass b => rfl
  | fail details =>
    change fail _ = pass a ↔ _
    simp

/-- Items pass when each of them does, and give one value each. -/
theorem itemsFrom_eq_pass_iff {check : Json → Checked α} {i : Nat} {xs : List Json} {values : List α} :
    itemsFrom check i xs = pass values ↔ List.Forall₂ (fun x a => check x = pass a) xs values := by
  induction xs generalizing i values with
  | nil =>
    rw [List.forall₂_nil_left_iff, itemsFrom, pass.injEq, eq_comm]
  | cons x xs ih =>
    rw [itemsFrom, seq_eq_pass_iff, List.forall₂_cons_left_iff]
    simp only [map_eq_pass_iff, under_eq_pass_iff, ih]
    constructor
    · rintro ⟨f, ⟨a, ha, rfl⟩, rest, hrest, rfl⟩
      exact ⟨a, rest, ha, hrest, rfl⟩
    · rintro ⟨a, rest, ha, hrest, rfl⟩
      exact ⟨List.cons a, ⟨a, ha, rfl⟩, rest, hrest, rfl⟩

end Checked

namespace Field

variable {α : Type} {f : Field} {check : Json → Checked α} {ms other : Members}

/-- The value of a field, under whichever of its names it is present. -/
def value? (f : Field) (ms : Members) : Option Json := (f.find? ms).map Prod.snd

theorem value?_of_name (name : String) (ms : Members) :
    Field.value? { name } ms = ms.lookup name := by
  unfold value? find?
  cases h : ms.lookup name with
  | none => simp
  | some x => rfl

theorem read_eq_pass_iff {absent : Checked α} {a : α} :
    f.read check absent ms = .pass a ↔
      (f.value? ms).elim (absent = .pass a) fun x => check x = .pass a := by
  unfold read value?
  cases f.find? ms with
  | none => exact Checked.under_eq_pass_iff
  | some found => exact Checked.under_eq_pass_iff

theorem required_eq_pass_iff {a : α} :
    f.required check ms = .pass a ↔ ∃ x, f.value? ms = some x ∧ check x = .pass a := by
  unfold required
  rw [read_eq_pass_iff]
  cases f.value? ms with
  | none =>
    change Checked.fail _ = .pass a ↔ _
    simp
  | some x => simp

theorem orElse_eq_pass_iff {value a : α} :
    f.orElse check value ms = .pass a ↔
      (f.value? ms).elim (value = a) fun x => check x = .pass a := by
  unfold orElse
  rw [read_eq_pass_iff, Checked.pass.injEq]

theorem find?_congr (hname : ms.lookup f.name = other.lookup f.name)
    (hother : ms.lookup f.otherName = other.lookup f.otherName) : f.find? ms = f.find? other := by
  unfold find?
  rw [hname, hother]

end Field

namespace Schema

variable {α : Type} {check : Json → Checked α}

theorem object_eq_pass_iff {model : String} {check : Members → Checked α} {x : Json} {a : α} :
    object model check x = .pass a ↔ ∃ ms, x = .obj ms ∧ check ms = .pass a := by
  cases x with
  | obj ms => simp [object]
  | _ => simp [object, Checked.complain]

theorem list_eq_pass_iff {x : Json} {values : List α} :
    list check x = .pass values ↔
      ∃ xs, x = .arr xs ∧ List.Forall₂ (fun x a => check x = .pass a) xs values := by
  cases x with
  | arr xs => simp [list, Checked.itemsFrom_eq_pass_iff]
  | _ => simp [list, Checked.complain]

theorem optional_eq_pass_iff {f : Field} {ms : Members} {value : Option α} :
    optional f check ms = .pass value ↔
      (f.value? ms).elim (none = value) fun x => nullable check x = .pass value :=
  Field.orElse_eq_pass_iff

/-- What stands for a text that may be missing: the text, or else nothing or null. -/
def IsOptionalText (x : Option Json) : Option Text → Prop
  | some s => x = some (.str s)
  | none => ∀ y ∈ x, y = .null

/-- Elements stand for the values of a list in their order, or nothing for the empty list. -/
def IsListOf (standsFor : Json → α → Prop) (x : Option Json) (values : List α) : Prop :=
  x.elim (values = []) fun y => ∃ xs, y = .arr xs ∧ List.Forall₂ standsFor xs values

/-- The value is absent, or it is a list of such elements. -/
def IsList (is : Json → Prop) (x : Option Json) : Prop :=
  ∀ y ∈ x, ∃ xs, y = .arr xs ∧ ∀ z ∈ xs, is z

theorem exists_forall₂_iff {β : Type} {standsFor : β → α → Prop} {xs : List β} :
    (∃ values, List.Forall₂ standsFor xs values) ↔ ∀ x ∈ xs, ∃ a, standsFor x a := by
  induction xs with
  | nil => simp
  | cons x xs ih =>
    rw [List.forall_mem_cons, ← ih]
    constructor
    · rintro ⟨values, h⟩
      obtain ⟨a, rest, ha, hrest, -⟩ := List.forall₂_cons_left_iff.mp h
      exact ⟨⟨a, ha⟩, rest, hrest⟩
    · rintro ⟨⟨a, ha⟩, rest, hrest⟩
      exact ⟨a :: rest, .cons ha hrest⟩

theorem exists_isListOf_iff {standsFor : Json → α → Prop} {is : Json → Prop}
    (h : ∀ y, is y ↔ ∃ a, standsFor y a) {x : Option Json} :
    (∃ values, IsListOf standsFor x values) ↔ IsList is x := by
  unfold IsListOf IsList
  simp only [h, ← exists_forall₂_iff]
  cases x with
  | none => simp
  | some y =>
    constructor
    · rintro ⟨values, xs, rfl, hvalues⟩ z hz
      exact ⟨xs, (Option.some.inj hz).symm, values, hvalues⟩
    · intro hlist
      obtain ⟨xs, hxs, values, hvalues⟩ := hlist y rfl
      exact ⟨values, xs, hxs, hvalues⟩

theorem isListOf_map_iff {β : Type} {standsFor : Json → α → Prop} {write : β → Json} {items : List β}
    {values : List α} :
    IsListOf standsFor (some (.arr (items.map write))) values ↔
      List.Forall₂ (fun b a => standsFor (write b) a) items values := by
  unfold IsListOf
  rw [Option.elim_some, ← List.forall₂_map_left_iff]
  constructor
  · rintro ⟨xs, hxs, h⟩
    rwa [Json.arr.inj hxs]
  · intro h
    exact ⟨_, rfl, h⟩

theorem exists_isOptionalText_iff {x : Option Json} :
    (∃ value, IsOptionalText x value) ↔ ∀ y ∈ x, y = .null ∨ ∃ s, y = .str s := by
  constructor
  · rintro ⟨_ | s, hvalue⟩ y hy
    · exact Or.inl (hvalue y hy)
    · exact Or.inr ⟨s, Option.some.inj (hy.symm.trans hvalue)⟩
  · intro h
    cases x with
    | none => exact ⟨none, nofun⟩
    | some y =>
      rcases h y rfl with rfl | ⟨s, rfl⟩
      · exact ⟨none, fun z hz => (Option.some.inj hz).symm⟩
      · exact ⟨some s, rfl⟩

theorem text_eq_pass_iff {x : Json} {s : Text} : text x = .pass s ↔ x = .str s := by
  cases x <;> simp [text, Checked.complain]

theorem required_text_eq_pass_iff {name : String} {ms : Members} {s : Text} :
    Field.required name text ms = .pass s ↔ ms.lookup name = some (.str s) := by
  rw [Field.required_eq_pass_iff, Field.value?_of_name]
  simp only [text_eq_pass_iff, exists_eq_right]

theorem nullable_eq_pass_iff {x : Json} {value : Option α} :
    nullable check x = .pass value ↔
      x = .null ∧ value = none ∨ x ≠ .null ∧ ∃ a, check x = .pass a ∧ some a = value := by
  cases x with
  | null => simp [nullable, eq_comm]
  | _ =>
    change some <$> check _ = .pass value ↔ _
    rw [Checked.map_eq_pass_iff]
    simp

theorem optional_text_eq_pass_iff {name : String} {ms : Members} {value : Option Text} :
    optional name text ms = .pass value ↔ IsOptionalText (ms.lookup name) value := by
  rw [optional_eq_pass_iff, Field.value?_of_name]
  cases ms.lookup name with
  | none => cases value <;> simp [IsOptionalText]
  | some x =>
    rw [Option.elim_some, nullable_eq_pass_iff]
    simp only [text_eq_pass_iff]
    cases value with
    | none => simp [IsOptionalText]
    | some s =>
      rw [IsOptionalText, Option.some_inj]
      constructor
      · rintro (⟨-, hnone⟩ | ⟨-, a, hx, ha⟩)
        · exact absurd hnone nofun
        · rw [hx, Option.some.inj ha]
      · intro hx
        exact Or.inr ⟨by rw [hx]; nofun, s, hx, rfl⟩

theorem orElse_list_eq_pass_iff {standsFor : Json → α → Prop}
    (h : ∀ x a, check x = .pass a ↔ standsFor x a) {name : String} {ms : Members} {values : List α} :
    Field.orElse name (list check) [] ms = .pass values ↔
      IsListOf standsFor (ms.lookup name) values := by
  unfold IsListOf
  rw [Field.orElse_eq_pass_iff, Field.value?_of_name]
  simp only [list_eq_pass_iff, h, eq_comm (a := [])]

theorem optional_congr {f : Field} {ms other : Members} (h : f.find? ms = f.find? other) :
    optional f check ms = optional f check other := by
  unfold optional Field.orElse Field.read
  rw [h]

end Schema

end AffectedVersions
