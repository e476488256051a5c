import AffectedVersions.Proofs.Schema.Acceptance
import Mathlib

/-! Objects that differ in their spelling only pass a check alike. -/
namespace AffectedVersions

namespace Checked

variable {α β : Type} {c d : Checked α}

/-- The two checks pass for the same values. Their faults may differ. -/
def Agree (c d : Checked α) : Prop := ∀ a, c = pass a ↔ d = pass a

theorem Agree.refl (c : Checked α) : c.Agree c := fun _ => Iff.rfl

theorem Agree.map (h : c.Agree d) (f : α → β) : (f <$> c).Agree (f <$> d) := by
  intro b
  rw [map_eq_pass_iff, map_eq_pass_iff]
  exact exists_congr fun a => and_congr_left fun _ => h a

theorem Agree.seq {f g : Checked (α → β)} (hf : f.Agree g) (h : c.Agree d) :
    (f <*> c).Agree (g <*> d) := by
  intro b
  rw [seq_eq_pass_iff, seq_eq_pass_iff]
  exact exists_congr fun k => and_congr (hf k) (exists_congr fun a => and_congr_left fun _ => h a)

theorem Agree.under (h : c.Agree d) (key : Key) : (c.under key).Agree (d.under key) := by
  intro a
  rw [under_eq_pass_iff, under_eq_pass_iff]
  exact h a

theorem agree_itemsFrom {check : Json → Checked α} {x y : Json} (h : (check x).Agree (check y))
    (before after : List Json) (i : Nat) :
    (itemsFrom check i (before ++ x :: after)).Agree
      (itemsFrom check i (before ++ y :: after)) := by
  induction before generalizing i with
  | nil => exact ((h.under (.index i)).map List.cons).seq (.refl _)
  | cons z before ih => exact (Agree.refl _).seq (ih (i + 1))

end Checked

namespace Field

/-- The names under which a field may be present. -/
def names (f : Field) : List String := [f.name, f.otherName]

/-- The two fields have no name in common. -/
def IsApart (f g : Field) : Prop := ∀ name ∈ f.names, name ∉ g.names

instance (f g : Field) : Decidable (f.IsApart g) := inferInstanceAs (Decidable (∀ _ ∈ _, _))

theorem value?_eq_or (f : Field) (ms : Members) :
    f.value? ms = (ms.lookup f.name).or (ms.lookup f.otherName) := by
  unfold value? find?
  cases ms.lookup f.name with
  | none =>
    rw [Option.none_or, Option.map_map]
    exact Option.map_id'
  | some x => rfl

theorem value?_eq_some {f : Field} {ms : Members} {x : Json} (h : ms.lookup f.name = some x) :
    f.value? ms = some x := by
  rw [value?_eq_or, h, Option.some_or]

theorem value?_eq_lookup_otherName {f : Field} {ms : Members} (h : ms.lookup f.name = none) :
    f.value? ms = ms.lookup f.otherName := by
  rw [value?_eq_or, h, Option.none_or]

end Field

namespace Schema

/-- Whether null may stand for the absence of a field, and the other spellings of its values. -/
structure Slot where
  field : Field
  nullable : Bool := false
  respells : Json → Json → Prop := fun _ _ => False

/-- The fields of an object. No two of them share a name. -/
structure Outline where
  slots : List Slot
  distinct : slots.Pairwise fun s t => s.field.IsApart t.field := by decide

/-- The members under all other names are the same. -/
def SameBut (names : List String) (ms other : Members) : Prop :=
  ∀ key ∉ names, other.lookup key = ms.lookup key

/-- One change to the spelling of an object. -/
inductive Outline.Respelling (o : Outline) : Members → Members → Prop
  /-- A member that no field is looked up by is added, removed or changed. -/
  | unnamed {ms other : Members} {key : String} (hkey : ∀ s ∈ o.slots, key ∉ s.field.names)
      (h : SameBut [key] ms other) : Respelling o ms other
  /-- A field that is present under its name alone is given its other name. -/
  | renamed {ms other : Members} {s : Slot} {x : Json} (hs : s ∈ o.slots)
      (hname : ms.lookup s.field.name = some x) (hother : ms.lookup s.field.otherName = none)
      (hname' : other.lookup s.field.name = none)
      (hother' : other.lookup s.field.otherName = some x)
      (h : SameBut s.field.names ms other) : Respelling o ms other
  /-- Beside a field's own name any value is set under its other name. -/
  | hidden {ms other : Members} {s : Slot} (hs : s ∈ o.slots)
      (hne : s.field.otherName ≠ s.field.name) (hname : (ms.lookup s.field.name).isSome)
      (h : SameBut [s.field.otherName] ms other) : Respelling o ms other
  /-- A field that is absent under both names is set to null under one of them. -/
  | nulled {ms other : Members} {s : Slot} {name : String} (hs : s ∈ o.slots)
      (hnullable : s.nullable = true) (hname : name ∈ s.field.names)
      (habsent : ∀ key ∈ s.field.names, ms.lookup key = none)
      (hnull : other.lookup name = some .null) (h : SameBut [name] ms other) : Respelling o ms other
  /-- The value of a field is respelled in its place. -/
  | inside {ms other : Members} {s : Slot} {x y : Json} (hs : s ∈ o.slots)
      (hx : ms.lookup s.field.name = some x) (hy : other.lookup s.field.name = some y)
      (hxy : s.respells x y) (h : SameBut [s.field.name] ms other) : Respelling o ms other

/-- What a respelling may do to one field. -/
inductive Slot.Matches (s : Slot) (ms other : Members) : Prop
  | same (h : s.field.value? other = s.field.value? ms)
  | null (hnullable : s.nullable = true) (habsent : s.field.value? ms = none)
      (hnull : s.field.value? other = some .null)
  | inside {x y : Json} (hx : s.field.value? ms = some x) (hy : s.field.value? other = some y)
      (hxy : s.respells x y)

variable {ms other : Members} {names : List String} {o : Outline} {s t : Slot}

theorem SameBut.value?_eq (h : SameBut names ms other) {f : Field}
    (hf : ∀ name ∈ f.names, name ∉ names) : f.value? other = f.value? ms := by
  have hname : f.name ∈ f.names := List.mem_cons_self
  have hother : f.otherName ∈ f.names := List.mem_cons_of_mem _ List.mem_cons_self
  rw [Field.value?_eq_or, Field.value?_eq_or, h _ (hf _ hname), h _ (hf _ hother)]

instance : Std.Symm fun s t : Slot => s.field.IsApart t.field :=
  ⟨fun _ _ h name ht hs => h name hs ht⟩

theorem SameBut.forall_matches (h : SameBut names ms other) (hs : s ∈ o.slots)
    (hnames : names ⊆ s.field.names) (hself : s.Matches ms other) :
    ∀ t ∈ o.slots, t.Matches ms other := by
  intro t ht
  by_cases hts : t = s
  · rw [hts]
    exact hself
  · have hapart : t.field.IsApart s.field := o.distinct.forall ht hs hts
    exact .same (h.value?_eq fun name hname hmem => hapart name hname (hnames hmem))

theorem Outline.Respelling.matches (h : o.Respelling ms other) :
    ∀ t ∈ o.slots, t.Matches ms other := by
  cases h with
  | unnamed hkey h =>
    intro t ht
    refine .same (h.value?_eq fun name hname hmem => hkey t ht ?_)
    rwa [← List.mem_singleton.mp hmem]
  | renamed hs hname _ hname' hother' h =>
    apply h.forall_matches hs (List.Subset.refl _)
    refine .same ?_
    rw [Field.value?_eq_some hname, Field.value?_eq_lookup_otherName hname', hother']
  | hidden hs hne hname h =>
    apply h.forall_matches hs (by simp [Field.names])
    obtain ⟨x, hx⟩ := Option.isSome_iff_exists.mp hname
    refine .same ?_
    rw [Field.value?_eq_some hx, Field.value?_eq_some]
    rw [h _ (mt List.mem_singleton.mp hne.symm), hx]
  | @nulled s name hs hnullable hname habsent hnull h =>
    apply h.forall_matches hs (by simpa using hname)
    have hkey : s.field.name ∈ s.field.names := List.mem_cons_self
    have hother : s.field.otherName ∈ s.field.names := List.mem_cons_of_mem _ List.mem_cons_self
    refine .null hnullable ?_ ?_
    · rw [Field.value?_eq_lookup_otherName (habsent _ hkey), habsent _ hother]
    · by_cases hfirst : s.field.name = name
      · exact Field.value?_eq_some (hfirst ▸ hnull)
      · have hsecond : s.field.otherName = name := by
          rcases List.mem_pair.mp hname with heq | heq
          · exact absurd heq.symm hfirst
          · exact heq.symm
        rw [Field.value?_eq_lookup_otherName, hsecond, hnull]
        rw [h _ (mt List.mem_singleton.mp hfirst), habsent _ hkey]
  | inside hs hx hy hxy h =>
    apply h.forall_matches hs (by simp [Field.names])
    exact .inside (Field.value?_eq_some hx) (Field.value?_eq_some hy) hxy

namespace Slot.Matches

variable {α : Type} {check : Json → Checked α}

theorem elim_iff (h : s.Matches ms other) {absent : Prop} {present : Json → Prop}
    (hnull : s.nullable = true → (absent ↔ present .null))
    (hinside : ∀ x y, s.respells x y → (present x ↔ present y)) :
    (s.field.value? ms).elim absent present ↔ (s.field.value? other).elim absent present := by
  cases h with
  | same h => rw [h]
  | null hnullable habsent hother =>
    rw [habsent, hother]
    exact hnull hnullable
  | inside hx hy hxy =>
    rw [hx, hy]
    exact hinside _ _ hxy

theorem isSome_value?_iff (h : s.Matches ms other) (hnull : s.nullable = false) :
    (s.field.value? ms).isSome ↔ (s.field.value? other).isSome := by
  cases h with
  | same h => rw [h]
  | null hnullable => exact absurd hnullable (ne_true_of_eq_false hnull)
  | inside hx hy =>
    rw [hx, hy]
    exact iff_of_true rfl rfl

theorem optional (h : s.Matches ms other)
    (hinside : ∀ x y, s.respells x y → (Schema.nullable check x).Agree (Schema.nullable check y)) :
    (Schema.optional s.field check ms).Agree (Schema.optional s.field check other) := by
  intro value
  rw [optional_eq_pass_iff, optional_eq_pass_iff]
  apply h.elim_iff
  · intro _
    exact (Checked.pass.injEq ..).symm.to_iff
  · exact fun x y hxy => hinside x y hxy value

theorem orElse (h : s.Matches ms other) (hnull : s.nullable = false)
    (hinside : ∀ x y, s.respells x y → (check x).Agree (check y)) (value : α) :
    (s.field.orElse check value ms).Agree (s.field.orElse check value other) := by
  intro a
  rw [Field.orElse_eq_pass_iff, Field.orElse_eq_pass_iff]
  apply h.elim_iff
  · exact fun hnullable => absurd hnullable (ne_true_of_eq_false hnull)
  · exact fun x y hxy => hinside x y hxy a

theorem required (h : s.Matches ms other) (hnull : s.nullable = false)
    (hinside : ∀ x y, s.respells x y → (check x).Agree (check y)) :
    (s.field.required check ms).Agree (s.field.required check other) := by
  intro a
  unfold Field.required
  rw [Field.read_eq_pass_iff, Field.read_eq_pass_iff]
  apply h.elim_iff
  · exact fun hnullable => absurd hnullable (ne_true_of_eq_false hnull)
  · exact fun x y hxy => hinside x y hxy a

end Slot.Matches

/-- One of the elements of a list is respelled. -/
inductive RespelledItem (respells : Json → Json → Prop) : Json → Json → Prop
  | item (before after : List Json) {x y : Json} (h : respells x y) :
      RespelledItem respells (.arr (before ++ x :: after)) (.arr (before ++ y :: after))

/-- An object is respelled. -/
inductive Outline.RespelledObject (o : Outline) : Json → Json → Prop
  | object {ms other : Members} (h : o.Respelling ms other) :
      RespelledObject o (.obj ms) (.obj other)

section List

variable {α : Type} {check : Json → Checked α} {respells : Json → Json → Prop} {x y : Json}

theorem RespelledItem.agree_list (h : RespelledItem respells x y)
    (hcheck : ∀ a b, respells a b → (check a).Agree (check b)) :
    (list check x).Agree (list check y) := by
  cases h with
  | item before after h => exact Checked.agree_itemsFrom (hcheck _ _ h) before after 0

theorem RespelledItem.agree_nullable_list (h : RespelledItem respells x y)
    (hcheck : ∀ a b, respells a b → (check a).Agree (check b)) :
    (nullable (list check) x).Agree (nullable (list check) y) := by
  have hlist := (h.agree_list hcheck).map some
  cases h with
  | item before after h => exact hlist

end List

end Schema

end AffectedVersions
