import AffectedVersions.Schema.Field
import Mathlib

/-! Values inside of a value: what the names of members lead to, and how it is changed in place. -/
namespace AffectedVersions.Json

/-- The value that the named members lead to, each inside of the one before. -/
def at? : List String → Json → Option Json
  | [], x => some x
  | name :: path, .obj ms => (ms.lookup name).bind (at? path)
  | _ :: _, _ => none

def mapMember (name : String) (f : Json → Json) (ms : Members) : Members :=
  ms.map fun (key, x) => (key, if key = name then f x else x)

/-- Change what the named members lead to. Where they lead nowhere nothing is changed. -/
def modify (f : Json → Json) : List String → Json → Json
  | [], x => f x
  | name :: path, .obj ms => .obj (mapMember name (modify f path) ms)
  | _ :: _, x => x

/-- The elements of a list; none for any other value. -/
def elements : Json → List Json
  | .arr xs => xs
  | _ => []

def mapElements (f : Json → Json) : Json → Json
  | .arr xs => .arr (xs.map f)
  | x => x

theorem elements_mapElements (f : Json → Json) (x : Json) : (x.mapElements f).elements = x.elements.map f := by
  cases x <;> rfl

theorem lookup_mapMember (name key : String) (f : Json → Json) (ms : Members) :
    (mapMember name f ms).lookup key = if key = name then (ms.lookup key).map f else ms.lookup key := by
  unfold mapMember
  induction ms with
  | nil => simp
  | cons m ms ih =>
    obtain ⟨other, x⟩ := m
    rw [List.map_cons, List.lookup_cons, List.lookup_cons]
    by_cases hkey : key = other
    · subst hkey
      by_cases hname : key = name <;> simp [hname]
    · have hne : (key == other) = false := beq_eq_false_iff_ne.mpr hkey
      rw [hne, ih]

theorem at?_modify_append (f : Json → Json) (first second : List String) (x : Json) :
    (x.modify f (first ++ second)).at? first = (x.at? first).map (modify f second) := by
  induction first generalizing x with
  | nil => rfl
  | cons name path ih =>
    cases x with
    | obj ms =>
      simp only [List.cons_append, modify, at?]
      rw [lookup_mapMember, if_pos rfl]
      cases ms.lookup name with
      | none => rfl
      | some y => exact ih y
    | _ => rfl

theorem at?_modify (f : Json → Json) (path : List String) (x : Json) :
    (x.modify f path).at? path = (x.at? path).map f := by
  have happend := at?_modify_append f path [] x
  rwa [List.append_nil] at happend

theorem at?_singleton (name : String) (ms : Members) : (obj ms).at? [name] = ms.lookup name := by
  rw [at?]
  cases ms.lookup name <;> rfl

theorem at?_singleton_eq_some_iff {name : String} {x y : Json} :
    x.at? [name] = some y ↔ ∃ ms, x = .obj ms ∧ ms.lookup name = some y := by
  cases x with
  | obj ms => simp [at?_singleton]
  | _ => simp [at?]

theorem at?_append (first second : List String) (x : Json) :
    x.at? (first ++ second) = (x.at? first).bind (at? second) := by
  induction first generalizing x with
  | nil => rfl
  | cons name path ih =>
    cases x with
    | obj ms =>
      simp only [List.cons_append, at?]
      cases ms.lookup name with
      | none => rfl
      | some y => exact ih y
    | _ => rfl

end AffectedVersions.Json
