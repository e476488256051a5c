import AffectedVersions.Decimal
import AffectedVersions.Text.Basic

/-! JSON values. -/
namespace AffectedVersions

/-- The members of an object keep the order in which they were written. -/
inductive Json where
  | null
  | bool (b : Bool)
  | int (n : Int)
  | real (x : Decimal)
  | str (s : Text)
  | arr (items : List Json)
  | obj (members : List (String × Json))

namespace Json

/-- The character with this code, or the replacement character for half of a surrogate pair. -/
def scalar (n : Nat) : Char := if n.isValidChar then Char.ofNat n else '\uFFFD'

/-- The name with these codes. No name that is looked for has the replacement character in it. -/
def nameOfCodes (codes : List Nat) : String := .ofList (codes.map scalar)

/-- Give `name` a value. A name that is there already keeps its place. -/
def put (name : String) (value : Json) : List (String × Json) → List (String × Json)
  | [] => [(name, value)]
  | (other, old) :: rest =>
    if other = name then (name, value) :: rest else (other, old) :: put name value rest

theorem lookup_put_self (name : String) (value : Json) (members : List (String × Json)) :
    (put name value members).lookup name = some value := by
  induction members with
  | nil => simp [put]
  | cons m ms ih =>
    obtain ⟨other, old⟩ := m
    by_cases h : other = name
    · simp [put, h]
    · have hb : (name == other) = false := by simpa using Ne.symm h
      simp [put, h, List.lookup_cons, hb, ih]

theorem lookup_put_of_ne {name key : String} (h : key ≠ name) (value : Json)
    (members : List (String × Json)) :
    (put name value members).lookup key = members.lookup key := by
  have hb : (key == name) = false := by simpa using h
  induction members with
  | nil => simp [put, List.lookup_cons, hb]
  | cons m ms ih =>
    obtain ⟨other, old⟩ := m
    by_cases hm : other = name
    · simp [put, hm, List.lookup_cons, hb]
    · simp [put, hm, List.lookup_cons, ih]

/-- Of the members with one name the last gives the value and the first the place. -/
def distinct (members : List (String × Json)) : List (String × Json) :=
  members.foldl (fun known member => put member.1 member.2 known) []

end Json

end AffectedVersions
