import AffectedVersions.Schema.Checked

/-! Fields of an object and the values they may have. -/
namespace AffectedVersions

abbrev Members := List (String × Json)

/-- A field is looked up by its name, or by its other name where the first is absent. -/
structure Field where
  name : String
  otherName : String := name

instance : Coe String Field where
  coe name := { name }

namespace Field

/-- The name under which a field is present, and its value there. A value of null is a value. -/
def find? (f : Field) (ms : Members) : Option (String × Json) :=
  match ms.lookup f.name with
  | some x => some (f.name, x)
  | none => (ms.lookup f.otherName).map (f.otherName, ·)

variable {α : Type}

/-- Check the value of a field, which counts as `absent` where it is not present. -/
def read (f : Field) (check : Json → Checked α) (absent : Checked α) (ms : Members) : Checked α :=
  match f.find? ms with
  | some (name, x) => (check x).under (.name name)
  | none => absent.under (.name f.name)

def required (f : Field) (check : Json → Checked α) (ms : Members) : Checked α :=
  f.read check (.complain .missing) ms

def orElse (f : Field) (check : Json → Checked α) (value : α) (ms : Members) : Checked α :=
  f.read check (.pass value) ms

end Field

namespace Schema

variable {α : Type}

def text : Json → Checked Text
  | .str s => .pass s
  | _ => .complain .notText

def list (check : Json → Checked α) : Json → Checked (List α)
  | .arr xs => .itemsFrom check 0 xs
  | _ => .complain .notList

def object (model : String) (check : Members → Checked α) : Json → Checked α
  | .obj ms => check ms
  | _ => .complain (.notObject model)

/-- Null stands for an absent value. -/
def nullable (check : Json → Checked α) : Json → Checked (Option α)
  | .null => .pass none
  | x => (check x).map some

/-- A field that may be absent or null. -/
def optional (f : Field) (check : Json → Checked α) (ms : Members) : Checked (Option α) :=
  f.orElse (nullable check) none ms

end Schema

end AffectedVersions
