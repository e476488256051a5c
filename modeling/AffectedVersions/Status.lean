import AffectedVersions.Text.Label
import AffectedVersions.Text.Quoted

/-! The statuses that an advisory gives to versions. -/
namespace AffectedVersions

inductive Status where
  | affected
  | unaffected
  | unknown
  deriving DecidableEq

namespace Status

def all : List Status := [affected, unaffected, unknown]

def label : Status → String
  | affected => "affected"
  | unaffected => "unaffected"
  | unknown => "unknown"

/-- An unknown status is its own opposite. -/
def opposite : Status → Status
  | affected => unaffected
  | unaffected => affected
  | unknown => unknown

def ofLabel? (label : Text) : Option Status := all.find? fun s => Text.ofString s.label == label

/-- The status with this label in any case, blanks around it ignored. -/
def read? (label : Text) : Option Status := ofLabel? (Text.labelKey label)

def notALabel (label : Text) : String := Text.quote label ++ " is not a valid VersionStatus"

@[simp] theorem opposite_opposite (s : Status) : s.opposite.opposite = s := by cases s <;> rfl

theorem opposite_ne_unknown {s : Status} (h : s ≠ unknown) : s.opposite ≠ unknown := by
  cases s <;> simp_all [opposite]

theorem opposite_ne_self {s : Status} (h : s ≠ unknown) : s.opposite ≠ s := by
  cases s <;> simp_all [opposite]

@[simp] theorem ofLabel?_label (s : Status) : ofLabel? s.label = some s := by cases s <;> decide

@[simp] theorem read?_label (s : Status) : read? s.label = some s := by cases s <;> decide +kernel

end Status

end AffectedVersions
