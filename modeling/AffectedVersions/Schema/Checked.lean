import AffectedVersions.Json.Basic

/-! Checks of a value that gather all faults they find. -/
namespace AffectedVersions

/-- One step into a document: a member of an object or an item of an array. -/
inductive Key where
  | name (name : String)
  | index (i : Nat)
  deriving DecidableEq

inductive Complaint where
  | missing
  | notText
  | notList
  | notObject (model : String)
  | notOneKind
  | notStatus
  | notFlag
  | unreadableFlag
  | extraKeyword
  deriving DecidableEq

def Complaint.kind : Complaint → String
  | .missing => "missing"
  | .notText => "string_type"
  | .notList => "list_type"
  | .notObject _ => "model_type"
  | .notOneKind => "value_error"
  | .notStatus => "enum"
  | .notFlag => "bool_type"
  | .unreadableFlag => "bool_parsing"
  | .extraKeyword => "extra_forbidden"

def Complaint.message : Complaint → String
  | .missing => "Field required"
  | .notText => "Input should be a valid string"
  | .notList => "Input should be a valid list"
  | .notObject model => "Input should be a valid dictionary or instance of " ++ model
  | .notOneKind => "Value error, each version entry needs exactly one of 'introduced' or 'fixed'"
  | .notStatus => "Input should be 'affected', 'unaffected' or 'unknown'"
  | .notFlag => "Input should be a valid boolean"
  | .unreadableFlag => "Input should be a valid boolean, unable to interpret input"
  | .extraKeyword => "Extra inputs are not permitted"

structure Detail where
  complaint : Complaint
  location : List Key := []
  deriving DecidableEq

def Detail.under (key : Key) (d : Detail) : Detail := { d with location := key :: d.location }

/-- The outcome of a check: a value, or the details of all faults in the order of the document. -/
inductive Checked (α : Type) where
  | pass (value : α)
  | fail (details : List Detail)
  deriving DecidableEq

namespace Checked

variable {α β : Type}

def complain (complaint : Complaint) : Checked α := .fail [{ complaint }]

def details : Checked α → List Detail
  | .pass _ => []
  | .fail details => details

def map (f : α → β) : Checked α → Checked β
  | .pass a => .pass (f a)
  | .fail details => .fail details

/-- Both checks are made, and the faults of both count. -/
def ap : Checked (α → β) → Checked α → Checked β
  | .pass f, c => c.map f
  | .fail details, c => .fail (details ++ c.details)

/-- A second check that is made only after the first one passed. -/
def andThen (c : Checked α) (next : α → Checked β) : Checked β :=
  match c with
  | .pass a => next a
  | .fail details => .fail details

def under (key : Key) : Checked α → Checked α
  | .pass a => .pass a
  | .fail details => .fail (details.map (·.under key))

instance : Functor Checked := { map := map }

instance : Seq Checked := { seq := fun f a => ap f (a ()) }

/-- Check items in order, the first of them standing at index `i`. -/
def itemsFrom (check : Json → Checked α) (i : Nat) : List Json → Checked (List α)
  | [] => .pass []
  | x :: xs => List.cons <$> (check x).under (.index i) <*> itemsFrom check (i + 1) xs

end Checked

end AffectedVersions
