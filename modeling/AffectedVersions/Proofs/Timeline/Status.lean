import AffectedVersions.Meaning
import AffectedVersions.Proofs.SemVer.Order
import AffectedVersions.Proofs.Version.SemVer
import Mathlib

/-! The status that a timeline gives to a version, computed event by event. -/
namespace AffectedVersions

namespace Version

/-- Both texts are versions, and the first one does not come after the second one. -/
def NotAfter (earlier later : Text) : Prop :=
  ∃ a b, semVer? earlier = some a ∧ semVer? later = some b ∧ a.notAfter b = true

instance (earlier later : Text) : Decidable (NotAfter earlier later) :=
  decidable_of_iff (∃ a ∈ semVer? earlier, ∃ b ∈ semVer? later, a.notAfter b = true)
    ⟨fun ⟨a, ha, b, hb, hab⟩ => ⟨a, b, ha, hb, hab⟩, fun ⟨a, b, ha, hb, hab⟩ => ⟨a, ha, b, hb, hab⟩⟩

theorem isReachedBy_eq {version : Text} {v : SemVer} (h : semVer? version = some v) (x : SemVer) :
    isReachedBy version x = v.notAfter x := by
  unfold isReachedBy
  rw [h]
  rfl

theorem isReachedBy_eq_false_of_none {version : Text} (h : semVer? version = none) (x : SemVer) :
    isReachedBy version x = false := by
  unfold isReachedBy
  rw [h]
  rfl

theorem isAheadOf_eq {version : Text} {v : SemVer} (h : semVer? version = some v) (x : SemVer) :
    isAheadOf version x = !isReachedBy version x := by
  rw [isReachedBy_eq h]
  unfold isAheadOf
  rw [h]
  exact SemVer.precedes_eq_not_notAfter x v

theorem isReachedBy_dropV {version : Text} (h : (semVer? version).isSome = true) (x : SemVer) :
    isReachedBy (dropV version) x = isReachedBy version x := by
  obtain ⟨v, hv⟩ := Option.isSome_iff_exists.mp h
  rw [isReachedBy_eq hv, isReachedBy_eq (semVer?_dropV hv)]

/-- What has not reached a version has reached none after it either. -/
theorem NotAfter.isReachedBy_eq_false {earlier later : Text} (h : NotAfter earlier later)
    {x : SemVer} (hx : isReachedBy earlier x = false) : isReachedBy later x = false := by
  obtain ⟨a, b, ha, hb, hab⟩ := h
  rw [isReachedBy_eq ha] at hx
  rw [isReachedBy_eq hb, Bool.eq_false_iff]
  intro hbx
  rw [SemVer.notAfter_trans hab hbx] at hx
  exact Bool.noConfusion hx

theorem NotAfter.dropV {earlier later : Text} (h : NotAfter earlier later) :
    NotAfter (dropV earlier) (dropV later) := by
  obtain ⟨a, b, ha, hb, hab⟩ := h
  exact ⟨a, b, semVer?_dropV ha, semVer?_dropV hb, hab⟩

end Version

namespace Timeline

@[simp] theorem normalized_cons (e : Event) (t : Timeline) :
    normalized (e :: t) = e.normalized :: t.normalized := rfl

/-- The status after some events, given the one before them. Each event that is reached sets it. -/
def statusFrom (x : SemVer) (before : Status) (t : Timeline) : Status :=
  t.foldl (fun status e => if Version.isReachedBy e.version x then e.kind.status else status) before

/-- The status before all events is the one that the first of them ends. -/
def statusBefore (t : Timeline) : Status :=
  match t.head? with
  | some first => first.kind.status.opposite
  | none => .affected

theorem statusFrom_nil (x : SemVer) (before : Status) : statusFrom x before [] = before := rfl

theorem statusFrom_cons (x : SemVer) (before : Status) (e : Event) (t : Timeline) :
    statusFrom x before (e :: t) =
      statusFrom x (if Version.isReachedBy e.version x then e.kind.status else before) t :=
  List.foldl_cons

theorem statusFrom_append (x : SemVer) (before : Status) (t u : Timeline) :
    statusFrom x before (t ++ u) = statusFrom x (statusFrom x before t) u := List.foldl_append

/-- The last event in the list that is reached decides. -/
theorem statusFrom_eq (x : SemVer) (before : Status) (t : Timeline) :
    statusFrom x before t =
      match (t.filter fun e => Version.isReachedBy e.version x).getLast? with
      | some e => e.kind.status
      | none => before := by
  induction t generalizing before with
  | nil => rfl
  | cons e t ih =>
    rw [statusFrom_cons, ih, List.filter_cons]
    split_ifs with he
    · rw [List.getLast?_cons]
      cases (t.filter fun e => Version.isReachedBy e.version x).getLast? <;> rfl
    · rfl

theorem statusAt_eq_statusFrom (t : Timeline) (x : SemVer) :
    t.statusAt x = statusFrom x t.statusBefore t := by
  rw [statusFrom_eq]
  unfold statusAt statusBefore
  cases (t.filter fun e => Version.isReachedBy e.version x).getLast? with
  | some e => rfl
  | none => cases t.head? <;> rfl

/-- Events that are not reached leave the status as it was. -/
theorem statusFrom_of_not_reached {x : SemVer} {t : Timeline}
    (h : ∀ e ∈ t, Version.isReachedBy e.version x = false) (before : Status) :
    statusFrom x before t = before := by
  have hnone : t.filter (fun e => Version.isReachedBy e.version x) = [] :=
    List.filter_eq_nil_iff.mpr fun e he => ne_true_of_eq_false (h e he)
  rw [statusFrom_eq, hnone]
  rfl

theorem statusFrom_normalized {t : Timeline}
    (h : ∀ e ∈ t, (Version.semVer? e.version).isSome = true) (x : SemVer) (before : Status) :
    statusFrom x before t.normalized = statusFrom x before t := by
  induction t generalizing before with
  | nil => rfl
  | cons e t ih =>
    rw [List.forall_mem_cons] at h
    have hversion : e.normalized.version = Version.dropV e.version := rfl
    have hkind : e.normalized.kind = e.kind := rfl
    rw [normalized_cons, statusFrom_cons, statusFrom_cons, ih h.2, hversion, hkind,
      Version.isReachedBy_dropV h.1]

/-- A leading "v" is of no account for the status. -/
theorem statusAt_normalized {t : Timeline} (h : ∀ e ∈ t, (Version.semVer? e.version).isSome = true)
    (x : SemVer) : t.normalized.statusAt x = t.statusAt x := by
  have hbefore : t.normalized.statusBefore = t.statusBefore := by
    cases t <;> rfl
  rw [statusAt_eq_statusFrom, statusAt_eq_statusFrom, statusFrom_normalized h, hbefore]

end Timeline

end AffectedVersions
