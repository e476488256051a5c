import AffectedVersions.Session
import Mathlib

/-! Where the value of a setting comes from: from its keyword, and else from the environment. -/
namespace AffectedVersions

namespace Settings

variable {env other : Environment} {keywords : Members}

theorem given?_congr {name : String}
    (h : keyword? keywords name = none → ofEnvironment? env name = ofEnvironment? other name) :
    given? env keywords name = given? other keywords name := by
  unfold given?
  cases hkeyword : keyword? keywords name with
  | none => rw [h hkeyword]
  | some x => rfl

theorem setting_congr {α : Type} {given given' : String → Option Json} {name : String}
    (h : given name = given' name) (check : Json → Checked α) (default : α) :
    setting given name check default = setting given' name check default := by
  unfold setting
  rw [h]

theorem read_congr
    (h : ∀ name ∈ names, keyword? keywords name = none →
      ofEnvironment? env name = ofEnvironment? other name) :
    read env keywords = read other keywords := by
  have hgiven : ∀ name ∈ names, given? env keywords name = given? other keywords name :=
    fun name hname => given?_congr (h name hname)
  have hstatus := setting_congr (hgiven statusName (by simp [names])) checkStatus .unaffected
  have hurl := setting_congr (hgiven collectionUrlName (by simp [names]))
    (Schema.nullable Schema.text) none
  have hlint := setting_congr (hgiven lintName (by simp [names])) checkFlag true
  unfold read
  dsimp only
  rw [hstatus, hurl, hlint]

theorem fold_of_mem_names {name : String} (h : name ∈ names) : Text.fold name = name := by
  simp only [names, List.mem_cons, List.not_mem_nil, or_false] at h
  rcases h with rfl | rfl | rfl <;> decide +kernel

theorem notMem_of_keyword?_eq_none {name : String} (hname : name ∈ names)
    (h : keyword? keywords name = none) (x : Json) : (name, x) ∉ keywords := by
  unfold keyword? at h
  rw [Option.map_eq_none_iff, List.find?_eq_none] at h
  intro hx
  exact h (name, x) hx (by simp [fold_of_mem_names hname])

end Settings

namespace Client

/-- Whether a keyword is given for the setting. One with the value null is not. -/
def IsGiven (keywords : Members) (name : String) : Prop := ∃ x, (name, x) ∈ keywords ∧ x ≠ .null

theorem settings?_congr {env other : Environment} {keywords : Members}
    (h : ∀ name ∈ Settings.names, ¬ IsGiven keywords name →
      Settings.ofEnvironment? env name = Settings.ofEnvironment? other name) :
    settings? env keywords = settings? other keywords := by
  have hread : Settings.read env (given keywords) = Settings.read other (given keywords) := by
    apply Settings.read_congr
    intro name hname hnone
    apply h name hname
    intro hgiven
    obtain ⟨x, hx, hnull⟩ := hgiven
    refine Settings.notMem_of_keyword?_eq_none hname hnone x (List.mem_filter.mpr ⟨hx, ?_⟩)
    cases x with
    | null => exact absurd rfl hnull
    | _ => rfl
  unfold settings?
  rw [hread]

end Client

end AffectedVersions
