import AffectedVersions.Event.Token
import AffectedVersions.Proofs.Text.Trim
import Mathlib

/-! Events that are printed and typed again. -/
namespace AffectedVersions

namespace Text

/-- The pieces of a text between the spaces in it. -/
def words (s : Text) : List Text := (s.toList.splitOn (' ' : Letter)).map Text.ofList

/-- The text is not empty and holds no blank. -/
structure IsWord (s : Text) : Prop where
  ne_empty : s ≠ ""
  no_blank : ∀ c ∈ s.toList, isBlank c = false

instance (s : Text) : Decidable (IsWord s) :=
  decidable_of_iff (s ≠ "" ∧ s.toList.any isBlank = false)
    ⟨fun h => ⟨h.1, by simpa using h.2⟩, fun h => ⟨h.ne_empty, by simpa using h.no_blank⟩⟩

theorem IsWord.isTrimmed {s : Text} (h : IsWord s) : IsTrimmed s where
  first := fun c hc => h.no_blank c (List.mem_of_mem_head? hc)
  last := fun c hc => h.no_blank c (List.mem_of_mem_getLast? hc)

theorem words_intercalate {parts : List Text} (hne : parts ≠ [])
    (hspace : ∀ part ∈ parts, (' ' : Letter) ∉ part.toList) : words (Text.intercalate " " parts) = parts := by
  have hparts : ∀ cs ∈ parts.map Text.toList, (' ' : Letter) ∉ cs := List.forall_mem_map.mpr hspace
  have hlists : parts.map Text.toList ≠ [] := mt List.map_eq_nil_iff.mp hne
  have hsplit : (Text.intercalate " " parts).toList.splitOn (' ' : Letter) = parts.map Text.toList := by
    rw [Text.toList_intercalate]
    exact List.splitOn_intercalate (' ' : Letter) hparts hlists
  unfold words
  rw [hsplit, List.map_map]
  exact (List.map_congr_left fun _ _ => Text.ofList_toList).trans (List.map_id parts)

end Text

@[simp] theorem EventKind.read?_name (k : EventKind) : read? k.name = some k := by
  cases k <;> decide +kernel

theorem EventKind.notMem_name (k : EventKind) :
    ('=' : Letter) ∉ (k.name : Text).toList ∧ (' ' : Letter) ∉ (k.name : Text).toList := by
  cases k <;> decide

namespace Event

variable {e : Event}

theorem ofToken_eq_ok_iff {token : Text} :
    ofToken token = .ok e ↔ ∃ kind version, Text.cut ('=' : Letter) token.toList = (kind, some version) ∧
      EventKind.read? (.ofList kind) = some e.kind ∧ Text.trim (.ofList version) = e.version ∧
        e.version ≠ "" := by
  obtain ⟨kind, version⟩ := e
  obtain ⟨⟨name, text⟩, hcut⟩ : ∃ pieces, Text.cut ('=' : Letter) token.toList = pieces := ⟨_, rfl⟩
  cases text with
  | none => simp [ofToken, hcut]
  | some text =>
    cases hkind : EventKind.read? (.ofList name) with
    | none => simp [ofToken, hcut, hkind]
    | some read =>
      by_cases hempty : Text.trim (.ofList text) = ""
      · simpa [ofToken, hcut, hkind, hempty] using fun _ => Eq.symm
      · have hversion : Text.trim (.ofList text) = version → version ≠ "" := fun h => h ▸ hempty
        simpa [ofToken, hcut, hkind, hempty] using fun _ => hversion

theorem toList_render (e : Event) :
    e.render.toList = (e.kind.name : Text).toList ++ ('=' : Letter) :: e.version.toList := by
  unfold render
  rw [Text.toList_append, Text.toList_append, List.append_assoc]
  rfl

theorem ofToken_render (hne : e.version ≠ "") (htrim : Text.IsTrimmed e.version) :
    ofToken e.render = .ok e := by
  have hcut : Text.cut ('=' : Letter) e.render.toList = ((e.kind.name : Text).toList, some e.version.toList) := by
    rw [toList_render]
    exact Text.cut_append e.kind.notMem_name.1 _
  rw [ofToken_eq_ok_iff]
  refine ⟨_, _, hcut, ?_, ?_, hne⟩
  · rw [Text.ofList_toList, EventKind.read?_name]
  · rw [Text.ofList_toList, Text.trim_eq_self_iff]
    exact htrim

theorem version_of_ofToken {token : Text} (h : ofToken token = .ok e) :
    e.version ≠ "" ∧ Text.IsTrimmed e.version := by
  obtain ⟨kind, version, hcut, hkind, htrim, hne⟩ := ofToken_eq_ok_iff.mp h
  refine ⟨hne, ?_⟩
  rw [← htrim]
  exact Text.isTrimmed_trim _

theorem space_notMem_render (h : Text.IsWord e.version) : (' ' : Letter) ∉ e.render.toList := by
  have hversion : (' ' : Letter) ∉ e.version.toList := by
    intro hmem
    exact absurd (h.no_blank _ hmem) (by decide)
  rw [toList_render, List.mem_append, List.mem_cons, not_or, not_or]
  exact ⟨e.kind.notMem_name.2, by decide, hversion⟩

end Event

theorem Timeline.words_render {t : Timeline} (hne : t ≠ [])
    (hword : ∀ e ∈ t, Text.IsWord e.version) : Text.words t.render = t.map Event.render := by
  unfold render
  rw [if_neg hne]
  apply Text.words_intercalate (mt List.map_eq_nil_iff.mp hne)
  rw [List.forall_mem_map]
  exact fun e he => Event.space_notMem_render (hword e he)

/-- The pieces of a printed timeline are read as its events. An event that was read from a token is
printed as a token for the same event. -/
theorem Timeline.ofToken_words_render :
    (∀ t : Timeline, t ≠ [] → (∀ e ∈ t, Text.IsWord e.version) →
        (Text.words t.render).map Event.ofToken = t.map .ok) ∧
      ∀ (token : Text) (e : Event), Event.ofToken token = .ok e →
        Event.ofToken e.render = .ok e := by
  constructor
  · intro t hne hword
    rw [words_render hne hword, List.map_map]
    exact List.map_congr_left fun e he =>
      Event.ofToken_render (hword e he).ne_empty (hword e he).isTrimmed
  · intro token e h
    obtain ⟨hne, htrim⟩ := Event.version_of_ofToken h
    exact Event.ofToken_render hne htrim

/-- Equals signs in the versions, and one event after another of the same kind. -/
def Timeline.equated : Timeline := [⟨.introduced, "=1.0=rc"⟩, ⟨.fixed, "<2"⟩, ⟨.fixed, "="⟩]

theorem Timeline.ofToken_words_render_equated :
    Timeline.equated ≠ [] ∧ (∀ e ∈ Timeline.equated, Text.IsWord e.version) ∧
      Text.words "introduced==1.0=rc fixed=<2 fixed==" =
        (["introduced==1.0=rc", "fixed=<2", "fixed=="] : List Text) ∧
      (Text.words "introduced==1.0=rc fixed=<2 fixed==").map Event.ofToken =
        Timeline.equated.map .ok ∧
      Event.ofToken "\t I =\u00a0v1 = 2\n" = .ok ⟨.introduced, "v1 = 2"⟩ ∧
      Event.ofToken "introduced=v1 = 2" = .ok ⟨.introduced, "v1 = 2"⟩ := by
  have hne : Timeline.equated ≠ [] := List.cons_ne_nil _ _
  have hword : ∀ e ∈ Timeline.equated, Text.IsWord e.version := by decide +kernel
  have hrender : Timeline.equated.render = "introduced==1.0=rc fixed=<2 fixed==" := by
    decide +kernel
  have htoken : Event.ofToken "\t I =\u00a0v1 = 2\n" = .ok ⟨.introduced, "v1 = 2"⟩ := by
    decide +kernel
  obtain ⟨hevents, hagain⟩ := Timeline.ofToken_words_render
  have hread := hevents _ hne hword
  rw [hrender] at hread
  exact ⟨hne, hword, by decide +kernel, hread, htoken, hagain _ _ htoken⟩

end AffectedVersions
