import AffectedVersions.Json.Printer
import AffectedVersions.Proofs.Document.Shape
import Mathlib

/-! Reading an advisory and writing it again settles it: from then on nothing changes. -/
namespace AffectedVersions

/-- All spans have a status and a scheme, and there is one package at most, none without a name. -/
structure Entry.IsLoaded (e : Entry) : Prop where
  statuses : ∀ s ∈ e.spans, s.status.isSome = true
  schemes : ∀ s ∈ e.spans, s.scheme ≠ ""
  packages : e.packages = [] ∨ ∃ p : Text, p ≠ "" ∧ e.packages = [p]
  nameless : e.module = "" → e.packages = []

namespace AffectedRecord

theorem firstText_ne_empty {texts : List (Option Text)} {text : Text} (h : some text ∈ texts)
    (htext : text ≠ "") : firstText texts ≠ "" := by
  have hmem : text ∈ texts.filterMap id := List.mem_filterMap.mpr ⟨some text, h, rfl⟩
  unfold firstText
  cases hfind : (texts.filterMap id).find? (· ≠ ("" : Text)) with
  | none =>
    have hnone := List.find?_eq_none.mp hfind text hmem
    exact absurd htext (by simpa using hnone)
  | some found =>
    have hfound := List.find?_some hfind
    simpa using hfound

theorem isLoaded_toEntry (r : AffectedRecord) : r.toEntry.IsLoaded where
  statuses := by
    intro s hs
    obtain ⟨v, _, rfl⟩ := List.mem_map.mp hs
    rfl
  schemes := by
    intro s hs
    obtain ⟨v, _, rfl⟩ := List.mem_map.mp hs
    unfold VersionRecord.toSpan
    cases hscheme : v.versionType.filter (· ≠ ("" : Text)) with
    | none => simp
    | some scheme =>
      have hne := (Option.filter_eq_some_iff.mp hscheme).2
      simpa [hscheme] using hne
  packages := by
    unfold toEntry
    cases hpackage : r.packageName.filter (· ≠ ("" : Text)) with
    | none => exact Or.inl (by simp)
    | some p =>
      have hne := (Option.filter_eq_some_iff.mp hpackage).2
      exact Or.inr ⟨p, by simpa using hne, by simp⟩
  nameless := by
    intro hmodule
    unfold toEntry
    cases hpackage : r.packageName.filter (· ≠ ("" : Text)) with
    | none => simp
    | some p =>
      obtain ⟨hname, hne⟩ := Option.filter_eq_some_iff.mp hpackage
      have hsome : some p ∈ [r.vendor, r.product, r.packageName] := by simp [hname]
      exact absurd hmodule (firstText_ne_empty hsome (by simpa using hne))

end AffectedRecord

namespace Entry

variable {e : Entry}

/-- The name that a loaded entry is written under: its package, or its module where it has none. -/
def packageName (e : Entry) : Text := e.packages.head?.getD e.module

/-- The entry with the package under which it is written. One that nothing names has none. -/
def settled (e : Entry) : Entry :=
  if e.module = "" then e else { e with packages := [e.packageName] }

theorem IsLoaded.packageNames (h : e.IsLoaded) : e.packageNames = [e.packageName] := by
  unfold Entry.packageNames Entry.packageName
  rcases h.packages with hnone | ⟨p, _, hone⟩
  · rw [hnone]
    rfl
  · rw [hone]
    rfl

theorem IsLoaded.toRecords (h : e.IsLoaded) (url : Option Text) :
    e.toRecords url = [.ofEntry url e e.packageName] :=
  congrArg (List.map (AffectedRecord.ofEntry url e)) h.packageNames

theorem IsLoaded.isNamed (h : e.IsLoaded) (hmodule : e.module ≠ "") : e.IsNamed where
  module := hmodule
  schemes := h.schemes
  packages := by
    intro p hp
    rcases h.packages with hnone | ⟨q, hq, hone⟩
    · rw [hnone] at hp
      exact absurd hp List.not_mem_nil
    · rw [hone, List.mem_singleton] at hp
      exact hp ▸ hq

theorem IsLoaded.packageName_ne (h : e.IsLoaded) (hmodule : e.module ≠ "") : e.packageName ≠ "" := by
  have hmem : e.packageName ∈ e.packageNames := by
    rw [h.packageNames]
    exact List.mem_singleton_self _
  exact (h.isNamed hmodule).packageNames _ hmem

theorem IsLoaded.toEntry_ofEntry (h : e.IsLoaded) (url : Option Text) :
    AffectedRecord.toEntry (.ofEntry url e e.packageName) = e.settled := by
  have hstated : e.spans.map Span.stated = e.spans := Span.map_stated_of_isSome h.statuses
  unfold settled
  split_ifs with hmodule
  · have hpackage : e.packageName = "" := by
      unfold Entry.packageName
      rw [h.nameless hmodule, hmodule]
      rfl
    have hname : (AffectedRecord.toEntry (.ofEntry url e e.packageName)).module = e.module := by
      rw [AffectedRecord.module_toEntry_ofEntry, if_pos hmodule, hpackage, hmodule]
    have hspans := AffectedRecord.spans_toEntry_ofEntry h.schemes url e.packageName
    have hdefault := AffectedRecord.default_toEntry_ofEntry url e e.packageName
    have hpackages : (AffectedRecord.toEntry (.ofEntry url e e.packageName)).packages =
        e.packages := by
      rw [AffectedRecord.packages_toEntry_ofEntry, if_pos hpackage, h.nameless hmodule]
    rw [hstated] at hspans
    change Entry.mk _ _ _ _ = Entry.mk _ _ _ _
    rw [Entry.mk.injEq]
    exact ⟨hname, hspans, hdefault, hpackages⟩
  · rw [AffectedRecord.toEntry_ofEntry (h.isNamed hmodule) url (h.packageName_ne hmodule), hstated]

theorem IsLoaded.isLoaded_settled (h : e.IsLoaded) : e.settled.IsLoaded :=
  h.toEntry_ofEntry none ▸ AffectedRecord.isLoaded_toEntry _

theorem packageName_settled (e : Entry) : e.settled.packageName = e.packageName := by
  unfold settled
  split_ifs <;> rfl

theorem ofEntry_settled (url : Option Text) (e : Entry) (p : Text) :
    AffectedRecord.ofEntry url e.settled p = .ofEntry url e p := by
  unfold settled
  split_ifs <;> rfl

theorem reading_settled (e : Entry) (assumed : Status) :
    e.settled.reading assumed = e.reading assumed := by
  unfold settled
  split_ifs <;> rfl

theorem module_settled (e : Entry) : e.settled.module = e.module := by
  unfold settled
  split_ifs <;> rfl

end Entry

namespace Advisory

theorem ofJson_affected (file : String) (url : Option Text) (entries : List Entry) :
    ofJson file (.arr (affected url entries)) = .ok (entries.flatMap (·.toRecords url)) := by
  have hlist : checkList (.arr (affected url entries)) =
      .pass (entries.flatMap (·.toRecords url)) := Schema.list_map fun r _ => r.check_toJson
  rw [ofJson, hlist]
  rfl

variable {entries : List Entry}

theorem flatMap_toRecords (h : ∀ e ∈ entries, e.IsLoaded) (url : Option Text) :
    entries.flatMap (·.toRecords url) = entries.map fun e => .ofEntry url e e.packageName := by
  rw [List.flatMap_congr fun e he => (h e he).toRecords url]
  exact List.flatMap_pure_eq_map _ _

theorem affected_of_isLoaded (h : ∀ e ∈ entries, e.IsLoaded) (url : Option Text) :
    affected url entries =
      entries.map fun e => (AffectedRecord.ofEntry url e e.packageName).toJson := by
  unfold affected
  rw [flatMap_toRecords h, List.map_map]
  rfl

theorem affected_map_settled (h : ∀ e ∈ entries, e.IsLoaded) (url : Option Text) :
    affected url (entries.map Entry.settled) = affected url entries := by
  have hsettled : ∀ e ∈ entries.map Entry.settled, e.IsLoaded := by
    rw [List.forall_mem_map]
    exact fun e he => (h e he).isLoaded_settled
  rw [affected_of_isLoaded hsettled, affected_of_isLoaded h, List.map_map]
  apply List.map_congr_left
  intro e _
  rw [Function.comp_apply, Entry.packageName_settled, Entry.ofEntry_settled]

end Advisory

/-- Writing what was read from an advisory gives one object for each of its affected objects. From these
the same is read, written and reconstructed. -/
theorem File.affected_entries_of_affected {f g : File} {x : Json} {entries : List Entry}
    {url : Option Text} (hx : f.json = .ok x) (hf : f.entries = .ok entries)
    (hg : g.json = .ok (.arr (Advisory.affected url entries))) :
    List.Forall₂ (fun object written => ∃ r, AffectedRecord.check object = .pass r ∧
        Advisory.affected url [r.toEntry] = [written])
      (Advisory.objects x) (Advisory.affected url entries) ∧
      ∃ again, g.entries = .ok again ∧ Advisory.affected url again = Advisory.affected url entries ∧
        ∀ assumed, ∃ first second, f.reconstruct assumed = .ok first ∧
          g.reconstruct assumed = .ok second ∧
          List.Forall₂ (fun h k => k.module = h.module ∧ k.events = h.events ∧ k.complete = h.complete)
            first second := by
  obtain ⟨records, hrecords, rfl⟩ := File.exists_records_of_entries hx hf
  have hloaded : ∀ e ∈ records.map AffectedRecord.toEntry, e.IsLoaded := by
    rw [List.forall_mem_map]
    exact fun r _ => r.isLoaded_toEntry
  have hagain : g.entries = .ok ((records.map AffectedRecord.toEntry).map Entry.settled) := by
    rw [File.entries_of_records hg (Advisory.ofJson_affected _ _ _),
      Advisory.flatMap_toRecords hloaded, List.map_map]
    congr 1
    exact List.map_congr_left fun e he => (hloaded e he).toEntry_ofEntry url
  refine ⟨?_, _, hagain, Advisory.affected_map_settled hloaded url, ?_⟩
  · rw [Advisory.affected_of_isLoaded hloaded, List.map_map, List.forall₂_map_right_iff]
    refine (Advisory.forall₂_of_ofJson hrecords).imp fun object r hr => ⟨r, hr, ?_⟩
    exact Advisory.affected_of_isLoaded
      (List.forall_mem_singleton.mpr r.isLoaded_toEntry) url
  · intro assumed
    refine ⟨_, _, File.reconstruct_of_entries hf assumed, File.reconstruct_of_entries hagain assumed, ?_⟩
    rw [List.forall₂_map_left_iff, List.forall₂_map_right_iff, List.forall₂_map_right_iff,
      List.forall₂_same]
    intro e _
    unfold Entry.toHistory
    simp only [Entry.reading_settled, Entry.module_settled, and_self]

/-- One object without names, and one without a default and with a status that nobody knows. -/
def unsettledList : Json :=
  .arr [.obj [("defaultStatus", .str " Affected")],
    .obj [("product", .str "p"), ("versions", .arr [.obj [("status", .str "odd")]])]]

def unsettledFile : File where
  name := "advisory.json"
  bytes := Utf8.encode (Json.renderAt 0 unsettledList)

/-- The entries of the list. -/
def unsettledEntries : List Entry :=
  [{ module := "", default := some .affected },
   { module := "p", spans := [{ status := some .unknown }] }]

def settledFile : File where
  name := "advisory.json"
  bytes := Utf8.encode (Json.renderAt 0 (.arr (Advisory.affected none unsettledEntries)))

set_option maxRecDepth 10000 in
theorem File.affected_entries_of_affected_unsettledList :
    unsettledFile.json = .ok unsettledList ∧ unsettledFile.entries = .ok unsettledEntries ∧
      settledFile.json = .ok (.arr (Advisory.affected none unsettledEntries)) ∧
      ∃ again, settledFile.entries = .ok again ∧
        Advisory.affected none again = Advisory.affected none unsettledEntries := by
  have hx : unsettledFile.json = .ok unsettledList := by cbv
  have hf : unsettledFile.entries = .ok unsettledEntries := by decide +kernel
  have hg : settledFile.json = .ok (.arr (Advisory.affected none unsettledEntries)) := by cbv
  obtain ⟨_, again, hagain, hsame, _⟩ := File.affected_entries_of_affected hx hf hg
  exact ⟨hx, hf, hg, again, hagain, hsame⟩

end AffectedVersions
