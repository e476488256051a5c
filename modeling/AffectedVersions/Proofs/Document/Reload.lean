import AffectedVersions.Json.Printer
import AffectedVersions.Proofs.Document.Report
import Mathlib

/-! Entries and histories that come back from the documents in which they were written. -/
namespace AffectedVersions

open Schema

/-- Entries whose spans all have a status come back from their advisory, once for each package. -/
theorem File.entries_of_json_of_isSome {f : File} {url : Option Text} {entries : List Entry}
    (hnamed : ∀ e ∈ entries, e.IsNamed)
    (hstatus : ∀ e ∈ entries, ∀ s ∈ e.spans, s.status.isSome = true)
    (hf : f.json = .ok (Advisory.toJson url entries)) :
    f.entries = .ok (entries.flatMap fun e =>
      (if e.packages = [] then [e.module] else e.packages).map fun p => { e with packages := [p] }) := by
  have hstated : ∀ e ∈ entries, e.stated =
      (if e.packages = [] then [e.module] else e.packages).map fun p => { e with packages := [p] } := by
    intro e he
    have hspans : e.spans.map Span.stated = e.spans := Span.map_stated_of_isSome (hstatus e he)
    unfold Entry.stated
    rw [hspans]
    rfl
  rw [File.entries_of_json hf hnamed, List.flatMap_congr hstated]

/-- A module with two packages and spans of any texts, and one of which nothing is told. -/
def anyTexts : List Entry :=
  [{ module := "m", spans := [⟨"", "", some .unknown, "x"⟩, ⟨"< 1\n", "v", some .unaffected, "semver"⟩],
     default := some .unknown, packages := ["p", "\""] },
   { module := "n" }]

def anyTextsFile : File where
  name := "advisory.json"
  bytes := Utf8.encode (Json.renderAt 0 (Advisory.toJson (some "") anyTexts))

set_option maxRecDepth 10000 in
theorem File.entries_of_json_of_isSome_anyTexts :
    (∀ e ∈ anyTexts, e.IsNamed) ∧ (∀ e ∈ anyTexts, ∀ s ∈ e.spans, s.status.isSome = true) ∧
      anyTextsFile.json = .ok (Advisory.toJson (some "") anyTexts) ∧
      ∃ first second third, anyTextsFile.entries = .ok [first, second, third] ∧
        [first, second, third].map Entry.packages = ([["p"], ["\""], ["n"]] : List (List Text)) ∧
        second.spans = first.spans ∧
        first.spans.map Span.introduced = (["", "< 1\n"] : List Text) := by
  have hnamed : ∀ e ∈ anyTexts, e.IsNamed := by
    refine List.forall_mem_cons.mpr ⟨⟨?_, ?_, ?_⟩, List.forall_mem_singleton.mpr ⟨?_, ?_, ?_⟩⟩
    all_goals decide
  have hstatus : ∀ e ∈ anyTexts, ∀ s ∈ e.spans, s.status.isSome = true := by decide
  have hjson : anyTextsFile.json = .ok (Advisory.toJson (some "") anyTexts) := by cbv
  refine ⟨hnamed, hstatus, hjson, _, _, _, File.entries_of_json_of_isSome hnamed hstatus hjson, ?_⟩
  exact ⟨rfl, rfl, rfl⟩

namespace Report

theorem isEvent_toJson (e : Event) : IsEvent e.toJson e := by
  obtain ⟨kind, version⟩ := e
  cases kind with
  | introduced => exact ⟨rfl, nofun⟩
  | fixed => exact ⟨rfl, nofun⟩

/-- Whether a history is complete is not written: what is read is taken for complete. -/
theorem isModule_toJson (h : History) : IsModule h.toJson { h with complete := true } where
  name := rfl
  events := isListOf_map_iff.mpr (List.forall₂_same.mpr fun e _ => isEvent_toJson e)
  packages := isListOf_map_iff.mpr (List.forall₂_same.mpr fun _ _ => rfl)
  complete := rfl

theorem isReport_toJson (modules : List History) :
    IsReport (toJson modules) { modules := modules.map fun h => { h with complete := true } } where
  object := ⟨_, rfl⟩
  id := nofun
  modules := by
    refine isListOf_map_iff.mpr (List.forall₂_map_right_iff.mpr (List.forall₂_same.mpr fun h _ => ?_))
    exact isModule_toJson h

theorem check_toJson (modules : List History) :
    check (toJson modules) = .pass { modules := modules.map fun h => { h with complete := true } } :=
  (check_eq_pass_iff _ _).mpr (isReport_toJson modules)

end Report

/-- Histories come back from their report in order, and as complete ones. -/
theorem File.report_of_json {f : File} {modules : List History}
    (hf : f.json = .ok (Report.toJson modules)) :
    f.report = .ok { modules := modules.map fun h => { h with complete := true } } := by
  unfold report
  rw [hf, Except.bind, Report.ofJson, Report.check_toJson]
  rfl

/-- Two histories in which texts, events and packages are empty; the first one is not complete. -/
def emptyTexts : List History :=
  [{ module := "", events := [⟨.fixed, ""⟩, ⟨.fixed, "v"⟩, ⟨.introduced, ""⟩], packages := ["", "p"],
     complete := false },
   { module := "n" }]

def emptyTextsFile : File where
  name := "report.json"
  bytes := Utf8.encode (Json.renderAt 0 (Report.toJson emptyTexts))

set_option maxRecDepth 10000 in
theorem File.report_of_json_emptyTexts :
    emptyTextsFile.json = .ok (Report.toJson emptyTexts) ∧
      emptyTextsFile.report = .ok { modules :=
        [{ module := "", events := [⟨.fixed, ""⟩, ⟨.fixed, "v"⟩, ⟨.introduced, ""⟩], packages := ["", "p"] },
         { module := "n" }] } := by
  have hjson : emptyTextsFile.json = .ok (Report.toJson emptyTexts) := by cbv
  exact ⟨hjson, File.report_of_json hjson⟩

end AffectedVersions
