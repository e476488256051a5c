import AffectedVersions.Json.Printer
import AffectedVersions.Operation
import AffectedVersions.Proofs.Document.Advisory
import AffectedVersions.Proofs.Timeline.RoundTrip
import Mathlib

/-! Histories that are rebuilt from advisories. -/
namespace AffectedVersions

namespace History

theorem map_stated_spans (h : History) : h.toEntry.spans.map Span.stated = h.toEntry.spans := by
  apply Span.map_stated_of_isSome
  intro s hs
  obtain ⟨introduced, fixed, rfl⟩ := Timeline.exists_span_of_mem hs
  rfl

theorem isNamed_toEntry {h : History} (hmodule : h.module ≠ "") (hpackages : ∀ p ∈ h.packages, p ≠ "") :
    h.toEntry.IsNamed where
  module := hmodule
  packages := hpackages
  schemes := by
    intro s hs
    obtain ⟨introduced, fixed, rfl⟩ := Timeline.exists_span_of_mem hs
    change ("semver" : Text) ≠ ""
    decide

/-- A converted history is reconstructed with the events that its round trip ends with. -/
theorem toHistory_toEntry (h : History) (assumed : Status) (lint : Bool) (packages : List Text) :
    ({ h.toEntry with packages } : Entry).toHistory assumed =
      { module := h.module, events := (h.check lint).reconstructed, packages, complete := true } := by
  have hreading : ({ h.toEntry with packages } : Entry).reading assumed =
      h.events.toCoverage.read := rfl
  unfold Entry.toHistory
  rw [hreading, Timeline.complete_read_toCoverage]
  rfl

end History

/-- An advisory of converted histories gives back, for each package, what the round trip of its
module rebuilds, whatever default is assumed. -/
theorem File.reconstruct_of_json {f : File} {url : Option Text} {modules : List History}
    (hnames : ∀ h ∈ modules, h.module ≠ "" ∧ ∀ p ∈ h.packages, p ≠ "")
    (hf : f.json = .ok (Advisory.toJson url (modules.map History.toEntry)))
    (assumed : Status) (lint : Bool) :
    f.reconstruct assumed = .ok (modules.flatMap fun h =>
      (if h.packages = [] then [h.module] else h.packages).map fun p =>
        { module := h.module, events := (h.check lint).reconstructed, packages := [p],
          complete := true }) := by
  have hnamed : ∀ e ∈ modules.map History.toEntry, e.IsNamed := by
    rw [List.forall_mem_map]
    exact fun h hh => History.isNamed_toEntry (hnames h hh).1 (hnames h hh).2
  have hhistories : ((modules.map History.toEntry).flatMap Entry.stated).map (·.toHistory assumed) =
      modules.flatMap fun h => (if h.packages = [] then [h.module] else h.packages).map fun p =>
        { module := h.module, events := (h.check lint).reconstructed, packages := [p],
          complete := true } := by
    rw [List.map_flatMap, List.flatMap_map]
    apply List.flatMap_congr
    intro h _
    unfold Entry.stated
    rw [List.map_map, h.map_stated_spans]
    exact List.map_congr_left fun p _ => h.toHistory_toEntry assumed lint [p]
  unfold reconstruct
  rw [File.entries_of_json hf hnamed, ← hhistories]
  rfl

/-- A module with two packages, and one without any whose kinds do not alternate. -/
def twoModules : List History :=
  [{ module := "core", events := [⟨.introduced, "v1.0.0"⟩, ⟨.fixed, "< 2"⟩],
     packages := ["core-api", "core-cli"] },
   { module := "util", events := [⟨.fixed, "1"⟩, ⟨.fixed, "2"⟩, ⟨.fixed, "3"⟩] }]

def twoModulesFile : File where
  name := "advisory.json"
  bytes := Utf8.encode (Json.renderAt 0 (Advisory.toJson none (twoModules.map History.toEntry)))

set_option maxRecDepth 10000 in
theorem File.reconstruct_of_json_twoModules :
    (∀ h ∈ twoModules, h.module ≠ "" ∧ ∀ p ∈ h.packages, p ≠ "") ∧
      twoModulesFile.json = .ok (Advisory.toJson none (twoModules.map History.toEntry)) ∧
      twoModulesFile.reconstruct .affected = .ok
        [{ module := "core", events := [⟨.introduced, "1.0.0"⟩, ⟨.fixed, "< 2"⟩],
           packages := ["core-api"] },
         { module := "core", events := [⟨.introduced, "1.0.0"⟩, ⟨.fixed, "< 2"⟩],
           packages := ["core-cli"] },
         { module := "util", events := [⟨.fixed, "1"⟩, ⟨.introduced, "2"⟩, ⟨.fixed, "3"⟩],
           packages := ["util"] }] := by
  have hjson : twoModulesFile.json = .ok (Advisory.toJson none (twoModules.map History.toEntry)) := by
    cbv
  have hnames : ∀ h ∈ twoModules, h.module ≠ "" ∧ ∀ p ∈ h.packages, p ≠ "" := by decide
  refine ⟨hnames, hjson, (File.reconstruct_of_json hnames hjson .affected true).trans ?_⟩
  decide +kernel

end AffectedVersions
