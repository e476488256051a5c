import AffectedVersions.Json.Printer
import AffectedVersions.Proofs.Document.Shape
import Mathlib

/-! What a report has to look like, and what it tells. -/
namespace AffectedVersions

open Schema

namespace Report

/-- The version stands under the name of its kind, and nothing or null under the other name. -/
structure IsEvent (x : Json) (e : Event) : Prop where
  version : x.at? [e.kind.name] = some (.str e.version)
  other : ∀ y ∈ x.at? [e.kind.opposite.name], y = .null

def IsPackage (x : Json) (package : Text) : Prop := x.at? ["package"] = some (.str package)

/-- A module tells the events and the packages of its history in their order. -/
structure IsModule (x : Json) (h : History) : Prop where
  name : x.at? ["module"] = some (.str h.module)
  events : IsListOf IsEvent (x.at? ["versions"]) h.events
  packages : IsListOf IsPackage (x.at? ["packages"]) h.packages
  complete : h.complete = true

structure IsReport (x : Json) (r : Report) : Prop where
  object : ∃ ms, x = .obj ms
  id : IsOptionalText (x.at? ["id"]) r.id
  modules : IsListOf IsModule (x.at? ["modules"]) r.modules

/-- A text under exactly one of the two kinds, and nothing or null under the other one. -/
def HasEventShape (x : Json) : Prop :=
  ∃ kind : EventKind, (∃ version, x.at? [kind.name] = some (.str version)) ∧
    ∀ y ∈ x.at? [kind.opposite.name], y = .null

structure HasModuleShape (x : Json) : Prop where
  name : ∃ name, x.at? ["module"] = some (.str name)
  versions : IsList HasEventShape (x.at? ["versions"])
  packages : IsList (fun y => ∃ package, y.at? ["package"] = some (.str package)) (x.at? ["packages"])

structure HasShape (x : Json) : Prop where
  object : ∃ ms, x = .obj ms
  id : ∀ y ∈ x.at? ["id"], y = .null ∨ ∃ id, y = .str id
  modules : IsList HasModuleShape (x.at? ["modules"])

variable {x : Json}

/-- The texts under the two kinds. -/
def textsOf (e : Event) : Option Text × Option Text :=
  match e.kind with
  | .introduced => (some e.version, none)
  | .fixed => (none, some e.version)

theorem eventOf_eq_pass_iff {texts : Option Text × Option Text} {e : Event} :
    eventOf texts = .pass e ↔ texts = textsOf e := by
  obtain ⟨kind, version⟩ := e
  obtain ⟨introduced, fixed⟩ := texts
  cases introduced <;> cases fixed <;> cases kind <;> simp [eventOf, textsOf, Checked.complain]

theorem checkEvent_obj_eq_pass_iff {ms : Members} {e : Event} :
    checkEvent (.obj ms) = .pass e ↔ IsOptionalText (ms.lookup "introduced") (textsOf e).1 ∧
      IsOptionalText (ms.lookup "fixed") (textsOf e).2 := by
  unfold checkEvent
  rw [object_obj, Checked.andThen_eq_pass_iff]
  simp only [Checked.seq_eq_pass_iff, Checked.map_eq_pass_iff, optional_text_eq_pass_iff,
    eventOf_eq_pass_iff]
  constructor
  · rintro ⟨_, ⟨_, ⟨introduced, hintroduced, rfl⟩, fixed, hfixed, rfl⟩, htexts⟩
    rw [← htexts]
    exact ⟨hintroduced, hfixed⟩
  · rintro ⟨hintroduced, hfixed⟩
    exact ⟨_, ⟨_, ⟨_, hintroduced, rfl⟩, _, hfixed, rfl⟩, rfl⟩

theorem checkEvent_eq_pass_iff (x : Json) (e : Event) : checkEvent x = .pass e ↔ IsEvent x e := by
  obtain ⟨kind, version⟩ := e
  constructor
  · intro h
    obtain ⟨ms, rfl, -⟩ := object_eq_pass_iff.mp h
    obtain ⟨hintroduced, hfixed⟩ := checkEvent_obj_eq_pass_iff.mp h
    rw [← Json.at?_singleton] at hintroduced hfixed
    cases kind with
    | introduced => exact ⟨hintroduced, hfixed⟩
    | fixed => exact ⟨hfixed, hintroduced⟩
  · rintro ⟨hversion, hother⟩
    obtain ⟨ms, rfl, -⟩ := Json.at?_singleton_eq_some_iff.mp hversion
    rw [Json.at?_singleton] at hversion hother
    rw [checkEvent_obj_eq_pass_iff]
    cases kind with
    | introduced => exact ⟨hversion, hother⟩
    | fixed => exact ⟨hother, hversion⟩

theorem checkPackage_eq_pass_iff (x : Json) (package : Text) :
    checkPackage x = .pass package ↔ IsPackage x package := by
  unfold checkPackage IsPackage
  rw [object_eq_pass_iff, Json.at?_singleton_eq_some_iff]
  simp only [required_text_eq_pass_iff]

theorem checkModule_eq_pass_iff (x : Json) (h : History) : checkModule x = .pass h ↔ IsModule x h := by
  unfold checkModule
  rw [object_eq_pass_iff]
  simp only [Checked.seq_eq_pass_iff, Checked.map_eq_pass_iff, required_text_eq_pass_iff,
    orElse_list_eq_pass_iff checkEvent_eq_pass_iff, orElse_list_eq_pass_iff checkPackage_eq_pass_iff]
  constructor
  · rintro ⟨ms, rfl, _, ⟨_, ⟨name, hname, rfl⟩, events, hevents, rfl⟩, packages, hpackages, rfl⟩
    rw [← Json.at?_singleton] at hname hevents hpackages
    exact ⟨hname, hevents, hpackages, rfl⟩
  · rintro ⟨hname, hevents, hpackages, hcomplete⟩
    obtain ⟨ms, rfl, -⟩ := Json.at?_singleton_eq_some_iff.mp hname
    rw [Json.at?_singleton] at hname hevents hpackages
    refine ⟨ms, rfl, _, ⟨_, ⟨_, hname, rfl⟩, _, hevents, rfl⟩, _, hpackages, ?_⟩
    rw [← hcomplete]

theorem check_eq_pass_iff (x : Json) (r : Report) : check x = .pass r ↔ IsReport x r := by
  unfold check
  rw [object_eq_pass_iff]
  simp only [Checked.seq_eq_pass_iff, Checked.map_eq_pass_iff, optional_text_eq_pass_iff,
    orElse_list_eq_pass_iff checkModule_eq_pass_iff]
  constructor
  · rintro ⟨ms, rfl, _, ⟨id, hid, rfl⟩, modules, hmodules, rfl⟩
    rw [← Json.at?_singleton] at hid hmodules
    exact ⟨⟨ms, rfl⟩, hid, hmodules⟩
  · rintro ⟨⟨ms, rfl⟩, hid, hmodules⟩
    rw [Json.at?_singleton] at hid hmodules
    exact ⟨ms, rfl, _, ⟨_, hid, rfl⟩, _, hmodules, rfl⟩

theorem hasEventShape_iff (x : Json) : HasEventShape x ↔ ∃ e, IsEvent x e := by
  constructor
  · rintro ⟨kind, ⟨version, hversion⟩, hother⟩
    exact ⟨⟨kind, version⟩, hversion, hother⟩
  · rintro ⟨e, hversion, hother⟩
    exact ⟨e.kind, ⟨e.version, hversion⟩, hother⟩

theorem hasModuleShape_iff (x : Json) : HasModuleShape x ↔ ∃ h, IsModule x h := by
  constructor
  · rintro ⟨⟨name, hname⟩, hversions, hpackages⟩
    obtain ⟨events, hevents⟩ := (exists_isListOf_iff hasEventShape_iff).mpr hversions
    obtain ⟨packages, hpackages⟩ := (exists_isListOf_iff fun _ => Iff.rfl).mpr hpackages
    exact ⟨{ module := name, events, packages }, hname, hevents, hpackages, rfl⟩
  · rintro ⟨h, hname, hevents, hpackages, -⟩
    exact ⟨⟨h.module, hname⟩, (exists_isListOf_iff hasEventShape_iff).mp ⟨h.events, hevents⟩,
      (exists_isListOf_iff fun _ => Iff.rfl).mp ⟨h.packages, hpackages⟩⟩

/-- A value tells a report when its shape is right at every level. -/
theorem hasShape_iff (x : Json) : HasShape x ↔ ∃ r, IsReport x r := by
  constructor
  · rintro ⟨hobject, hid, hmodules⟩
    obtain ⟨id, hid⟩ := exists_isOptionalText_iff.mpr hid
    obtain ⟨modules, hmodules⟩ := (exists_isListOf_iff hasModuleShape_iff).mpr hmodules
    exact ⟨{ id, modules }, hobject, hid, hmodules⟩
  · rintro ⟨r, hobject, hid, hmodules⟩
    exact ⟨hobject, exists_isOptionalText_iff.mp ⟨r.id, hid⟩,
      (exists_isListOf_iff hasModuleShape_iff).mp ⟨r.modules, hmodules⟩⟩

end Report

/-- A file holds a report exactly when its value has the shape of one, and the report that is loaded
is the one which the value tells, module by module, event by event and package by package. -/
theorem File.report_eq_ok_iff_isReport {f : File} {x : Json} (hx : f.json = .ok x) :
    ((∃ r, f.report = .ok r) ↔ Report.HasShape x) ∧
      ∀ r, f.report = .ok r ↔ Report.IsReport x r := by
  have hreport : ∀ r, f.report = .ok r ↔ Report.IsReport x r := by
    intro r
    unfold report
    rw [hx, Except.bind, Report.ofJson, Checked.orInvalid_eq_ok_iff, Report.check_eq_pass_iff]
  refine ⟨?_, hreport⟩
  simp only [hreport]
  exact (Report.hasShape_iff x).symm

/-- A report with members of other names at every level, and a null in the place of a text. -/
def annotated : Json :=
  .obj [("note", .int 1), ("id", .null), ("modules", .arr
    [.obj [("versions", .arr [.obj [("introduced", .str "1"), ("fixed", .null), ("by", .arr [])],
        .obj [("fixed", .str "")]]),
      ("module", .str "m"), ("packages", .arr [.obj [("package", .str "p"), ("module", .null)]])],
    .obj [("module", .str ""), ("introduced", .bool true)]])]

def annotatedFile : File where
  name := "report.json"
  bytes := Utf8.encode (Json.renderAt 0 annotated)

/-- A report in which one event has both kinds. -/
def ambiguous : Json :=
  .obj [("modules", .arr [.obj [("module", .str "m")], .obj [("module", .str "n"), ("versions", .arr
    [.obj [("fixed", .str "1")], .obj [("introduced", .str "2"), ("fixed", .str "3")]])]])]

def ambiguousFile : File where
  name := "report.json"
  bytes := Utf8.encode (Json.renderAt 0 ambiguous)

set_option maxRecDepth 10000 in
theorem File.report_eq_ok_iff_isReport_annotated :
    annotatedFile.json = .ok annotated ∧
      annotatedFile.report = .ok { modules :=
        [{ module := "m", events := [⟨.introduced, "1"⟩, ⟨.fixed, ""⟩], packages := ["p"] },
         { module := "" }] } ∧
      Report.HasShape annotated ∧
      Report.IsReport annotated { modules :=
        [{ module := "m", events := [⟨.introduced, "1"⟩, ⟨.fixed, ""⟩], packages := ["p"] },
         { module := "" }] } ∧
      ambiguousFile.json = .ok ambiguous ∧ ¬Report.HasShape ambiguous := by
  have hannotated : annotatedFile.json = .ok annotated := by cbv
  have hambiguous : ambiguousFile.json = .ok ambiguous := by cbv
  have hreport : annotatedFile.report = .ok { modules :=
      [{ module := "m", events := [⟨.introduced, "1"⟩, ⟨.fixed, ""⟩], packages := ["p"] },
       { module := "" }] } := by decide +kernel
  have herror : ambiguousFile.report = .error (.invalid "ReportDocument"
      [⟨.notOneKind, [.name "modules", .index 1, .name "versions", .index 1]⟩]) := by
    decide +kernel
  obtain ⟨hshape, htells⟩ := report_eq_ok_iff_isReport hannotated
  refine ⟨hannotated, hreport, hshape.mp ⟨_, hreport⟩, (htells _).mp hreport, hambiguous, ?_⟩
  intro hshape
  obtain ⟨r, hr⟩ := (report_eq_ok_iff_isReport hambiguous).1.mpr hshape
  cases herror.symm.trans hr

end AffectedVersions
