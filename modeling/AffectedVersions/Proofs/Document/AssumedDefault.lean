import AffectedVersions.Json.Printer
import AffectedVersions.Proofs.Document.Shape
import Mathlib

/-! The assumed default. It speaks for the affected objects that state none, and for no others. -/
namespace AffectedVersions

open Schema

/-- The status that a JSON value is the label of. -/
def Json.status? : Json → Option Status
  | .str label => Status.read? label
  | _ => none

/-- A text or null: what is read is a status if and only if the JSON value is the label of one. -/
theorem Schema.bind_read?_of_optional {f : Field} {ms : Members} {value : Option Text}
    (h : optional f text ms = .pass value) :
    value.bind Status.read? = (f.value? ms).bind Json.status? := by
  rw [optional_eq_pass_iff] at h
  cases hvalue : f.value? ms with
  | none =>
    rw [hvalue] at h
    rw [← h]
    rfl
  | some x =>
    rw [hvalue, Option.elim_some] at h
    cases x with
    | null =>
      rw [← Checked.pass.inj h]
      rfl
    | str label =>
      rw [← Checked.pass.inj h]
      rfl
    | _ => exact absurd h nofun

theorem Schema.optional_put {α : Type} {f : Field} {name : String} (hname : f.name ≠ name)
    (hother : f.otherName ≠ name) (check : Json → Checked α) (x : Json) (ms : Members) :
    optional f check (Json.put name x ms) = optional f check ms :=
  optional_congr (Field.find?_congr (Json.lookup_put_of_ne hname x ms)
    (Json.lookup_put_of_ne hother x ms))

namespace AffectedRecord

/-- The default status that an affected object states, under either name of the field. -/
def statedDefault? : Json → Option Status
  | .obj ms => (Field.value? ⟨"defaultStatus", "default_status"⟩ ms).bind Json.status?
  | _ => none

/-- Set the default status of an affected object that states none. -/
def fillDefault (assumed : Status) : Json → Json
  | .obj ms =>
    if (statedDefault? (.obj ms)).isSome then .obj ms
    else .obj (Json.put "defaultStatus" (.str assumed.label) ms)
  | x => x

/-- The record with the assumed default as its label, where its own is none of a status. -/
def withDefault (assumed : Status) (r : AffectedRecord) : AffectedRecord :=
  if r.toEntry.default.isSome then r else { r with defaultStatus := some assumed.label }

theorem check_eq_pass_iff {ms : Members} {r : AffectedRecord} :
    check (.obj ms) = .pass r ↔
      optional "vendor" text ms = .pass r.vendor ∧
      optional "product" text ms = .pass r.product ∧
      optional ⟨"collectionURL", "collection_url"⟩ text ms = .pass r.collectionUrl ∧
      optional ⟨"packageName", "package_name"⟩ text ms = .pass r.packageName ∧
      optional "versions" (list VersionRecord.check) ms = .pass r.versions ∧
      optional ⟨"defaultStatus", "default_status"⟩ text ms = .pass r.defaultStatus ∧
      optional "platforms" (list text) ms = .pass r.platforms := by
  unfold check
  rw [object_obj]
  simp only [Checked.seq_eq_pass_iff, Checked.map_eq_pass_iff]
  constructor
  · rintro ⟨_, ⟨_, ⟨_, ⟨_, ⟨_, ⟨_, ⟨vendor, hvendor, rfl⟩, product, hproduct, rfl⟩, url, hurl, rfl⟩,
      package, hpackage, rfl⟩, versions, hversions, rfl⟩, default, hdefault, rfl⟩,
      platforms, hplatforms, rfl⟩
    exact ⟨hvendor, hproduct, hurl, hpackage, hversions, hdefault, hplatforms⟩
  · rintro ⟨hvendor, hproduct, hurl, hpackage, hversions, hdefault, hplatforms⟩
    exact ⟨_, ⟨_, ⟨_, ⟨_, ⟨_, ⟨_, ⟨_, hvendor, rfl⟩, _, hproduct, rfl⟩, _, hurl, rfl⟩,
      _, hpackage, rfl⟩, _, hversions, rfl⟩, _, hdefault, rfl⟩, _, hplatforms, rfl⟩

theorem default_toEntry_of_check {object : Json} {r : AffectedRecord} (h : check object = .pass r) :
    r.toEntry.default = statedDefault? object := by
  obtain ⟨ms, rfl, _⟩ := object_eq_pass_iff.mp h
  obtain ⟨_, _, _, _, _, hdefault, _⟩ := check_eq_pass_iff.mp h
  exact bind_read?_of_optional hdefault

/-- A default that is filled in changes no other field, and the old label is read no more. -/
theorem check_fillDefault {object : Json} {r : AffectedRecord} (assumed : Status)
    (h : check object = .pass r) : check (fillDefault assumed object) = .pass (r.withDefault assumed) := by
  have hstated := default_toEntry_of_check h
  obtain ⟨ms, rfl, _⟩ := object_eq_pass_iff.mp h
  rw [fillDefault, withDefault, hstated]
  split_ifs with hsome
  · exact h
  · obtain ⟨hvendor, hproduct, hurl, hpackage, hversions, _, hplatforms⟩ := check_eq_pass_iff.mp h
    have hfilled : optional ⟨"defaultStatus", "default_status"⟩ text
        (Json.put "defaultStatus" (.str assumed.label) ms) = .pass (some assumed.label) := by
      unfold Schema.optional Field.orElse
      rw [Field.read_of_lookup (Json.lookup_put_self _ _ _)]
      rfl
    rw [check_eq_pass_iff]
    refine ⟨?_, ?_, ?_, ?_, ?_, hfilled, ?_⟩
    all_goals rwa [optional_put (by decide) (by decide)]

theorem toEntry_withDefault (assumed : Status) (r : AffectedRecord) :
    (r.withDefault assumed).toEntry =
      { r.toEntry with default := some (r.toEntry.defaultOr assumed) } := by
  unfold withDefault Entry.defaultOr
  split_ifs with hsome
  · obtain ⟨status, hstatus⟩ := Option.isSome_iff_exists.mp hsome
    rw [hstatus, Option.getD_some, ← hstatus]
  · rw [Option.not_isSome_iff_eq_none.mp hsome]
    unfold toEntry
    simp

end AffectedRecord

theorem Entry.toHistory_of_default {e : Entry} {status : Status} (h : e.default = some status)
    (assumed other : Status) : e.toHistory other = e.toHistory assumed := by
  unfold toHistory reading defaultOr
  rw [h]
  rfl

theorem Entry.toHistory_defaultOr (e : Entry) (assumed other : Status) :
    Entry.toHistory { e with default := some (e.defaultOr assumed) } other = e.toHistory assumed := rfl

namespace Advisory

/-- Set the default status of the affected objects that state none. -/
def fillDefaults (assumed : Status) (x : Json) : Json :=
  mapObjects (AffectedRecord.fillDefault assumed) x

theorem ofJson_fillDefaults {file : String} {x : Json} {records : List AffectedRecord}
    (h : ofJson file x = .ok records) (other : String) (assumed : Status) :
    ofJson other (fillDefaults assumed x) = .ok (records.map (·.withDefault assumed)) := by
  apply ofJson_mapObjects h
  rw [List.forall₂_map_right_iff]
  exact (forall₂_of_ofJson h).imp fun object r hr => AffectedRecord.check_fillDefault assumed hr

end Advisory

/-- Reconstructing with an assumed default is reconstructing the advisory that has it in the place of
each missing default. Where none is missing the assumed default has no say. -/
theorem File.reconstruct_fillDefaults {f g : File} {x : Json} {entries : List Entry}
    {assumed : Status} (hx : f.json = .ok x) (hf : f.entries = .ok entries)
    (hg : g.json = .ok (Advisory.fillDefaults assumed x)) :
    (∃ histories, f.reconstruct assumed = .ok histories ∧
      ∀ other, g.reconstruct other = .ok histories) ∧
      ((∀ object ∈ Advisory.objects x, (AffectedRecord.statedDefault? object).isSome = true) →
        ∀ other, f.reconstruct other = f.reconstruct assumed) := by
  obtain ⟨records, hrecords, rfl⟩ := File.exists_records_of_entries hx hf
  have hfilled := File.entries_of_records hg (Advisory.ofJson_fillDefaults hrecords _ _)
  refine ⟨⟨_, File.reconstruct_of_entries hf assumed, ?_⟩, ?_⟩
  · intro other
    rw [File.reconstruct_of_entries hfilled, List.map_map, List.map_map, List.map_map]
    congr 1
    apply List.map_congr_left
    intro r _
    simp only [Function.comp_apply, AffectedRecord.toEntry_withDefault, Entry.toHistory_defaultOr]
  · intro hstated other
    rw [File.reconstruct_of_entries hf, File.reconstruct_of_entries hf]
    congr 1
    rw [List.map_inj_left, List.forall_mem_map]
    intro r hr
    obtain ⟨object, hobject, hcheck⟩ := Advisory.exists_object_of_ofJson hrecords hr
    obtain ⟨status, hstatus⟩ := Option.isSome_iff_exists.mp (hstated object hobject)
    exact Entry.toHistory_of_default
      ((AffectedRecord.default_toEntry_of_check hcheck).trans hstatus) assumed other

/-- One object with a default, and one with a label that is none of a status. -/
def oddDefaults : Json :=
  .arr [.obj [("vendor", .str "m"), ("defaultStatus", .str " AFFECTED")],
    .obj [("vendor", .str "n"), ("default_status", .str "odd"),
      ("versions", .arr [.obj [("version", .str "1.0.0"), ("status", .str "affected")]])]]

def oddDefaultsFile : File where
  name := "advisory.json"
  bytes := Utf8.encode (Json.renderAt 0 oddDefaults)

/-- The same advisory where unaffected versions are the default of the second object. -/
def filledDefaults : Json :=
  .arr [.obj [("vendor", .str "m"), ("defaultStatus", .str " AFFECTED")],
    .obj [("vendor", .str "n"), ("default_status", .str "odd"),
      ("versions", .arr [.obj [("version", .str "1.0.0"), ("status", .str "affected")]]),
      ("defaultStatus", .str "unaffected")]]

def filledDefaultsFile : File where
  name := "advisory.json"
  bytes := Utf8.encode (Json.renderAt 0 filledDefaults)

set_option maxRecDepth 10000 in
theorem File.reconstruct_fillDefaults_oddDefaults :
    oddDefaultsFile.json = .ok oddDefaults ∧
      Advisory.fillDefaults .unaffected oddDefaults = filledDefaults ∧
      filledDefaultsFile.json = .ok filledDefaults ∧
      (∀ other, filledDefaultsFile.reconstruct other = oddDefaultsFile.reconstruct .unaffected) ∧
      oddDefaultsFile.reconstruct .unaffected ≠ oddDefaultsFile.reconstruct .affected := by
  have hx : oddDefaultsFile.json = .ok oddDefaults := by cbv
  have hf : oddDefaultsFile.entries = .ok [{ module := "m", default := some .affected },
      { module := "n", spans := [{ introduced := "1.0.0", status := some .affected }] }] := by
    decide +kernel
  have hfill : Advisory.fillDefaults .unaffected oddDefaults = filledDefaults := by rfl
  have hy : filledDefaultsFile.json = .ok filledDefaults := by cbv
  have hg : filledDefaultsFile.entries = .ok [{ module := "m", default := some .affected },
      { module := "n", spans := [{ introduced := "1.0.0", status := some .affected }],
        default := some .unaffected }] := by decide +kernel
  have hkept : Advisory.fillDefaults .unaffected filledDefaults = filledDefaults := by rfl
  have hstated : ∀ object ∈ Advisory.objects filledDefaults,
      (AffectedRecord.statedDefault? object).isSome = true := by decide +kernel
  obtain ⟨⟨histories, hhistories, hfilled⟩, _⟩ :=
    File.reconstruct_fillDefaults hx hf (hy.trans (congrArg Except.ok hfill.symm))
  have hsettled := (File.reconstruct_fillDefaults hy hg (hy.trans (congrArg Except.ok hkept.symm))).2
    hstated
  refine ⟨hx, hfill, hy, fun other => ?_, by decide +kernel⟩
  exact (hsettled other).trans ((hfilled .unaffected).trans hhistories.symm)

end AffectedVersions
