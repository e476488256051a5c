import AffectedVersions.Json.Printer
import AffectedVersions.Operation
import AffectedVersions.Proofs.Document.Advisory
import AffectedVersions.Proofs.Json.Path
import AffectedVersions.Proofs.Schema.Acceptance
import Mathlib

/-! The three shapes of an advisory: where each of them keeps its affected objects. -/
namespace AffectedVersions

open Schema

theorem Checked.orInvalid_eq_ok_iff {α : Type} {model : String} {c : Checked α} {a : α} :
    c.orInvalid model = .ok a ↔ c = .pass a := by
  cases c <;> simp [orInvalid]

theorem Checked.id_map {α : Type} (c : Checked α) : (fun a => a) <$> c = c := by
  cases c <;> rfl

theorem Field.read_of_lookup {α : Type} {f : Field} {ms : Members} {x : Json}
    (h : ms.lookup f.name = some x) (check : Json → Checked α) (absent : Checked α) :
    f.read check absent ms = (check x).under (.name f.name) := by
  unfold read
  rw [find?_of_lookup h nofun]
  rfl

theorem Schema.optional_mapMember {α : Type} {f : Field} {name : String} (hname : f.name ≠ name)
    (hother : f.otherName ≠ name) (check : Json → Checked α) (g : Json → Json) (ms : Members) :
    optional f check (Json.mapMember name g ms) = optional f check ms := by
  apply optional_congr
  apply Field.find?_congr
  · rw [Json.lookup_mapMember, if_neg hname]
  · rw [Json.lookup_mapMember, if_neg hother]

namespace Advisory

/-- The names of the members that lead to the list of affected objects. -/
def path : Json → List String
  | .obj ms =>
    if (ms.lookup "containers").isSome then ["containers", "cna", "affected"] else ["affected"]
  | _ => []

/-- The affected objects of a document in their order. -/
def objects (x : Json) : List Json := ((x.at? (path x)).map Json.elements).getD []

/-- Change each affected object of a document. -/
def mapObjects (f : Json → Json) (x : Json) : Json := x.modify (Json.mapElements f) (path x)

/-- What has to hold around the list of affected objects. -/
def HasShape : Json → Prop
  | .arr _ => True
  | .obj ms => (ms.lookup "containers").isSome = true →
      (∃ type, optional ⟨"dataType", "data_type"⟩ text ms = .pass type) ∧
      (∃ version, optional ⟨"dataVersion", "data_version"⟩ text ms = .pass version) ∧
        ∃ inner, (Json.obj ms).at? ["containers", "cna"] = some (.obj inner)
  | _ => False

/-- The list of affected objects is read as these records. A list that is not there is empty. -/
def ReadsAs (list : Option Json) (records : List AffectedRecord) : Prop :=
  list.elim ([] = records) fun x => checkList x = .pass records

theorem readsAs_iff {list : Option Json} {records : List AffectedRecord} :
    ReadsAs list records ↔ (∀ x ∈ list, ∃ xs, x = .arr xs) ∧
      List.Forall₂ (fun x r => AffectedRecord.check x = .pass r) ((list.map Json.elements).getD [])
        records := by
  unfold ReadsAs checkList
  cases list with
  | none => simp [eq_comm]
  | some x =>
    rw [Option.elim_some, list_eq_pass_iff]
    constructor
    · rintro ⟨xs, rfl, hxs⟩
      exact ⟨fun y hy => ⟨xs, (Option.some.inj hy).symm⟩, hxs⟩
    · rintro ⟨harr, hxs⟩
      obtain ⟨xs, rfl⟩ := harr x rfl
      exact ⟨xs, rfl, hxs⟩

theorem checkNumberingAuthority_eq_pass_iff {x : Json} {records : List AffectedRecord} :
    checkNumberingAuthority x = .pass records ↔
      ∃ ms, x = .obj ms ∧ ReadsAs (ms.lookup "affected") records := by
  unfold checkNumberingAuthority ReadsAs
  rw [object_eq_pass_iff]
  simp only [Field.orElse_eq_pass_iff, Field.value?_of_name]

theorem checkContainers_eq_pass_iff {x : Json} {records : List AffectedRecord} :
    checkContainers x = .pass records ↔
      ∃ inner, x.at? ["cna"] = some (.obj inner) ∧ ReadsAs (inner.lookup "affected") records := by
  unfold checkContainers
  rw [object_eq_pass_iff]
  simp only [Field.required_eq_pass_iff, Field.value?_of_name, checkNumberingAuthority_eq_pass_iff]
  constructor
  · rintro ⟨ms, rfl, y, hy, inner, rfl, hreads⟩
    exact ⟨inner, by simp [Json.at?, hy], hreads⟩
  · rintro ⟨inner, hat, hreads⟩
    cases x with
    | obj ms =>
      have hy : ms.lookup "cna" = some (.obj inner) := by simpa [Json.at?] using hat
      exact ⟨ms, rfl, .obj inner, hy, inner, rfl, hreads⟩
    | _ => simp [Json.at?] at hat

theorem checkRecord_eq_pass_iff {ms : Members} {records : List AffectedRecord} :
    checkRecord (.obj ms) = .pass records ↔
      (∃ type, optional ⟨"dataType", "data_type"⟩ text ms = .pass type) ∧
      (∃ version, optional ⟨"dataVersion", "data_version"⟩ text ms = .pass version) ∧
        ∃ inner, (Json.obj ms).at? ["containers", "cna"] = some (.obj inner) ∧
          ReadsAs (inner.lookup "affected") records := by
  have hcontainers : (∃ x, ms.lookup "containers" = some x ∧ checkContainers x = .pass records) ↔
      ∃ inner, (Json.obj ms).at? ["containers", "cna"] = some (.obj inner) ∧
        ReadsAs (inner.lookup "affected") records := by
    simp only [checkContainers_eq_pass_iff]
    cases h : ms.lookup "containers" with
    | none => simp [Json.at?, h]
    | some x =>
      have hat : (Json.obj ms).at? ["containers", "cna"] = x.at? ["cna"] := by
        rw [Json.at?, h, Option.bind_some]
      rw [hat]
      simp
  rw [← hcontainers]
  unfold checkRecord
  rw [object_obj]
  simp only [Checked.seq_eq_pass_iff, Checked.map_eq_pass_iff, Field.required_eq_pass_iff,
    Field.value?_of_name]
  constructor
  · rintro ⟨_, ⟨_, ⟨type, htype, rfl⟩, version, hversion, rfl⟩, found, hfound, rfl⟩
    exact ⟨⟨type, htype⟩, ⟨version, hversion⟩, hfound⟩
  · rintro ⟨⟨type, htype⟩, ⟨version, hversion⟩, hfound⟩
    exact ⟨_, ⟨_, ⟨type, htype, rfl⟩, version, hversion, rfl⟩, records, hfound, rfl⟩

section Object

variable {file : String} {ms : Members} {records : List AffectedRecord}

theorem path_of_containers (h : (ms.lookup "containers").isSome = true) :
    path (.obj ms) = ["containers", "cna", "affected"] := if_pos h

theorem path_of_not_containers (h : ms.lookup "containers" = none) :
    path (.obj ms) = ["affected"] := by
  rw [path, h]
  rfl

theorem ofJson_obj_eq_ok_iff_of_containers (h : (ms.lookup "containers").isSome = true) :
    ofJson file (.obj ms) = .ok records ↔
      HasShape (.obj ms) ∧ ReadsAs ((Json.obj ms).at? (path (.obj ms))) records := by
  have hrecord : ofJson file (.obj ms) = (checkRecord (.obj ms)).orInvalid "Cve5Record" := if_pos h
  have hat : ∀ inner, (Json.obj ms).at? ["containers", "cna"] = some (.obj inner) →
      (Json.obj ms).at? (path (.obj ms)) = inner.lookup "affected" := by
    intro inner hinner
    have happend := Json.at?_append ["containers", "cna"] ["affected"] (.obj ms)
    rw [hinner, Option.bind_some, Json.at?_singleton] at happend
    rw [path_of_containers h]
    exact happend
  rw [hrecord, Checked.orInvalid_eq_ok_iff, checkRecord_eq_pass_iff, HasShape, forall_prop_of_true h]
  constructor
  · rintro ⟨htype, hversion, inner, hinner, hreads⟩
    exact ⟨⟨htype, hversion, inner, hinner⟩, (hat inner hinner).symm ▸ hreads⟩
  · rintro ⟨⟨htype, hversion, inner, hinner⟩, hreads⟩
    exact ⟨htype, hversion, inner, hinner, hat inner hinner ▸ hreads⟩

theorem ofJson_obj_eq_ok_iff_of_not_containers (h : ms.lookup "containers" = none) :
    ofJson file (.obj ms) = .ok records ↔
      HasShape (.obj ms) ∧ ReadsAs ((Json.obj ms).at? (path (.obj ms))) records := by
  have hempty : checkList (.arr []) = .pass [] := rfl
  rw [ofJson_obj file h, Checked.orInvalid_eq_ok_iff, path_of_not_containers h, Json.at?_singleton,
    HasShape, h, ReadsAs]
  cases ms.lookup "affected" with
  | none => simp [hempty]
  | some x => simp

end Object

theorem ofJson_eq_ok_iff {file : String} {x : Json} {records : List AffectedRecord} :
    ofJson file x = .ok records ↔ HasShape x ∧ ReadsAs (x.at? (path x)) records := by
  cases x with
  | arr xs =>
    have hlist : ofJson file (.arr xs) = (checkList (.arr xs)).orInvalid "list[Cve5Affected]" := rfl
    rw [hlist, Checked.orInvalid_eq_ok_iff, HasShape, true_and]
    rfl
  | obj ms =>
    cases h : ms.lookup "containers" with
    | none => exact ofJson_obj_eq_ok_iff_of_not_containers h
    | some x => exact ofJson_obj_eq_ok_iff_of_containers (Option.isSome_of_eq_some h)
  | _ => simp [ofJson, HasShape]

theorem forall₂_of_ofJson {file : String} {x : Json} {records : List AffectedRecord}
    (h : ofJson file x = .ok records) :
    List.Forall₂ (fun object r => AffectedRecord.check object = .pass r) (objects x) records :=
  (readsAs_iff.mp (ofJson_eq_ok_iff.mp h).2).2

theorem exists_object_of_ofJson {file : String} {x : Json} {records : List AffectedRecord}
    (h : ofJson file x = .ok records) {r : AffectedRecord} (hr : r ∈ records) :
    ∃ object ∈ objects x, AffectedRecord.check object = .pass r := by
  obtain ⟨hlength, hcheck⟩ := List.forall₂_iff_get.mp (forall₂_of_ofJson h)
  obtain ⟨⟨i, hi⟩, rfl⟩ := List.mem_iff_get.mp hr
  have hi' : i < (objects x).length := hlength ▸ hi
  exact ⟨_, List.get_mem _ ⟨i, hi'⟩, hcheck i hi' hi⟩

theorem path_mapObjects (f : Json → Json) (x : Json) : path (mapObjects f x) = path x := by
  cases x with
  | obj ms =>
    cases h : ms.lookup "containers" with
    | none =>
      unfold mapObjects
      rw [path_of_not_containers h, Json.modify]
      apply path_of_not_containers
      rw [Json.lookup_mapMember, if_neg (by decide), h]
    | some x =>
      have hsome : (ms.lookup "containers").isSome = true := Option.isSome_of_eq_some h
      unfold mapObjects
      rw [path_of_containers hsome, Json.modify]
      apply path_of_containers
      rw [Json.lookup_mapMember, if_pos rfl, Option.isSome_map, hsome]
  | _ => rfl

theorem at?_path_mapObjects (f : Json → Json) (x : Json) :
    (mapObjects f x).at? (path (mapObjects f x)) = (x.at? (path x)).map (Json.mapElements f) := by
  rw [path_mapObjects]
  exact Json.at?_modify _ _ _

theorem objects_mapObjects (f : Json → Json) (x : Json) :
    objects (mapObjects f x) = (objects x).map f := by
  unfold objects
  rw [at?_path_mapObjects]
  cases x.at? (path x) with
  | none => rfl
  | some y => exact Json.elements_mapElements f y

theorem hasShape_mapObjects (f : Json → Json) {x : Json} (h : HasShape x) :
    HasShape (mapObjects f x) := by
  cases x with
  | obj ms =>
    cases hms : ms.lookup "containers" with
    | none =>
      unfold mapObjects
      rw [path_of_not_containers hms, Json.modify, HasShape, Json.lookup_mapMember,
        if_neg (by decide), hms]
      exact fun hnone => absurd hnone Bool.false_ne_true
    | some y =>
      have hsome : (ms.lookup "containers").isSome = true := Option.isSome_of_eq_some hms
      rw [HasShape, forall_prop_of_true hsome] at h
      obtain ⟨htype, hversion, inner, hinner⟩ := h
      have hat := Json.at?_modify_append (Json.mapElements f) ["containers", "cna"] ["affected"]
        (.obj ms)
      rw [hinner, List.cons_append, List.cons_append, List.nil_append, Json.modify] at hat
      unfold mapObjects
      rw [path_of_containers hsome, Json.modify, HasShape]
      intro _
      refine ⟨?_, ?_, _, hat⟩
      · rwa [optional_mapMember (by decide) (by decide)]
      · rwa [optional_mapMember (by decide) (by decide)]
  | _ => exact h

theorem ofJson_mapObjects {file other : String} {f : Json → Json} {x : Json}
    {records changed : List AffectedRecord} (h : ofJson file x = .ok records)
    (hchanged : List.Forall₂ (fun object r => AffectedRecord.check (f object) = .pass r) (objects x)
      changed) :
    ofJson other (mapObjects f x) = .ok changed := by
  obtain ⟨hshape, hreads⟩ := ofJson_eq_ok_iff.mp h
  rw [ofJson_eq_ok_iff, readsAs_iff]
  refine ⟨hasShape_mapObjects f hshape, ?_, ?_⟩
  · intro y hy
    rw [at?_path_mapObjects, Option.mem_def, Option.map_eq_some_iff] at hy
    obtain ⟨list, hlist, rfl⟩ := hy
    obtain ⟨xs, rfl⟩ := (readsAs_iff.mp hreads).1 list hlist
    exact ⟨xs.map f, rfl⟩
  · change List.Forall₂ _ (objects (mapObjects f x)) changed
    rwa [objects_mapObjects, List.forall₂_map_left_iff]

theorem checkRecord_containers (xs : Json) :
    checkRecord (.obj [("containers", .obj [("cna", .obj [("affected", xs)])])]) =
      (((checkList xs).under (.name "affected")).under (.name "cna")).under (.name "containers") := by
  have hcna : checkNumberingAuthority (.obj [("affected", xs)]) =
      (checkList xs).under (.name "affected") := by
    rw [checkNumberingAuthority, object_obj, Field.orElse,
      Field.read_of_lookup List.lookup_cons_self]
  have hcontainers : checkContainers (.obj [("cna", .obj [("affected", xs)])]) =
      (checkNumberingAuthority (.obj [("affected", xs)])).under (.name "cna") := by
    rw [checkContainers, object_obj, Field.required, Field.read_of_lookup List.lookup_cons_self]
  have htype : optional ⟨"dataType", "data_type"⟩ text
      [("containers", .obj [("cna", .obj [("affected", xs)])])] = .pass none :=
    optional_text (by simp [lookup_cons_eq]) (by simp [lookup_cons_eq])
  have hversion : optional ⟨"dataVersion", "data_version"⟩ text
      [("containers", .obj [("cna", .obj [("affected", xs)])])] = .pass none :=
    optional_text (by simp [lookup_cons_eq]) (by simp [lookup_cons_eq])
  have hrequired : Field.required "containers" checkContainers
      [("containers", .obj [("cna", .obj [("affected", xs)])])] =
        (checkContainers (.obj [("cna", .obj [("affected", xs)])])).under (.name "containers") := by
    rw [Field.required, Field.read_of_lookup List.lookup_cons_self]
  rw [checkRecord, object_obj, htype, hversion, hrequired, hcontainers, hcna, Checked.map_pass,
    Checked.seq_pass]
  exact Checked.id_map _

end Advisory

theorem File.exists_records_of_entries {f : File} {x : Json} {entries : List Entry}
    (hx : f.json = .ok x) (h : f.entries = .ok entries) :
    ∃ records, Advisory.ofJson f.name x = .ok records ∧
      records.map AffectedRecord.toEntry = entries := by
  unfold File.entries advisory at h
  rw [hx, Except.bind] at h
  cases hrecords : Advisory.ofJson f.name x with
  | error e =>
    rw [hrecords] at h
    exact absurd h nofun
  | ok records =>
    rw [hrecords] at h
    exact ⟨records, rfl, Except.ok.inj h⟩

theorem File.entries_of_records {f : File} {x : Json} {records : List AffectedRecord}
    (hx : f.json = .ok x) (h : Advisory.ofJson f.name x = .ok records) :
    f.entries = .ok (records.map AffectedRecord.toEntry) := by
  unfold File.entries advisory
  rw [hx, Except.bind, h]
  rfl

theorem File.reconstruct_of_entries {f : File} {entries : List Entry} (h : f.entries = .ok entries)
    (assumed : Status) : f.reconstruct assumed = .ok (entries.map (·.toHistory assumed)) := by
  rw [reconstruct, h]
  rfl

/-- A record, an object and a bare list with the same affected objects are read alike. They have the
same faults as well, which in a record are located by three more names. -/
theorem File.entries_of_containers {inRecord inObject : File} {xs : Json}
    (hrecord : inRecord.json =
      .ok (.obj [("containers", .obj [("cna", .obj [("affected", xs)])])]))
    (hobject : inObject.json = .ok (.obj [("affected", xs)])) :
    ((∃ entries, inRecord.entries = .ok entries ∧ inObject.entries = .ok entries) ∨
      ∃ details, inObject.entries = .error (.invalid "list[Cve5Affected]" details) ∧
        inRecord.entries = .error (.invalid "Cve5Record" (details.map fun d =>
          { d with location :=
              .name "containers" :: .name "cna" :: .name "affected" :: d.location }))) ∧
      ∀ (bare : File) (items : List Json), xs = .arr items → bare.json = .ok xs →
        bare.entries = inObject.entries := by
  have hinObject : inObject.advisory =
      (Advisory.checkList xs).orInvalid "list[Cve5Affected]" := by
    unfold advisory
    rw [hobject, Except.bind, Advisory.ofJson_obj _ (by simp [lookup_cons_eq]),
      List.lookup_cons_self, Option.getD_some]
  have hinRecord : inRecord.advisory = ((((Advisory.checkList xs).under (.name "affected")).under
      (.name "cna")).under (.name "containers")).orInvalid "Cve5Record" := by
    unfold advisory
    rw [hrecord, Except.bind, ← Advisory.checkRecord_containers]
    rfl
  refine ⟨?_, ?_⟩
  · unfold entries
    rw [hinObject, hinRecord]
    cases Advisory.checkList xs with
    | pass records => exact Or.inl ⟨records.map AffectedRecord.toEntry, rfl, rfl⟩
    | fail details =>
      refine Or.inr ⟨details, rfl, ?_⟩
      simp only [Checked.under, List.map_map]
      rfl
  · intro bare items hxs hbare
    have hinBare : bare.advisory = (Advisory.checkList xs).orInvalid "list[Cve5Affected]" := by
      unfold advisory
      rw [hbare, hxs]
      rfl
    unfold entries
    rw [hinBare, hinObject]

/-- An affected object whose vendor and one of whose platforms are no texts. -/
def faultyList : Json := .arr [.obj [("vendor", .bool true), ("platforms", .arr [.null])]]

def faultyFile : File where
  name := "advisory.json"
  bytes := Utf8.encode (Json.renderAt 0 faultyList)

def faultyObjectFile : File where
  name := "advisory.json"
  bytes := Utf8.encode (Json.renderAt 0 (.obj [("affected", faultyList)]))

def faultyRecordFile : File where
  name := "advisory.json"
  bytes := Utf8.encode
    (Json.renderAt 0 (.obj [("containers", .obj [("cna", .obj [("affected", faultyList)])])]))

set_option maxRecDepth 10000 in
theorem File.entries_of_containers_faultyList :
    faultyRecordFile.json =
        .ok (.obj [("containers", .obj [("cna", .obj [("affected", faultyList)])])]) ∧
      faultyObjectFile.json = .ok (.obj [("affected", faultyList)]) ∧
      faultyFile.json = .ok faultyList ∧
      faultyRecordFile.entries = .error (.invalid "Cve5Record"
        [⟨.notText, [.name "containers", .name "cna", .name "affected", .index 0, .name "vendor"]⟩,
         ⟨.notText, [.name "containers", .name "cna", .name "affected", .index 0, .name "platforms",
            .index 0]⟩]) ∧
      faultyFile.entries = .error (.invalid "list[Cve5Affected]"
        [⟨.notText, [.index 0, .name "vendor"]⟩,
         ⟨.notText, [.index 0, .name "platforms", .index 0]⟩]) := by
  have hrecord : faultyRecordFile.json =
      .ok (.obj [("containers", .obj [("cna", .obj [("affected", faultyList)])])]) := by cbv
  have hobject : faultyObjectFile.json = .ok (.obj [("affected", faultyList)]) := by cbv
  have hlist : faultyFile.json = .ok faultyList := by cbv
  have hfaults : faultyObjectFile.entries = .error (.invalid "list[Cve5Affected]"
      [⟨.notText, [.index 0, .name "vendor"]⟩,
       ⟨.notText, [.index 0, .name "platforms", .index 0]⟩]) := by decide +kernel
  obtain ⟨hread, hbare⟩ := File.entries_of_containers hrecord hobject
  refine ⟨hrecord, hobject, hlist, ?_, (hbare faultyFile _ rfl hlist).trans hfaults⟩
  rcases hread with ⟨entries, _, hentries⟩ | ⟨details, hdetails, hinRecord⟩
  · have habsurd := hfaults.symm.trans hentries
    exact absurd habsurd (by simp)
  · have hinvalid := Except.error.inj (hfaults.symm.trans hdetails)
    obtain ⟨_, hlocated⟩ := DocumentError.invalid.inj hinvalid
    exact hinRecord.trans (by rw [← hlocated]; rfl)

end AffectedVersions
