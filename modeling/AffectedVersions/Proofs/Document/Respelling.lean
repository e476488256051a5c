import AffectedVersions.Proofs.Document.Shape
import AffectedVersions.Proofs.Schema.Respelling
import Mathlib

/-! Advisories that differ in their spelling only. From all of them the same entries are read. -/
namespace AffectedVersions

open Schema

namespace VersionRecord

def outline : Outline where
  slots := [{ field := "version" },
    { field := ⟨"lessThan", "less_than"⟩, nullable := true },
    { field := "status" },
    { field := ⟨"versionType", "version_type"⟩, nullable := true }]

theorem agree_check {x y : Json} (h : outline.RespelledObject x y) : (check x).Agree (check y) := by
  cases h with
  | object h =>
    have hmatches := h.matches
    simp only [outline, List.forall_mem_cons] at hmatches
    obtain ⟨hversion, hlessThan, hstatus, hversionType, -⟩ := hmatches
    unfold check
    rw [object_obj, object_obj]
    exact ((((hversion.orElse rfl nofun ("" : Text)).map _).seq (hlessThan.optional nofun)).seq
      (hstatus.required rfl nofun)).seq (hversionType.optional nofun)

end VersionRecord

namespace AffectedRecord

def outline : Outline where
  slots := [{ field := "vendor", nullable := true },
    { field := "product", nullable := true },
    { field := ⟨"collectionURL", "collection_url"⟩, nullable := true },
    { field := ⟨"packageName", "package_name"⟩, nullable := true },
    { field := "versions", nullable := true,
      respells := RespelledItem VersionRecord.outline.RespelledObject },
    { field := ⟨"defaultStatus", "default_status"⟩, nullable := true },
    { field := "platforms", nullable := true }]

theorem agree_check {x y : Json} (h : outline.RespelledObject x y) : (check x).Agree (check y) := by
  cases h with
  | object h =>
    have hmatches := h.matches
    simp only [outline, List.forall_mem_cons] at hmatches
    obtain ⟨hvendor, hproduct, hurl, hpackage, hversions, hdefault, hplatforms, -⟩ := hmatches
    have hlist : ∀ x y, RespelledItem VersionRecord.outline.RespelledObject x y →
        (nullable (list VersionRecord.check) x).Agree (nullable (list VersionRecord.check) y) :=
      fun x y hxy => hxy.agree_nullable_list fun _ _ => VersionRecord.agree_check
    unfold check
    rw [object_obj, object_obj]
    exact (((((((hvendor.optional nofun).map _).seq (hproduct.optional nofun)).seq
      (hurl.optional nofun)).seq (hpackage.optional nofun)).seq (hversions.optional hlist)).seq
      (hdefault.optional nofun)).seq (hplatforms.optional nofun)

end AffectedRecord

namespace Advisory

/-- An object with the list of affected objects, be it in a record or by itself. -/
def listOutline : Outline where
  slots :=
    [{ field := "affected", respells := RespelledItem AffectedRecord.outline.RespelledObject }]

def containersOutline : Outline where
  slots := [{ field := "cna", respells := listOutline.RespelledObject }]

def recordOutline : Outline where
  slots := [{ field := ⟨"dataType", "data_type"⟩, nullable := true },
    { field := ⟨"dataVersion", "data_version"⟩, nullable := true },
    { field := "containers", respells := containersOutline.RespelledObject }]

/-- One change to the spelling of an advisory, somewhere in it. -/
inductive Respelling : Json → Json → Prop
  | list {x y : Json} (h : RespelledItem AffectedRecord.outline.RespelledObject x y) :
      Respelling x y
  | object {ms other : Members} (hms : ms.lookup "containers" = none)
      (hother : other.lookup "containers" = none) (h : listOutline.Respelling ms other) :
      Respelling (.obj ms) (.obj other)
  | record {ms other : Members} (hms : (ms.lookup "containers").isSome = true)
      (h : recordOutline.Respelling ms other) : Respelling (.obj ms) (.obj other)

theorem agree_checkList {x y : Json}
    (h : RespelledItem AffectedRecord.outline.RespelledObject x y) :
    (checkList x).Agree (checkList y) := h.agree_list fun _ _ => AffectedRecord.agree_check

theorem agree_checkNumberingAuthority {x y : Json} (h : listOutline.RespelledObject x y) :
    (checkNumberingAuthority x).Agree (checkNumberingAuthority y) := by
  cases h with
  | object h =>
    have hmatches := h.matches
    simp only [listOutline, List.forall_mem_cons] at hmatches
    unfold checkNumberingAuthority
    rw [object_obj, object_obj]
    exact hmatches.1.orElse rfl (fun _ _ => agree_checkList) []

theorem agree_checkContainers {x y : Json} (h : containersOutline.RespelledObject x y) :
    (checkContainers x).Agree (checkContainers y) := by
  cases h with
  | object h =>
    have hmatches := h.matches
    simp only [containersOutline, List.forall_mem_cons] at hmatches
    unfold checkContainers
    rw [object_obj, object_obj]
    exact hmatches.1.required rfl fun _ _ => agree_checkNumberingAuthority

theorem agree_checkRecord {ms other : Members} (h : recordOutline.Respelling ms other) :
    (checkRecord (.obj ms)).Agree (checkRecord (.obj other)) := by
  have hmatches := h.matches
  simp only [recordOutline, List.forall_mem_cons] at hmatches
  obtain ⟨htype, hversion, hcontainers, -⟩ := hmatches
  unfold checkRecord
  rw [object_obj, object_obj]
  exact (((htype.optional nofun).map _).seq (hversion.optional nofun)).seq
    (hcontainers.required rfl fun _ _ => agree_checkContainers)

theorem containers_of_respelling {ms other : Members} (h : recordOutline.Respelling ms other)
    (hms : (ms.lookup "containers").isSome = true) : (other.lookup "containers").isSome = true := by
  have hmatches := h.matches
  simp only [recordOutline, List.forall_mem_cons] at hmatches
  obtain ⟨-, -, hcontainers, -⟩ := hmatches
  have hpresent := hcontainers.isSome_value?_iff rfl
  rw [Field.value?_of_name, Field.value?_of_name] at hpresent
  exact hpresent.mp hms

variable {file other : String} {x y : Json} {records : List AffectedRecord}

theorem ofJson_obj_eq_ok_iff {ms : Members} (h : ms.lookup "containers" = none) :
    ofJson file (.obj ms) = .ok records ↔ checkNumberingAuthority (.obj ms) = .pass records := by
  have hshape : HasShape (.obj ms) := by
    rw [HasShape, h]
    exact fun hsome => absurd hsome Bool.false_ne_true
  rw [ofJson_obj_eq_ok_iff_of_not_containers h, path_of_not_containers h, Json.at?_singleton,
    checkNumberingAuthority_eq_pass_iff, and_iff_right hshape]
  simp

theorem ofJson_obj_of_containers {ms : Members} (h : (ms.lookup "containers").isSome = true) :
    ofJson file (.obj ms) = (checkRecord (.obj ms)).orInvalid "Cve5Record" := if_pos h

theorem ofJson_iff_of_respelling (h : Respelling x y) :
    ofJson file x = .ok records ↔ ofJson other y = .ok records := by
  cases h with
  | list h =>
    have hagree := agree_checkList h
    cases h with
    | item before after h =>
      unfold ofJson
      rw [Checked.orInvalid_eq_ok_iff, Checked.orInvalid_eq_ok_iff]
      exact hagree records
  | object hms hother h =>
    rw [ofJson_obj_eq_ok_iff hms, ofJson_obj_eq_ok_iff hother]
    exact agree_checkNumberingAuthority (.object h) records
  | record hms h =>
    rw [ofJson_obj_of_containers hms, ofJson_obj_of_containers (containers_of_respelling h hms),
      Checked.orInvalid_eq_ok_iff, Checked.orInvalid_eq_ok_iff]
    exact agree_checkRecord h records

theorem ofJson_iff_of_eqvGen (h : Relation.EqvGen Respelling x y) :
    ofJson file x = .ok records ↔ ofJson other y = .ok records := by
  have hname : ∀ z, ofJson file z = .ok records ↔ ofJson other z = .ok records := by
    intro z
    rw [ofJson_eq_ok_iff, ofJson_eq_ok_iff]
  rw [← hname y]
  induction h with
  | rel x y h => exact ofJson_iff_of_respelling h
  | refl x => exact Iff.rfl
  | symm x y _ ih => exact ih.symm
  | trans x y z _ _ ihxy ihyz => exact ihxy.trans ihyz

end Advisory

/-- Changes to the spelling of an advisory change nothing about its entries. -/
theorem File.entries_of_respelling {f g : File} {x y : Json} {entries : List Entry}
    (hx : f.json = .ok x) (hy : g.json = .ok y) (hentries : f.entries = .ok entries)
    (h : Relation.EqvGen Advisory.Respelling x y) : g.entries = .ok entries := by
  obtain ⟨records, hrecords, rfl⟩ := File.exists_records_of_entries hx hentries
  exact File.entries_of_records hy ((Advisory.ofJson_iff_of_eqvGen h).mp hrecords)

def spanMembers : Members :=
  [("version", .str "1.0.0"), ("lessThan", .str "2.0.0"), ("status", .str "affected")]

def hiddenMembers : Members := ("less_than", .int 9) :: spanMembers

def objectMembers (packageName : String) (span : Members) : Members :=
  [("versions", .arr [.obj span]), ("vendor", .str "m"), (packageName, .str "p")]

def recordMembers (object : Members) : Members :=
  [("containers", .obj [("cna", .obj [("affected", .arr [.obj object])])])]

def plainRecord : Json := .obj (recordMembers (objectMembers "packageName" spanMembers))

def respelledRecord : Json :=
  .obj (("note", .bool true) :: ("data_type", .null) ::
    recordMembers (objectMembers "package_name" hiddenMembers))

theorem Schema.sameBut_cons (name : String) (x : Json) (ms : Members) :
    SameBut [name] ms ((name, x) :: ms) := by
  intro key hkey
  rw [lookup_cons_eq, if_neg (mt List.mem_singleton.mpr hkey)]

theorem Schema.sameBut_cons_cons (name : String) (x y : Json) (ms : Members) :
    SameBut [name] ((name, x) :: ms) ((name, y) :: ms) := by
  intro key hkey
  rw [lookup_cons_eq, lookup_cons_eq, if_neg (mt List.mem_singleton.mpr hkey),
    if_neg (mt List.mem_singleton.mpr hkey)]

theorem respelling_recordMembers {object other : Members}
    (h : AffectedRecord.outline.Respelling object other) :
    Advisory.recordOutline.Respelling (recordMembers object) (recordMembers other) := by
  have hlist : Advisory.listOutline.Respelling [("affected", .arr [.obj object])]
      [("affected", .arr [.obj other])] :=
    .inside (s := Advisory.listOutline.slots[0]) (List.getElem_mem _) List.lookup_cons_self
      List.lookup_cons_self (.item [] [] (.object h)) (sameBut_cons_cons _ _ _ _)
  have hcna : Advisory.containersOutline.Respelling
      [("cna", .obj [("affected", .arr [.obj object])])]
      [("cna", .obj [("affected", .arr [.obj other])])] :=
    .inside (s := Advisory.containersOutline.slots[0]) (List.getElem_mem _) List.lookup_cons_self
      List.lookup_cons_self (.object hlist) (sameBut_cons_cons _ _ _ _)
  exact .inside (s := Advisory.recordOutline.slots[2]) (List.getElem_mem _) List.lookup_cons_self
    List.lookup_cons_self (.object hcna) (sameBut_cons_cons _ _ _ _)

theorem eqvGen_respelledRecord :
    Relation.EqvGen Advisory.Respelling plainRecord respelledRecord := by
  have hhidden : VersionRecord.outline.Respelling spanMembers hiddenMembers :=
    .hidden (List.mem_cons_of_mem _ List.mem_cons_self) (by decide) rfl (sameBut_cons _ _ _)
  have hversions : AffectedRecord.outline.Respelling (objectMembers "packageName" spanMembers)
      (objectMembers "packageName" hiddenMembers) :=
    .inside (s := AffectedRecord.outline.slots[4]) (List.getElem_mem _) List.lookup_cons_self
      List.lookup_cons_self (.item [] [] (.object hhidden)) (sameBut_cons_cons _ _ _ _)
  have hrenamed : AffectedRecord.outline.Respelling (objectMembers "packageName" hiddenMembers)
      (objectMembers "package_name" hiddenMembers) := by
    refine .renamed (s := AffectedRecord.outline.slots[3]) (List.getElem_mem _) rfl rfl rfl rfl ?_
    intro key hkey
    have hnames : key ≠ "packageName" ∧ key ≠ "package_name" := by
      simpa [AffectedRecord.outline, Field.names] using hkey
    simp [objectMembers, lookup_cons_eq, hnames]
  have hrecord := fun {object other} (h : AffectedRecord.outline.Respelling object other) =>
    Relation.EqvGen.rel _ _ (Advisory.Respelling.record rfl (respelling_recordMembers h))
  have hnulled : Advisory.recordOutline.Respelling
      (recordMembers (objectMembers "package_name" hiddenMembers))
      (("data_type", .null) :: recordMembers (objectMembers "package_name" hiddenMembers)) :=
    .nulled List.mem_cons_self rfl (List.mem_cons_of_mem _ List.mem_cons_self)
      (by simp [Field.names, recordMembers, lookup_cons_eq]) List.lookup_cons_self
      (sameBut_cons _ _ _)
  have hunnamed : Advisory.recordOutline.Respelling
      (("data_type", .null) :: recordMembers (objectMembers "package_name" hiddenMembers))
      (("note", .bool true) :: ("data_type", .null) ::
        recordMembers (objectMembers "package_name" hiddenMembers)) :=
    .unnamed (by decide) (sameBut_cons _ _ _)
  exact (hrecord hversions).trans _ _ _ <| (hrecord hrenamed).trans _ _ _ <|
    (Relation.EqvGen.rel _ _ (.record rfl hnulled)).trans _ _ _ (.rel _ _ (.record rfl hunnamed))

def plainRecordFile : File where
  name := "plain.json"
  bytes := Utf8.encode (Json.renderAt 0 plainRecord)

def respelledRecordFile : File where
  name := "respelled.json"
  bytes := Utf8.encode (Json.renderAt 0 respelledRecord)

set_option maxRecDepth 10000 in
theorem File.entries_of_respelling_record :
    plainRecordFile.json = .ok plainRecord ∧ respelledRecordFile.json = .ok respelledRecord ∧
      Relation.EqvGen Advisory.Respelling plainRecord respelledRecord ∧
      plainRecordFile.entries = .ok
        [{ module := "m", spans := [⟨"1.0.0", "2.0.0", some .affected, "semver"⟩],
           packages := ["p"] }] ∧
      respelledRecordFile.entries = .ok
        [{ module := "m", spans := [⟨"1.0.0", "2.0.0", some .affected, "semver"⟩],
           packages := ["p"] }] := by
  have hx : plainRecordFile.json = .ok plainRecord := by cbv
  have hy : respelledRecordFile.json = .ok respelledRecord := by cbv
  have hentries : plainRecordFile.entries = .ok
      [{ module := "m", spans := [⟨"1.0.0", "2.0.0", some .affected, "semver"⟩],
         packages := ["p"] }] := by decide +kernel
  exact ⟨hx, hy, eqvGen_respelledRecord, hentries,
    File.entries_of_respelling hx hy hentries eqvGen_respelledRecord⟩

end AffectedVersions
