import AffectedVersions.History
import AffectedVersions.Schema.Field

/-! Advisories: affected objects as a JSON document, and the entries they stand for. -/
namespace AffectedVersions

/-- One of the `versions` of an affected object. -/
structure VersionRecord where
  version : Text
  lessThan : Option Text
  status : Text
  versionType : Option Text
  deriving DecidableEq

structure AffectedRecord where
  vendor : Option Text := none
  product : Option Text := none
  collectionUrl : Option Text := none
  packageName : Option Text := none
  versions : Option (List VersionRecord) := none
  defaultStatus : Option Text := none
  platforms : Option (List Text) := none
  deriving DecidableEq

namespace VersionRecord

open Schema

def check : Json → Checked VersionRecord :=
  object "Cve5VersionRange" fun ms =>
    VersionRecord.mk <$> Field.orElse "version" text "" ms
      <*> optional ⟨"lessThan", "less_than"⟩ text ms
      <*> Field.required "status" text ms
      <*> optional ⟨"versionType", "version_type"⟩ text ms

def status? (r : VersionRecord) : Option Status := Status.read? r.status

/-- A record whose label is no status has an unknown one. -/
def toSpan (r : VersionRecord) : Span where
  introduced := r.version
  fixed := r.lessThan.getD ""
  status := some (r.status?.getD .unknown)
  scheme := (r.versionType.filter (· ≠ ("" : Text))).getD "semver"

/-- A span without a status is written as affected. -/
def ofSpan (s : Span) : VersionRecord where
  version := s.introduced
  lessThan := if s.fixed = "" then none else some s.fixed
  status := (s.status.getD .affected).label
  versionType := some s.scheme

end VersionRecord

def textMember (name : String) (value : Option Text) : Members :=
  value.toList.map fun s => (name, .str s)

def VersionRecord.toJson (r : VersionRecord) : Json :=
  .obj <| ("version", .str r.version) :: textMember "lessThan" r.lessThan ++
    ("status", .str r.status) :: textMember "versionType" r.versionType

namespace AffectedRecord

open Schema

def check : Json → Checked AffectedRecord :=
  object "Cve5Affected" fun ms =>
    AffectedRecord.mk <$> optional "vendor" text ms
      <*> optional "product" text ms
      <*> optional ⟨"collectionURL", "collection_url"⟩ text ms
      <*> optional ⟨"packageName", "package_name"⟩ text ms
      <*> optional "versions" (list VersionRecord.check) ms
      <*> optional ⟨"defaultStatus", "default_status"⟩ text ms
      <*> optional "platforms" (list text) ms

def toJson (r : AffectedRecord) : Json :=
  .obj <| textMember "vendor" r.vendor ++ textMember "product" r.product ++
    textMember "collectionURL" r.collectionUrl ++ textMember "packageName" r.packageName ++
    r.versions.toList.map (fun vs => ("versions", .arr (vs.map VersionRecord.toJson))) ++
    textMember "defaultStatus" r.defaultStatus ++
    r.platforms.toList.map fun ps => ("platforms", .arr (ps.map .str))

def firstText (texts : List (Option Text)) : Text :=
  (texts.filterMap id).find? (· ≠ ("" : Text)) |>.getD ""

/-- The module is named by the vendor, the product or the package. -/
def toEntry (r : AffectedRecord) : Entry where
  module := firstText [r.vendor, r.product, r.packageName]
  spans := (r.versions.getD []).map VersionRecord.toSpan
  default := r.defaultStatus.bind Status.read?
  packages := (r.packageName.filter (· ≠ ("" : Text))).toList

def ofEntry (collectionUrl : Option Text) (e : Entry) (package : Text) : AffectedRecord where
  vendor := some e.module
  product := some package
  collectionUrl := collectionUrl
  packageName := some package
  versions := if e.spans = [] then none else some (e.spans.map VersionRecord.ofSpan)
  defaultStatus := e.default.map fun status => status.label

end AffectedRecord

/-- One record for each package; the module itself stands in where there is none. -/
def Entry.toRecords (collectionUrl : Option Text) (e : Entry) : List AffectedRecord :=
  (if e.packages = [] then [e.module] else e.packages).map (.ofEntry collectionUrl e)

namespace Advisory

open Schema

def affected (collectionUrl : Option Text) (entries : List Entry) : List Json :=
  (entries.flatMap (·.toRecords collectionUrl)).map AffectedRecord.toJson

def toJson (collectionUrl : Option Text) (entries : List Entry) : Json :=
  .obj [("affected", .arr (affected collectionUrl entries))]

def checkList : Json → Checked (List AffectedRecord) := list AffectedRecord.check

def checkNumberingAuthority : Json → Checked (List AffectedRecord) :=
  object "Cve5Cna" fun ms => Field.orElse "affected" checkList [] ms

def checkContainers : Json → Checked (List AffectedRecord) :=
  object "Cve5Containers" fun ms => Field.required "cna" checkNumberingAuthority ms

/-- A full record: its affected objects stand inside its containers. -/
def checkRecord : Json → Checked (List AffectedRecord) :=
  object "Cve5Record" fun ms =>
    (fun _ _ affected => affected) <$> optional ⟨"dataType", "data_type"⟩ text ms
      <*> optional ⟨"dataVersion", "data_version"⟩ text ms
      <*> Field.required "containers" checkContainers ms

end Advisory

end AffectedVersions
