import AffectedVersions.Document.File
import AffectedVersions.Proofs.Schema.Field
import Mathlib

/-! Advisories that are read as they were written. -/
namespace AffectedVersions

open Schema

theorem lookup_cons_eq (name key : String) (x : Json) (ms : Members) :
    List.lookup key ((name, x) :: ms) = if key = name then some x else ms.lookup key := by
  rw [List.lookup_cons]
  by_cases h : key = name
  · rw [if_pos h, beq_iff_eq.mpr h]
  · rw [if_neg h, beq_eq_false_iff_ne.mpr h]

theorem lookup_member {α : Type} (name key : String) (toJson : α → Json) (value : Option α) :
    (value.toList.map fun a => (name, toJson a)).lookup key =
      if key = name then value.map toJson else none := by
  cases value <;> simp [lookup_cons_eq]

theorem lookup_textMember (name key : String) (value : Option Text) :
    (textMember name value).lookup key = if key = name then value.map .str else none :=
  lookup_member name key .str value

theorem optional_text {f : Field} {ms : Members} {value : Option Text}
    (h : ms.lookup f.name = value.map .str)
    (hother : value = none → ms.lookup f.otherName = none) : optional f text ms = .pass value :=
  optional_of_lookup h hother (fun a _ => text_str a) (fun _ => nofun)

theorem optional_list {α : Type} {f : Field} {check : Json → Checked α} {toJson : α → Json}
    {ms : Members} {value : Option (List α)}
    (h : ms.lookup f.name = value.map fun xs => .arr (xs.map toJson))
    (hother : value = none → ms.lookup f.otherName = none)
    (hcheck : ∀ a, check (toJson a) = .pass a) : optional f (list check) ms = .pass value :=
  optional_of_lookup h hother (fun _ _ => list_map fun a _ => hcheck a) (fun _ => nofun)

namespace VersionRecord

def members (r : VersionRecord) : Members :=
  ("version", .str r.version) :: textMember "lessThan" r.lessThan ++
    ("status", .str r.status) :: textMember "versionType" r.versionType

theorem toJson_eq (r : VersionRecord) : r.toJson = .obj r.members := rfl

theorem lookup_members (r : VersionRecord) (key : String) :
    r.members.lookup key =
      if key = "version" then some (.str r.version)
      else if key = "lessThan" then r.lessThan.map .str
      else if key = "status" then some (.str r.status)
      else if key = "versionType" then r.versionType.map .str else none := by
  unfold members
  simp only [List.cons_append, List.lookup_append, lookup_cons_eq, lookup_textMember]
  split_ifs <;> simp_all

theorem check_toJson (r : VersionRecord) : check r.toJson = .pass r := by
  have hversion : Field.orElse "version" text "" r.members = .pass r.version :=
    Field.orElse_of_lookup (by simp [lookup_members]) (text_str _) _
  have hlessThan : optional ⟨"lessThan", "less_than"⟩ text r.members = .pass r.lessThan :=
    optional_text (by simp [lookup_members]) (by simp [lookup_members])
  have hstatus : Field.required "status" text r.members = .pass r.status :=
    Field.required_of_lookup (by simp [lookup_members]) (text_str _)
  have hversionType : optional ⟨"versionType", "version_type"⟩ text r.members = .pass r.versionType :=
    optional_text (by simp [lookup_members]) (by simp [lookup_members])
  rw [toJson_eq, check, object_obj]
  rw [hversion, hlessThan, hstatus, hversionType]
  simp only [Checked.map_pass, Checked.seq_pass]

end VersionRecord

namespace AffectedRecord

def members (r : AffectedRecord) : Members :=
  textMember "vendor" r.vendor ++ textMember "product" r.product ++
    textMember "collectionURL" r.collectionUrl ++ textMember "packageName" r.packageName ++
    r.versions.toList.map (fun vs => ("versions", .arr (vs.map VersionRecord.toJson))) ++
    textMember "defaultStatus" r.defaultStatus ++
    r.platforms.toList.map fun ps => ("platforms", .arr (ps.map .str))

theorem toJson_eq (r : AffectedRecord) : r.toJson = .obj r.members := rfl

theorem lookup_members (r : AffectedRecord) (key : String) :
    r.members.lookup key =
      if key = "vendor" then r.vendor.map .str
      else if key = "product" then r.product.map .str
      else if key = "collectionURL" then r.collectionUrl.map .str
      else if key = "packageName" then r.packageName.map .str
      else if key = "versions" then
        r.versions.map fun vs => .arr (vs.map VersionRecord.toJson)
      else if key = "defaultStatus" then r.defaultStatus.map .str
      else if key = "platforms" then r.platforms.map fun ps => .arr (ps.map .str) else none := by
  unfold members
  simp only [List.lookup_append, lookup_textMember, lookup_member]
  split_ifs <;> simp_all

theorem check_toJson (r : AffectedRecord) : check r.toJson = .pass r := by
  have hvendor : optional "vendor" text r.members = .pass r.vendor :=
    optional_text (by simp [lookup_members]) (by simp [lookup_members])
  have hproduct : optional "product" text r.members = .pass r.product :=
    optional_text (by simp [lookup_members]) (by simp [lookup_members])
  have hurl : optional ⟨"collectionURL", "collection_url"⟩ text r.members = .pass r.collectionUrl :=
    optional_text (by simp [lookup_members]) (by simp [lookup_members])
  have hpackage : optional ⟨"packageName", "package_name"⟩ text r.members = .pass r.packageName :=
    optional_text (by simp [lookup_members]) (by simp [lookup_members])
  have hversions : optional "versions" (list VersionRecord.check) r.members = .pass r.versions :=
    optional_list (by simp [lookup_members]) (by simp [lookup_members]) VersionRecord.check_toJson
  have hdefault :
      optional ⟨"defaultStatus", "default_status"⟩ text r.members = .pass r.defaultStatus :=
    optional_text (by simp [lookup_members]) (by simp [lookup_members])
  have hplatforms : optional "platforms" (list text) r.members = .pass r.platforms :=
    optional_list (by simp [lookup_members]) (by simp [lookup_members]) text_str
  rw [toJson_eq, check, object_obj]
  rw [hvendor, hproduct, hurl, hpackage, hversions, hdefault, hplatforms]
  simp only [Checked.map_pass, Checked.seq_pass]

end AffectedRecord

theorem Advisory.ofJson_obj (file : String) {ms : Members} (h : ms.lookup "containers" = none) :
    ofJson file (.obj ms) =
      (checkList ((ms.lookup "affected").getD (.arr []))).orInvalid "list[Cve5Affected]" := by
  unfold ofJson
  exact if_neg (by simp [h])

theorem Advisory.ofJson_toJson (file : String) (url : Option Text) (entries : List Entry) :
    ofJson file (toJson url entries) = .ok (entries.flatMap (·.toRecords url)) := by
  have hlist : checkList (.arr (affected url entries)) =
      .pass (entries.flatMap (·.toRecords url)) := list_map fun r _ => r.check_toJson
  unfold toJson
  rw [ofJson_obj file (by simp [lookup_cons_eq]), List.lookup_cons_self, Option.getD_some, hlist]
  rfl

/-- The span as an advisory states it, with affected in the place of a missing status. -/
def Span.stated (s : Span) : Span := { s with status := some (s.status.getD .affected) }

theorem Span.stated_of_isSome {s : Span} (h : s.status.isSome = true) : s.stated = s := by
  obtain ⟨status, hstatus⟩ := Option.isSome_iff_exists.mp h
  unfold stated
  rw [hstatus, Option.getD_some, ← hstatus]

theorem Span.map_stated_of_isSome {spans : List Span} (h : ∀ s ∈ spans, s.status.isSome = true) :
    spans.map Span.stated = spans :=
  (List.map_congr_left fun s hs => stated_of_isSome (h s hs)).trans (List.map_id spans)

theorem VersionRecord.toSpan_ofSpan {s : Span} (hscheme : s.scheme ≠ "") :
    toSpan (ofSpan s) = s.stated := by
  have hfixed : (if s.fixed = "" then none else some s.fixed).getD "" = s.fixed := by
    split_ifs with h
    · exact h.symm
    · rfl
  have hkept : ((some s.scheme).filter (· ≠ ("" : Text))).getD "semver" = s.scheme := by
    simp [Option.filter, hscheme]
  unfold toSpan ofSpan Span.stated status?
  rw [hfixed, hkept, Status.read?_label, Option.getD_some]

theorem AffectedRecord.firstText_cons {text : Text} (h : text ≠ "")
    (texts : List (Option Text)) : firstText (some text :: texts) = text := by
  simp [firstText, h]

/-- No name of the entry is empty, so that each stands in the advisory as it is. -/
structure Entry.IsNamed (e : Entry) : Prop where
  module : e.module ≠ ""
  packages : ∀ p ∈ e.packages, p ≠ ""
  schemes : ∀ s ∈ e.spans, s.scheme ≠ ""

namespace Entry

/-- The packages of the entry, or its module where it lists none. -/
def packageNames (e : Entry) : List Text := if e.packages = [] then [e.module] else e.packages

/-- What an advisory says of the entry, once for each package. -/
def stated (e : Entry) : List Entry :=
  e.packageNames.map fun p => { e with spans := e.spans.map Span.stated, packages := [p] }

theorem IsNamed.packageNames {e : Entry} (h : e.IsNamed) : ∀ p ∈ e.packageNames, p ≠ "" := by
  unfold Entry.packageNames
  split_ifs
  · simpa using h.module
  · exact h.packages

end Entry

theorem AffectedRecord.spans_toEntry_ofEntry {e : Entry} (h : ∀ s ∈ e.spans, s.scheme ≠ "")
    (url : Option Text) (p : Text) :
    (toEntry (ofEntry url e p)).spans = e.spans.map Span.stated := by
  unfold toEntry ofEntry
  dsimp only
  split_ifs with hnil
  · rw [hnil]
    rfl
  · rw [Option.getD_some, List.map_map]
    exact List.map_congr_left fun s hs => VersionRecord.toSpan_ofSpan (h s hs)

theorem AffectedRecord.default_toEntry_ofEntry (url : Option Text) (e : Entry) (p : Text) :
    (toEntry (ofEntry url e p)).default = e.default := by
  unfold toEntry ofEntry
  cases e.default <;> simp

/-- An empty name of the module gives way to the one of the package. -/
theorem AffectedRecord.module_toEntry_ofEntry (url : Option Text) (e : Entry) (p : Text) :
    (toEntry (ofEntry url e p)).module = if e.module = "" then p else e.module := by
  split_ifs with hmodule
  · by_cases hp : p = "" <;> simp [toEntry, ofEntry, firstText, hmodule, hp]
  · exact firstText_cons hmodule _

theorem AffectedRecord.packages_toEntry_ofEntry (url : Option Text) (e : Entry) (p : Text) :
    (toEntry (ofEntry url e p)).packages = if p = "" then [] else [p] := by
  by_cases hp : p = "" <;> simp [toEntry, ofEntry, Option.filter, hp]

theorem AffectedRecord.toEntry_ofEntry {e : Entry} (h : e.IsNamed) (url : Option Text)
    {p : Text} (hp : p ≠ "") :
    toEntry (ofEntry url e p) = { e with spans := e.spans.map Span.stated, packages := [p] } := by
  have hmodule := module_toEntry_ofEntry url e p
  have hpackages := packages_toEntry_ofEntry url e p
  rw [if_neg h.module] at hmodule
  rw [if_neg hp] at hpackages
  rw [← spans_toEntry_ofEntry h.schemes url p, ← default_toEntry_ofEntry url e p, ← hmodule,
    ← hpackages]

theorem Entry.map_toEntry_toRecords {e : Entry} (h : e.IsNamed) (url : Option Text) :
    (e.toRecords url).map AffectedRecord.toEntry = e.stated := by
  unfold toRecords stated
  rw [List.map_map]
  exact List.map_congr_left fun p hp =>
    AffectedRecord.toEntry_ofEntry h url (h.packageNames p hp)

theorem File.entries_of_json {f : File} {url : Option Text} {entries : List Entry}
    (hf : f.json = .ok (Advisory.toJson url entries)) (h : ∀ e ∈ entries, e.IsNamed) :
    f.entries = .ok (entries.flatMap Entry.stated) := by
  have hmap : (entries.flatMap (·.toRecords url)).map AffectedRecord.toEntry =
      entries.flatMap Entry.stated := by
    rw [List.map_flatMap]
    exact List.flatMap_congr fun e he => Entry.map_toEntry_toRecords (h e he) url
  unfold File.entries advisory
  rw [hf, Except.bind, Advisory.ofJson_toJson, ← hmap]
  rfl

end AffectedVersions
