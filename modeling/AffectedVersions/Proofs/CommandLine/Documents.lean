import AffectedVersions.Proofs.CommandLine.Output
import AffectedVersions.Proofs.Document.Shape

/-! A command on a document either reports an error only, or prints all there is to print. -/
namespace AffectedVersions

/-- These bytes are UTF-8 text, which is the JSON value `x` once its line ends are unified. -/
def Holds (bytes : List UInt8) (x : Json) : Prop :=
  ∃ text, Utf8.decode bytes = .ok text ∧ Json.parse (Text.unifyLineEnds text) = .ok x

theorem Holds.unique {bytes : List UInt8} {x y : Json} (hx : Holds bytes x) (hy : Holds bytes y) :
    x = y := by
  obtain ⟨text, htext, hparse⟩ := hx
  obtain ⟨other, hother, hparse'⟩ := hy
  obtain rfl := Except.ok.inj (htext.symm.trans hother)
  exact Except.ok.inj (hparse.symm.trans hparse')

namespace File

variable {f : File} {x : Json}

theorem json_eq_ok_iff : f.json = .ok x ↔ Holds f.bytes x := by
  unfold json Holds
  cases Utf8.decode f.bytes with
  | error fault => simp
  | ok text => cases hparse : Json.parse (Text.unifyLineEnds text) <;> simp [hparse, Except.mapError]

theorem report_eq_ok_iff {r : Report} :
    f.report = .ok r ↔ ∃ x, Holds f.bytes x ∧ Report.check x = .pass r := by
  simp only [report, except_bind_eq_ok_iff, json_eq_ok_iff, Report.ofJson,
    Checked.orInvalid_eq_ok_iff]

theorem advisory_eq_ok_iff {records : List AffectedRecord} :
    f.advisory = .ok records ↔ ∃ x, Holds f.bytes x ∧ Advisory.HasShape x ∧
      Advisory.ReadsAs (x.at? (Advisory.path x)) records := by
  simp only [advisory, except_bind_eq_ok_iff, json_eq_ok_iff, Advisory.ofJson_eq_ok_iff]

end File

namespace CommandLine

variable {s : Settings} {f : File} {x : Json} {task : Task} {bytes : List UInt8}

/-- A report is to be converted or checked, and an advisory to be reconstructed. -/
def Accepts (x : Json) : Task → Prop
  | .convert | .check => ∃ report, Report.check x = .pass report
  | .reconstruct => Advisory.HasShape x ∧ ∃ records, Advisory.ReadsAs (x.at? (Advisory.path x)) records

/-- There is no text, no JSON value in it that can be read in full, or no fitting one. -/
def IsBad (task : Task) (bytes : List UInt8) : Prop :=
  (∃ fault, Utf8.decode bytes = .error fault) ∨
    (∃ text e, Utf8.decode bytes = .ok text ∧ Json.parse (Text.unifyLineEnds text) = .error e) ∨
    ∃ x, Holds bytes x ∧ ¬ Accepts x task

/-- What a task makes of a fitting value. -/
def Makes (s : Settings) (x : Json) (product : Product) : Task → Prop
  | .convert => ∃ report, Report.check x = .pass report ∧ product =
      .document (Advisory.toJson s.collectionUrl (report.modules.map History.toEntry)) true
  | .reconstruct => Advisory.HasShape x ∧ ∃ records,
      Advisory.ReadsAs (x.at? (Advisory.path x)) records ∧
        let histories := records.map (·.toEntry.toHistory s.assumedDefault)
        product = .document (Report.toJson histories) (histories.all History.complete)
  | .check => ∃ report, Report.check x = .pass report ∧
      product = .results (report.modules.map (·.check s.lint))

def Identifier.isShort : Identifier → Bool
  | .numeric n => n.repr.length ≤ Numeral.maxDigits
  | .alphanumeric _ => true

/-- No number in a prerelease is too long to be held as an integer. -/
def HasShortNumbers (version : Text) : Prop :=
  ∀ v ∈ Version.semVer? version, ∀ i ∈ v.prerelease, Identifier.isShort i = true

/-- No number is too long in the versions that are compared, which those of checked modules are. -/
def ComparesShortNumbers (s : Settings) (product : Product) : Prop :=
  s.lint = true → ∀ results, product = .results results →
    ∀ r ∈ results, ∀ e ∈ r.original, HasShortNumbers e.version

theorem not_isBad_iff : ¬ IsBad task bytes ↔ ∃ x, Holds bytes x ∧ Accepts x task := by
  unfold IsBad Holds
  cases hdecode : Utf8.decode bytes with
  | error fault => simp
  | ok text =>
    cases hparse : Json.parse (Text.unifyLineEnds text) with
    | error e => simp [hparse]
    | ok x => simp [hparse]

theorem exists_printout (hx : Holds f.bytes x) (h : Accepts x task) :
    ∃ p, printout s f task = .ok p := by
  cases task with
  | convert | check =>
    obtain ⟨report, hcheck⟩ := h
    have hreport : f.report = .ok report := File.report_eq_ok_iff.mpr ⟨x, hx, hcheck⟩
    exact ⟨_, except_map_eq_ok_iff.mpr
      ⟨_, except_map_eq_ok_iff.mpr ⟨report, hreport, rfl⟩, rfl⟩⟩
  | reconstruct =>
    obtain ⟨hshape, records, hreads⟩ := h
    have hrecords : f.advisory = .ok records :=
      File.advisory_eq_ok_iff.mpr ⟨x, hx, hshape, hreads⟩
    have hentries : f.entries = _ := except_map_eq_ok_iff.mpr ⟨records, hrecords, rfl⟩
    exact ⟨_, except_map_eq_ok_iff.mpr
      ⟨_, except_map_eq_ok_iff.mpr ⟨_, hentries, rfl⟩, rfl⟩⟩

theorem makes_of_printout {p : Printout} (h : printout s f task = .ok p) :
    ∃ x, Holds f.bytes x ∧ Makes s x p.product task := by
  cases task with
  | convert | check =>
    obtain ⟨results, hresults, rfl⟩ := except_map_eq_ok_iff.mp h
    obtain ⟨report, hreport, rfl⟩ := except_map_eq_ok_iff.mp hresults
    obtain ⟨x, hx, hcheck⟩ := File.report_eq_ok_iff.mp hreport
    exact ⟨x, hx, report, hcheck, rfl⟩
  | reconstruct =>
    obtain ⟨histories, hhistories, rfl⟩ := except_map_eq_ok_iff.mp h
    obtain ⟨entries, hentries, rfl⟩ := except_map_eq_ok_iff.mp hhistories
    obtain ⟨records, hrecords, rfl⟩ := except_map_eq_ok_iff.mp hentries
    obtain ⟨x, hx, hshape, hreads⟩ := File.advisory_eq_ok_iff.mp hrecords
    refine ⟨x, hx, hshape, records, hreads, ?_⟩
    rw [List.map_map]
    rfl

theorem Makes.accepts {product : Product} (h : Makes s x product task) : Accepts x task := by
  cases task with
  | convert | check =>
    obtain ⟨report, hcheck, -⟩ := h
    exact ⟨report, hcheck⟩
  | reconstruct =>
    obtain ⟨hshape, records, hreads, -⟩ := h
    exact ⟨hshape, records, hreads⟩

section Run

variable {env : Environment} {content? : String → Option (List UInt8)} {items : List String}
  {threshold : Option Nat} {path : String}

/-- Of a bad document an error is reported and nothing is printed. Of any other all is printed and no
error is reported, unless some of it cannot be encoded. -/
theorem run_document (hparse : parse items = some ⟨threshold, .document task path⟩)
    (hcontent : content? path = some bytes) (hsettings : Settings.read env [] = .pass s) :
    (IsBad task bytes → ∃ output, run env content? items = .finished output ∧
      output.code = 1 ∧ output.stdout = [] ∧ output.HasErrorLine) ∧
    (¬ IsBad task bytes → ∃ x product, Holds bytes x ∧ Makes s x product task ∧
      (ComparesShortNumbers s product →
        (product.IsWhole → ∃ output, run env content? items = .finished output ∧
          ¬ output.HasErrorLine ∧ output.code = (if product.passed then 0 else 1) ∧
            product.IsPrintedAs output.stdout) ∧
        (¬ product.IsWhole → ∃ output, run env content? items = .unencodable output))) := by
  rw [run_eq_ending hparse hcontent hsettings]
  constructor
  · intro hbad
    cases hprintout : printout s ⟨tidyPath path, bytes⟩ task with
    | error e => exact ending_of_error threshold hprintout
    | ok p =>
      obtain ⟨x, hx, hmakes⟩ := makes_of_printout hprintout
      exact absurd hbad (not_isBad_iff.mpr ⟨x, hx, hmakes.accepts⟩)
  · intro hgood
    obtain ⟨x, hx, haccepts⟩ := not_isBad_iff.mp hgood
    obtain ⟨p, hp⟩ := exists_printout (f := ⟨tidyPath path, bytes⟩) hx haccepts
    obtain ⟨y, hy, hmakes⟩ := makes_of_printout hp
    refine ⟨y, p.product, hy, hmakes, fun _ => ⟨fun hwhole => ?_, ending_of_not_isWhole threshold hp⟩⟩
    obtain ⟨output, hending, herror, hcode, hprinted, -⟩ := ending_of_ok threshold hp hwhole
    exact ⟨output, hending, herror, hcode, hprinted⟩

end Run

/-- A module that is introduced twice in a row. -/
def doubled : History where
  module := "m"
  events := [⟨.introduced, "1.0.0"⟩, ⟨.introduced, "1.1.0"⟩, ⟨.fixed, "1.2.0"⟩]

def doubledBytes : List UInt8 := Utf8.encode (Json.renderAt 0 (Report.toJson [doubled]))

/-- A file that holds no text, and the report of the module. -/
def twoFiles (path : String) : Option (List UInt8) :=
  match path with
  | "bad.json" => some [0xff]
  | "good.json" => some doubledBytes
  | _ => none

theorem check_doubled : Report.check (Report.toJson [doubled]) = .pass { modules := [doubled] } := by
  cbv

set_option maxRecDepth 10000 in
theorem holds_doubledBytes : Holds doubledBytes (Report.toJson [doubled]) :=
  ⟨Json.renderAt 0 (Report.toJson [doubled]), by cbv, by cbv⟩

def doubledLines : List String :=
  ["FAIL m", "  original:      introduced=1.0.0 introduced=1.1.0 fixed=1.2.0",
    "  reconstructed: introduced=1.0.0 fixed=1.1.0",
    "  - consecutive introduced events at 1.0.0 and 1.1.0"]

theorem listing_doubled : ([doubled].map (·.check true)).flatMap listing = doubledLines.map Text.ofString := by
  decide +kernel

theorem isWhole_doubled : (Product.results ([doubled].map (·.check true))).IsWhole := by
  rw [Product.IsWhole, listing_doubled]
  exact List.forall_mem_map.mpr fun line _ => Text.isWhole_iff_exists.mpr ⟨line, rfl⟩

theorem comparesShortNumbers_doubled :
    ComparesShortNumbers {} (.results ([doubled].map (·.check true))) := by
  rintro - _ ⟨⟩
  unfold HasShortNumbers
  decide +kernel

theorem run_document_twoFiles :
    (∃ output, run [] twoFiles ["check", "bad.json"] = .finished output ∧
      output.code = 1 ∧ output.stdout = [] ∧ output.HasErrorLine) ∧
      ∃ output, run [] twoFiles ["--log-level", "DEBUG", "check", "good.json"] = .finished output ∧
        ¬ output.HasErrorLine ∧ output.code = 1 ∧ output.stdout = doubledLines := by
  have hsettings : Settings.read [] [] = .pass {} := by decide +kernel
  have hbadParse : parse ["check", "bad.json"] = some ⟨none, .document .check "bad.json"⟩ := by
    decide +kernel
  have hgoodParse : parse ["--log-level", "DEBUG", "check", "good.json"] =
      some ⟨some 10, .document .check "good.json"⟩ := by decide +kernel
  have hbad : IsBad .check [0xff] := .inl ⟨_, rfl⟩
  have hgood : ¬ IsBad .check doubledBytes :=
    not_isBad_iff.mpr ⟨_, holds_doubledBytes, _, check_doubled⟩
  have hbadFile : twoFiles "bad.json" = some [0xff] := rfl
  have hgoodFile : twoFiles "good.json" = some doubledBytes := rfl
  obtain ⟨hfails, -⟩ := run_document hbadParse hbadFile hsettings
  obtain ⟨-, hcompletes⟩ := run_document hgoodParse hgoodFile hsettings
  obtain ⟨x, product, hx, ⟨report, hcheck, rfl⟩, hprints⟩ := hcompletes hgood
  obtain rfl := hx.unique holds_doubledBytes
  obtain rfl := Checked.pass.inj (hcheck.symm.trans check_doubled)
  obtain ⟨output, hrun, herror, hcode, hlines⟩ := (hprints comparesShortNumbers_doubled).1 isWhole_doubled
  have hstdout : output.stdout.map Text.ofString = doubledLines.map Text.ofString :=
    hlines.trans listing_doubled
  have hinjective : Function.Injective (List.map Text.ofString) :=
    List.map_injective_iff.mpr fun _ _ => Text.ofString_inj.mp
  exact ⟨hfails hbad, output, hrun, herror, hcode, hinjective hstdout⟩

/-- A module whose name is half of a surrogate pair. -/
def halfNamed : History := { module := .ofCodes [0xD800] }

def halfNamedReport : Json := .obj [("modules", .arr [.obj [("module", .str halfNamed.module)]])]

def halfNamedText : String := "\x7b\"modules\":[\x7b\"module\":\"\\ud800\"\x7d]\x7d"

def onlyHalfNamed (path : String) : Option (List UInt8) :=
  if path = "r.json" then some (Utf8.encode halfNamedText.toList) else none

/-- The report is a good one, but its conversion ends by an exception before anything is printed. -/
theorem run_unencodable_halfNamed :
    ¬ IsBad .convert (Utf8.encode halfNamedText.toList) ∧
      ∃ output, run [] onlyHalfNamed ["convert", "r.json"] = .unencodable output ∧
        output.stdout = [] ∧ output.stderr = [] := by
  have hholds : Holds (Utf8.encode halfNamedText.toList) halfNamedReport :=
    ⟨halfNamedText.toList, by cbv, by cbv⟩
  have hcheck : Report.check halfNamedReport = .pass { modules := [halfNamed] } := by cbv
  refine ⟨not_isBad_iff.mpr ⟨_, hholds, _, hcheck⟩, ?_⟩
  exact ⟨⟨1, [], [], allNotes {} ⟨"r.json", Utf8.encode halfNamedText.toList⟩ .convert⟩,
    by decide +kernel, rfl, rfl⟩

end CommandLine

end AffectedVersions
