import AffectedVersions.Proofs.CommandLine.Output
import AffectedVersions.Proofs.Session.Opening
import AffectedVersions.Proofs.Text.Cut

/-! A command on a document prints what a client would answer. -/
namespace AffectedVersions.CommandLine

/-- What is asked of a client in place of a task. -/
def Task.operation (f : File) : Task → Operation
  | .convert => .convert f
  | .reconstruct => .reconstruct f
  | .check => .check f

/-- What an answer to a task is printed as. -/
def Task.product? : Task → Answer → Option Product
  | .convert, .affected objects => some (.document (.obj [("affected", .arr objects)]) true)
  | .reconstruct, .histories histories =>
    some (.document (Report.toJson histories) (histories.all History.complete))
  | .check, .roundTrips results => some (.results results)
  | _, _ => none

/-- The client that a command line stands for is opened without keywords. -/
def clientResponses (env : Environment) (operation : Operation) : List Response :=
  ({ environment := env } : Session).responses [.connect [], .ask operation]

/-- Behind all notes the modules are named that could not be rebuilt, less control sequences. -/
def NamesIncomplete (histories : List History) (stderr : List String) : Prop :=
  let names := Text.intercalate ", " (incomplete histories)
  (∃ notes : List Note, stderr = notes.map (·.render.escaped) ++
    if histories.all History.complete then [] else ["Not representable: " ++ names.plain.escaped]) ∧
  ((∀ name ∈ incomplete histories, (Text.escapeMark : Letter) ∉ name.toList) → names.plain = names)

theorem plain_intercalate {names : List Text}
    (h : ∀ name ∈ names, (Text.escapeMark : Letter) ∉ name.toList) :
    (Text.intercalate ", " names).plain = Text.intercalate ", " names := by
  apply Text.plain_of_notMem
  rw [Text.toList_intercalate]
  intro hmem
  rcases Text.mem_of_mem_intercalate hmem with hmark | ⟨part, hpart, hmem⟩
  · exact absurd hmark (by decide)
  · obtain ⟨name, hname, rfl⟩ := List.mem_map.mp hpart
    exact h name hname hmem

theorem escaped_incompleteLine (modules : List Text) :
    (incompleteLine modules).escaped =
      "Not representable: " ++ (Text.intercalate ", " modules).plain.escaped := by
  rw [incompleteLine, Text.plain_append (by decide), Text.escaped_ofString_append]

section Client

variable {env : Environment} {s : Settings} {operation : Operation}

theorem clientResponses_eq (hsettings : Settings.read env [] = .pass s) :
    clientResponses env operation =
      [.done, .ofResult (operation.answer s (.ofSettings s))] := by
  have hopen : Client.settings? ({ environment := env } : Session).environment [] = .ok s := by
    simp only [Client.settings?, Client.unexpected?, Client.given, List.map_nil, List.find?_nil,
      List.filter_nil, hsettings]
  rw [clientResponses, Session.responses, Session.response_connect_of_ok hopen, Session.responses,
    (Session.isOpen_step_connect hopen).response_ask, Session.responses]

end Client

section Run

variable {env : Environment} {content? : String → Option (List UInt8)} {items : List String}
  {bytes : List UInt8} {s : Settings} {task : Task} {f : File} {threshold : Option Nat}
  {path : String} {answer : Answer} {p : Printout}

theorem printout_eq_error_iff {e : DocumentError} :
    printout s f task = .error e ↔ (task.operation f).answer s (.ofSettings s) = .error e := by
  cases task <;> simp only [printout, Task.operation, Operation.answer, except_map_eq_error_iff]

theorem product?_of_printout (h : printout s f task = .ok p) :
    ∃ answer, (task.operation f).answer s (.ofSettings s) = .ok answer ∧
      task.product? answer = some p.product := by
  cases task with
  | convert | reconstruct | check =>
    obtain ⟨made, hmade, rfl⟩ := except_map_eq_ok_iff.mp h
    exact ⟨_, except_map_eq_ok_iff.mpr ⟨made, hmade, rfl⟩, rfl⟩

theorem namesIncomplete_of_printout {histories : List History} {stderr : List String}
    (h : printout s f task = .ok p)
    (hanswer : (task.operation f).answer s (.ofSettings s) = .ok (.histories histories))
    (hstderr : ∃ notes : List Note,
      stderr = (notes.map Note.render ++ p.remarks).map Text.escaped) :
    NamesIncomplete histories stderr := by
  refine ⟨?_, plain_intercalate⟩
  cases task with
  | convert | check =>
    obtain ⟨_, -, hmade⟩ := except_map_eq_ok_iff.mp hanswer
    exact absurd hmade nofun
  | reconstruct =>
    obtain ⟨others, hothers, hmade⟩ := except_map_eq_ok_iff.mp hanswer
    obtain rfl := Answer.histories.inj hmade
    obtain ⟨made, hmade, rfl⟩ := except_map_eq_ok_iff.mp h
    obtain rfl := Except.ok.inj (hothers.symm.trans hmade)
    obtain ⟨notes, rfl⟩ := hstderr
    refine ⟨notes, ?_⟩
    rw [List.map_append, List.map_map, apply_ite (List.map Text.escaped), List.map_nil,
      List.map_singleton, escaped_incompleteLine]
    simp only [incomplete_eq_nil_iff]
    rfl

/-- A command on a document fails where a client fails that is asked the same in the same
environment. Otherwise it prints what the client answers, if all of that can be encoded. -/
theorem run_shows_client (hparse : parse items = some ⟨threshold, .document task path⟩)
    (hcontent : content? path = some bytes) (hsettings : Settings.read env [] = .pass s) :
    ∃ response, clientResponses env (task.operation ⟨tidyPath path, bytes⟩) = [.done, response] ∧
      ((∃ e, response = .failed e ∧ ∃ output, run env content? items = .finished output ∧
          output.code = 1 ∧ output.stdout = [] ∧ output.HasErrorLine) ∨
        ∃ answer product, response = .answered answer ∧ task.product? answer = some product ∧
          (product.IsWhole → ∃ output, run env content? items = .finished output ∧
            ¬ output.HasErrorLine ∧ output.code = (if product.passed then 0 else 1) ∧
              product.IsPrintedAs output.stdout ∧
                ∀ histories, answer = .histories histories →
                  NamesIncomplete histories output.stderr)) := by
  refine ⟨_, clientResponses_eq hsettings, ?_⟩
  rw [run_eq_ending hparse hcontent hsettings]
  cases hprintout : printout s ⟨tidyPath path, bytes⟩ task with
  | error e =>
    rw [printout_eq_error_iff.mp hprintout]
    exact Or.inl ⟨e, rfl, ending_of_error threshold hprintout⟩
  | ok p =>
    obtain ⟨answer, hanswer, hproduct⟩ := product?_of_printout hprintout
    rw [hanswer]
    refine Or.inr ⟨answer, p.product, rfl, hproduct, fun hwhole => ?_⟩
    obtain ⟨output, hending, herror, hcode, hprinted, hstderr⟩ :=
      ending_of_ok threshold hprintout hwhole
    refine ⟨output, hending, herror, hcode, hprinted, ?_⟩
    rintro histories rfl
    exact namesIncomplete_of_printout hprintout hanswer hstderr

end Run

section NeedlessSpan

/-- A module with a span that is not affected, which no event tells. -/
def needlessSpan (module : Text) : Entry where
  module := module
  spans := [{ introduced := "1", status := some .unaffected }]

/-- What is rebuilt of the module. -/
def untold (module : Text) : History where
  module := module
  packages := [module]
  complete := false

def needlessSpanBytes (module : Text) : List UInt8 :=
  Utf8.encode (Json.renderAt 0 (Advisory.toJson none [needlessSpan module]))

/-- The only file is the advisory of the module. -/
def onlyNeedlessSpan (module : Text) (path : String) : Option (List UInt8) :=
  if path = "./advisory.json" then some (needlessSpanBytes module) else none

def Ending.stderr? : Ending → Option (List String)
  | .finished output => some output.stderr
  | _ => none

theorem exists_of_stderr? {ending : Ending} {lines : List String} (h : ending.stderr? = some lines) :
    ∃ output, ending = .finished output ∧ output.stderr = lines := by
  cases ending with
  | finished output => exact ⟨output, rfl, Option.some.inj h⟩
  | _ => exact absurd h nofun

def warnings : List String :=
  ["WARNING | cve_ranges.core.timeline | Range '1'..'' with status unaffected is not " ++
      "representable against default unaffected",
    "WARNING | cve_ranges.core.usecases.reconstruct_timeline | m: some ranges are not " ++
      "representable against default unaffected"]

theorem run_shows_client_needlessSpan :
    clientResponses [("CVE_RANGES_LINT", "off")]
        (.reconstruct ⟨"advisory.json", needlessSpanBytes "m"⟩) =
      [.done, .answered (.histories [untold "m"])] ∧
    ∃ output, run [("CVE_RANGES_LINT", "off")] (onlyNeedlessSpan "m")
        ["--log-level", "WARNING", "reconstruct", "./advisory.json"] = .finished output ∧
      output.code = 1 ∧
      (∀ name, File.json ⟨name, Utf8.encode (printed output.stdout).toList⟩ =
        .ok (Report.toJson [untold "m"])) ∧
      output.stderr = warnings ++ ["Not representable: m"] := by
  have hsettings : Settings.read [("CVE_RANGES_LINT", "off")] [] = .pass { lint := false } := by
    decide +kernel
  have hparse : parse ["--log-level", "WARNING", "reconstruct", "./advisory.json"] =
      some ⟨some 30, .document .reconstruct "./advisory.json"⟩ := by decide +kernel
  have hcontent : onlyNeedlessSpan "m" "./advisory.json" = some (needlessSpanBytes "m") := rfl
  have hfile : File.reconstruct .unaffected ⟨"advisory.json", needlessSpanBytes "m"⟩ =
      .ok [untold "m"] := by decide +kernel
  have hclient : clientResponses [("CVE_RANGES_LINT", "off")]
      (.reconstruct ⟨"advisory.json", needlessSpanBytes "m"⟩) =
        [.done, .answered (.histories [untold "m"])] := by
    rw [clientResponses_eq hsettings, Operation.answer, hfile]
    rfl
  have hstderr : (run [("CVE_RANGES_LINT", "off")] (onlyNeedlessSpan "m")
      ["--log-level", "WARNING", "reconstruct", "./advisory.json"]).stderr? =
        some (warnings ++ ["Not representable: m"]) := by decide +kernel
  obtain ⟨response, hresponse, hshows⟩ := run_shows_client hparse hcontent hsettings
  have hwhole : (Report.toJson [untold "m"]).isWhole = true := by decide +kernel
  have hpath : tidyPath "./advisory.json" = "advisory.json" := by decide +kernel
  rw [hpath, Task.operation, hclient] at hresponse
  obtain rfl := List.head_eq_of_cons_eq (List.tail_eq_of_cons_eq hresponse)
  rcases hshows with ⟨e, he, -⟩ | ⟨answer, product, hanswer, hproduct, hprints⟩
  · cases he
  · obtain rfl := Response.answered.inj hanswer
    obtain rfl := Option.some.inj hproduct
    obtain ⟨output, hrun, -, hcode, hprinted, -⟩ := hprints hwhole
    obtain ⟨_, hsame, hlines⟩ := exists_of_stderr? hstderr
    obtain rfl := Ending.finished.inj (hrun.symm.trans hsame)
    exact ⟨hclient, output, hrun, hcode, hprinted, hlines⟩

/-- Of a name with a control sequence only the rest is shown. -/
theorem run_hides_control_sequence :
    clientResponses [] (.reconstruct ⟨"advisory.json", needlessSpanBytes "\x1b[1mm"⟩) =
      [.done, .answered (.histories [untold "\x1b[1mm"])] ∧
    ∃ output, run [] (onlyNeedlessSpan "\x1b[1mm") ["reconstruct", "./advisory.json"] =
        .finished output ∧
      output.stderr = ["Not representable: m"] ∧
      ∀ line ∈ output.stderr, ¬ "\x1b[1mm".toList <:+: line.toList := by
  have hsettings : Settings.read [] [] = .pass {} := by decide +kernel
  have hfile : File.reconstruct .unaffected ⟨"advisory.json", needlessSpanBytes "\x1b[1mm"⟩ =
      .ok [untold "\x1b[1mm"] := by decide +kernel
  have hstderr : (run [] (onlyNeedlessSpan "\x1b[1mm") ["reconstruct", "./advisory.json"]).stderr? =
      some ["Not representable: m"] := by decide +kernel
  obtain ⟨output, hrun, hlines⟩ := exists_of_stderr? hstderr
  refine ⟨?_, output, hrun, hlines, ?_⟩
  · rw [clientResponses_eq hsettings, Operation.answer, hfile]
    rfl
  · rw [hlines, List.forall_mem_singleton]
    decide

end NeedlessSpan

end AffectedVersions.CommandLine
