import AffectedVersions.Proofs.Document.Printing
import AffectedVersions.Proofs.Text.Plain

/-! What a command on a document prints, apart from the notes that are shown with it. -/
namespace AffectedVersions

section Except

variable {ε α β : Type} {g : α → β} {x : Except ε α}

theorem except_map_eq_ok_iff {b : β} : x.map g = .ok b ↔ ∃ a, x = .ok a ∧ g a = b := by
  cases x <;> simp [Except.map]

theorem except_map_eq_error_iff {e : ε} : x.map g = .error e ↔ x = .error e := by
  cases x <;> simp [Except.map]

theorem except_bind_eq_ok_iff {next : α → Except ε β} {b : β} :
    x.bind next = .ok b ↔ ∃ a, x = .ok a ∧ next a = .ok b := by
  cases x <;> simp [Except.bind]

end Except

namespace CommandLine

def IsErrorLine (line : String) : Prop := "Error: ".toList <+: line.toList

theorem isErrorLine_errorLine (message : String) : IsErrorLine (errorLine message).escaped := by
  rw [IsErrorLine, errorLine, Text.plain_append (by decide), Text.escaped_ofString_append,
    String.toList_append]
  exact List.prefix_append _ _

/-- Lines of other kinds are told apart by their first two characters. -/
theorem not_isErrorLine_append {start : String} (hlength : 2 ≤ start.toList.length)
    (hstart : start.toList.take 2 ≠ ['E', 'r']) (t : Text) :
    ¬ IsErrorLine (Text.ofString start ++ t).escaped := by
  rintro ⟨rest, hrest⟩
  rw [Text.escaped_ofString_append, String.toList_append] at hrest
  have htake := congrArg (List.take 2) hrest
  rw [List.take_append_of_le_length hlength] at htake
  exact hstart htake.symm

theorem not_isErrorLine_incompleteLine (modules : List Text) :
    ¬ IsErrorLine (incompleteLine modules).escaped := by
  rw [incompleteLine, Text.plain_append (by decide)]
  exact not_isErrorLine_append (by decide) (by decide) _

theorem take_name (l : Level) : 2 ≤ l.name.toList.length ∧ l.name.toList.take 2 ≠ ['E', 'r'] := by
  cases l <;> decide

theorem not_isErrorLine_render (n : Note) : ¬ IsErrorLine n.render.escaped := by
  obtain ⟨hlength, hname⟩ := take_name n.level
  simp only [Note.render, Text.append_assoc]
  exact not_isErrorLine_append hlength hname _

theorem exists_shown_eq (threshold : Option Nat) (notes : List Note) :
    ∃ seen : List Note, shown threshold notes = seen.map Note.render := by
  unfold shown
  split_ifs
  · exact ⟨_, rfl⟩
  · exact ⟨[], rfl⟩

/-- The verdict and the module, both timelines where they differ, and the issues. -/
def listing (r : RoundTrip) : List Text :=
  ((if r.ok then "OK   " else "FAIL ") ++ r.module) ::
    (if r.isMatch then []
    else ["  original:      " ++ r.original.render, "  reconstructed: " ++ r.reconstructed.render]) ++
      r.issues.map fun issue => ("  - " : Text) ++ issue.message

theorem resultLines_eq (r : RoundTrip) : resultLines r = listing r := by
  have hverdict : pad 4 (if r.ok then "OK" else "FAIL") ++ " " = if r.ok then "OK   " else "FAIL " := by
    cases r.ok <;> decide
  unfold resultLines listing
  rw [hverdict]
  rfl

/-- What there is to print: a document, with whether all its modules pass, or the results of a check. -/
inductive Product where
  | document (value : Json) (passed : Bool)
  | results (results : List RoundTrip)

namespace Product

def passed : Product → Bool
  | document _ passed => passed
  | results rs => rs.all RoundTrip.ok

/-- There is a character for each letter that is to be printed. -/
def IsWhole : Product → Prop
  | document value _ => value.isWhole = true
  | results rs => ∀ line ∈ rs.flatMap listing, line.isWhole = true

/-- A file that holds the lines is read as the document, or else they list the results. -/
def IsPrintedAs (lines : List String) : Product → Prop
  | document value _ => ∀ name, File.json ⟨name, Utf8.encode (printed lines).toList⟩ = .ok value
  | results rs => lines.map Text.ofString = rs.flatMap listing

def lines? : Product → List (Option String)
  | document value _ => [documentLine? value]
  | results rs => (rs.flatMap resultLines).map Text.whole?

theorem none_mem_lines? {product : Product} (h : ¬ product.IsWhole) : none ∈ product.lines? := by
  cases product with
  | document value passed =>
    rw [IsWhole] at h
    rw [lines?, documentLine?, if_neg h]
    exact List.mem_singleton_self none
  | results rs =>
    simp only [IsWhole, not_forall] at h
    obtain ⟨line, hline, hhalf⟩ := h
    rw [lines?, List.flatMap_congr fun r _ => resultLines_eq r]
    exact List.mem_map.mpr ⟨line, hline, Option.not_isSome_iff_eq_none.mp hhalf⟩

end Product

/-- What a task that does not fail prints and remarks on the other output. -/
structure Printout where
  product : Product
  remarks : List Text

/-- The names of the modules that could not be rebuilt. -/
def incomplete (histories : List History) : List Text :=
  (histories.filter (!·.complete)).map History.module

theorem incomplete_eq_nil_iff {histories : List History} :
    incomplete histories = [] ↔ histories.all History.complete = true := by
  simp [incomplete]

def printout (s : Settings) (f : File) : Task → Except DocumentError Printout
  | .convert => f.convert.map fun entries => ⟨.document (Advisory.toJson s.collectionUrl entries) true, []⟩
  | .reconstruct => (f.reconstruct s.assumedDefault).map fun histories =>
    ⟨.document (Report.toJson histories) (histories.all History.complete),
      if incomplete histories = [] then [] else [incompleteLine (incomplete histories)]⟩
  | .check => (f.check s.lint).map fun results => ⟨.results results, []⟩

/-- All notes of a command on a document. -/
def allNotes (s : Settings) (f : File) (task : Task) : List Note :=
  .adapterOpened s.collectionUrl :: taskNotes s f task ++ [.adapterReleased]

/-- A command on a document depends on its task in what is printed and remarked only. -/
theorem runDocument_eq (threshold : Option Nat) (s : Settings) (task : Task) (f : File) :
    runDocument threshold s task f =
      match printout s f task with
      | .error e =>
        { code := 1
          shown := shown threshold [.adapterOpened s.collectionUrl] ++
            errorLine e.message :: shown threshold [.adapterReleased]
          journal := taken threshold (allNotes s f task) }
      | .ok p =>
        { code := if p.product.passed then 0 else 1
          lines := p.product.lines?
          shown := shown threshold (allNotes s f task)
          remarks := p.remarks
          journal := taken threshold (allNotes s f task) } := by
  cases task with
  | convert =>
    unfold runDocument printout
    cases f.convert with
    | error e => rfl
    | ok entries => simp [Except.map, allNotes, Adapter.ofSettings, Product.passed, Product.lines?]
  | reconstruct =>
    unfold runDocument printout
    cases f.reconstruct s.assumedDefault with
    | error e => rfl
    | ok histories =>
      have hcode : (if (Product.document (Report.toJson histories)
          (histories.all History.complete)).passed then 0 else 1) =
            if incomplete histories = [] then 0 else 1 :=
        if_congr incomplete_eq_nil_iff.symm rfl rfl
      dsimp only [Except.map]
      rw [hcode]
      rfl
  | check =>
    unfold runDocument printout
    cases f.check s.lint with
    | error e => rfl
    | ok results => simp [Except.map, allNotes, Adapter.ofSettings, Product.passed, Product.lines?]

/-- What can be encoded as a whole is written as a whole. -/
theorem Draft.ending_of_lines {d : Draft} {lines : List String} (h : d.lines = lines.map some) :
    d.ending = .finished ⟨d.code, lines, (d.shown ++ d.remarks).map Text.escaped, d.journal⟩ := by
  have hall : ∀ line ∈ lines.map some, line.isSome = true :=
    List.forall_mem_map.mpr fun _ _ => rfl
  unfold ending
  rw [h, if_pos (List.all_eq_true.mpr hall), List.takeWhile_eq_self_iff.mpr hall, List.filterMap_map]
  simp

theorem Draft.ending_of_none_mem {d : Draft} (h : none ∈ d.lines) :
    ∃ output, d.ending = .unencodable output := by
  refine ⟨_, if_neg fun hall => ?_⟩
  exact absurd (List.all_eq_true.mp hall none h) Bool.false_ne_true

def Output.HasErrorLine (o : Output) : Prop := ∃ line ∈ o.stderr, IsErrorLine line

section Run

variable {s : Settings} {task : Task} {f : File} {p : Printout}

theorem not_isErrorLine_of_mem_remarks (h : printout s f task = .ok p) {line : Text}
    (hline : line ∈ p.remarks) : ¬ IsErrorLine line.escaped := by
  cases task with
  | convert | check =>
    obtain ⟨_, -, rfl⟩ := except_map_eq_ok_iff.mp h
    exact absurd hline List.not_mem_nil
  | reconstruct =>
    obtain ⟨histories, -, rfl⟩ := except_map_eq_ok_iff.mp h
    dsimp only at hline
    split_ifs at hline
    · exact absurd hline List.not_mem_nil
    · obtain rfl := List.mem_singleton.mp hline
      exact not_isErrorLine_incompleteLine _

theorem exists_isPrintedAs (h : printout s f task = .ok p) (hwhole : p.product.IsWhole) :
    ∃ lines : List String, p.product.lines? = lines.map some ∧ p.product.IsPrintedAs lines := by
  have hdocument : ∀ {value : Json} {passed : Bool}, value.IsReadable → value.isWhole = true →
      ∃ lines : List String, (Product.document value passed).lines? = lines.map some ∧
        (Product.document value passed).IsPrintedAs lines := by
    intro value passed hreadable hvalue
    refine ⟨[value.render], ?_, fun name => File.json_printed name hreadable hvalue⟩
    rw [Product.lines?, documentLine?, if_pos hvalue]
    rfl
  cases task with
  | convert =>
    obtain ⟨entries, -, rfl⟩ := except_map_eq_ok_iff.mp h
    exact hdocument (Advisory.isReadable_toJson _ _) hwhole
  | reconstruct =>
    obtain ⟨histories, -, rfl⟩ := except_map_eq_ok_iff.mp h
    exact hdocument (Report.isReadable_toJson _) hwhole
  | check =>
    obtain ⟨results, -, rfl⟩ := except_map_eq_ok_iff.mp h
    obtain ⟨lines, hlines⟩ := Text.exists_map_ofString hwhole
    refine ⟨lines, ?_, hlines⟩
    rw [Product.lines?, List.flatMap_congr fun r _ => resultLines_eq r, ← hlines, List.map_map]
    exact List.map_congr_left fun line _ => Text.whole?_ofString line

theorem ending_of_error (threshold : Option Nat) {e : DocumentError}
    (h : printout s f task = .error e) :
    ∃ output, (runDocument threshold s task f).ending = .finished output ∧ output.code = 1 ∧
      output.stdout = [] ∧ output.HasErrorLine := by
  rw [runDocument_eq, h]
  refine ⟨_, Draft.ending_of_lines rfl, rfl, rfl, _, ?_, isErrorLine_errorLine e.message⟩
  simp

theorem ending_of_ok (threshold : Option Nat) (h : printout s f task = .ok p)
    (hwhole : p.product.IsWhole) :
    ∃ output, (runDocument threshold s task f).ending = .finished output ∧ ¬ output.HasErrorLine ∧
      output.code = (if p.product.passed then 0 else 1) ∧ p.product.IsPrintedAs output.stdout ∧
        ∃ notes : List Note, output.stderr = (notes.map Note.render ++ p.remarks).map Text.escaped := by
  obtain ⟨lines, hlines, hprinted⟩ := exists_isPrintedAs h hwhole
  obtain ⟨notes, hnotes⟩ := exists_shown_eq threshold (allNotes s f task)
  rw [runDocument_eq, h, hnotes]
  refine ⟨_, Draft.ending_of_lines hlines, ?_, rfl, hprinted, notes, rfl⟩
  rintro ⟨line, hline, herror⟩
  obtain ⟨text, htext, rfl⟩ := List.mem_map.mp hline
  obtain hnote | hremark := List.mem_append.mp htext
  · obtain ⟨n, -, rfl⟩ := List.mem_map.mp hnote
    exact not_isErrorLine_render n herror
  · exact not_isErrorLine_of_mem_remarks h hremark herror

theorem ending_of_not_isWhole (threshold : Option Nat) (h : printout s f task = .ok p)
    (hhalf : ¬ p.product.IsWhole) :
    ∃ output, (runDocument threshold s task f).ending = .unencodable output := by
  rw [runDocument_eq, h]
  exact Draft.ending_of_none_mem (Product.none_mem_lines? hhalf)

theorem run_eq_ending {env : Environment} {content? : String → Option (List UInt8)} {items : List String}
    {bytes : List UInt8} {threshold : Option Nat} {path : String}
    (hparse : parse items = some ⟨threshold, .document task path⟩)
    (hcontent : content? path = some bytes) (hsettings : Settings.read env [] = .pass s) :
    run env content? items = (runDocument threshold s task ⟨tidyPath path, bytes⟩).ending := by
  simp only [run, hparse, hcontent, hsettings]

end Run

end CommandLine

end AffectedVersions
