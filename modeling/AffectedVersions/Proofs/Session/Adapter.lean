import AffectedVersions.Proofs.Session.Opening

/-! The document adapter of a client is opened and released in turn. -/
namespace AffectedVersions

namespace Note

/-- Whether the note tells of the document adapter's life. -/
def isLifecycle : Note → Bool
  | .adapterOpened _ | .adapterReleased => true
  | _ => false

def lifecycle (notes : List Note) : List Note := notes.filter isLifecycle

@[simp] theorem lifecycle_append (first second : List Note) :
    lifecycle (first ++ second) = lifecycle first ++ lifecycle second :=
  List.filter_append first second

theorem lifecycle_flatMap_eq_nil {α : Type} {items : List α} {notes : α → List Note}
    (h : ∀ a ∈ items, lifecycle (notes a) = []) : lifecycle (items.flatMap notes) = [] := by
  unfold lifecycle at *
  rw [List.filter_flatMap, List.flatMap_eq_nil_iff]
  exact h

end Note

open Note

theorem Timeline.lifecycle_notes (t : Timeline) : lifecycle t.notes = [] := by
  unfold Timeline.notes
  split_ifs <;> rfl

theorem Span.lifecycle_notes (s : Span) (default : Status) : lifecycle (s.notes default) = [] := by
  unfold Span.notes
  split_ifs
  · rfl
  · cases s.constraintError? <;> rfl
  · rfl

theorem Reading.lifecycle_notes (spans : List Span) (default : Option Status) :
    lifecycle (Reading.notes spans default) = [] :=
  lifecycle_flatMap_eq_nil fun s _ => s.lifecycle_notes _

theorem VersionRecord.lifecycle_notes (r : VersionRecord) : lifecycle r.notes = [] := by
  unfold VersionRecord.notes
  split_ifs <;> rfl

theorem Advisory.lifecycle_notes (file : String) (records : List AffectedRecord) :
    lifecycle (Advisory.notes file records) = [] :=
  lifecycle_flatMap_eq_nil fun _ _ => lifecycle_flatMap_eq_nil fun v _ => v.lifecycle_notes

namespace History

theorem lifecycle_conversionNotes (h : History) : lifecycle h.conversionNotes = [] := by
  rw [conversionNotes, lifecycle_append, h.events.lifecycle_notes]
  rfl

theorem lifecycle_convertAllNotes (file : String) (modules : List History) :
    lifecycle (convertAllNotes file modules) = [] :=
  lifecycle_flatMap_eq_nil fun h _ => h.lifecycle_conversionNotes

theorem lifecycle_checkNotes (lint : Bool) (h : History) : lifecycle (h.checkNotes lint) = [] := by
  rw [checkNotes, lifecycle_append, lifecycle_append, h.events.lifecycle_notes,
    Reading.lifecycle_notes]
  split_ifs <;> rfl

theorem lifecycle_checkAllNotes (lint : Bool) (file : String) (modules : List History) :
    lifecycle (checkAllNotes lint file modules) = [] := by
  have hmodules : lifecycle (modules.flatMap (checkNotes lint)) = [] :=
    lifecycle_flatMap_eq_nil fun h _ => h.lifecycle_checkNotes lint
  rw [checkAllNotes, lifecycle_append]
  change lifecycle (modules.flatMap (checkNotes lint)) ++ [] = []
  rw [hmodules]
  rfl

end History

namespace Entry

theorem lifecycle_reconstructionNotes (assumed : Status) (e : Entry) :
    lifecycle (e.reconstructionNotes assumed) = [] := by
  rw [reconstructionNotes, lifecycle_append, Reading.lifecycle_notes]
  split_ifs <;> rfl

theorem lifecycle_reconstructAllNotes (assumed : Status) (file : String) (entries : List Entry) :
    lifecycle (reconstructAllNotes assumed file entries) = [] :=
  lifecycle_flatMap_eq_nil fun e _ => e.lifecycle_reconstructionNotes assumed

end Entry

namespace File

variable (f : File)

theorem lifecycle_reportNotes {next : List History → List Note}
    (h : ∀ modules, lifecycle (next modules) = []) : lifecycle (f.reportNotes next) = [] := by
  unfold reportNotes
  cases f.report with
  | ok r =>
    rw [lifecycle_append, h]
    rfl
  | error e => rfl

theorem lifecycle_advisoryNotes {next : List Entry → List Note}
    (h : ∀ entries, lifecycle (next entries) = []) : lifecycle (f.advisoryNotes next) = [] := by
  unfold advisoryNotes
  cases f.advisory with
  | ok records =>
    rw [lifecycle_append, h, Advisory.lifecycle_notes]
    rfl
  | error e => rfl

end File

/-- What an operation notes itself says nothing of the adapter. -/
theorem Operation.lifecycle_notes (operation : Operation) (settings : Settings) :
    lifecycle (operation.notes settings) = [] := by
  cases operation with
  | coverage events => exact events.lifecycle_notes
  | reading span default => exact Reading.lifecycle_notes _ _
  | convert f | convertEntries f =>
    exact f.lifecycle_reportNotes (History.lifecycle_convertAllNotes f.name)
  | reconstruct f =>
    exact f.lifecycle_advisoryNotes (Entry.lifecycle_reconstructAllNotes _ f.name)
  | check f => exact f.lifecycle_reportNotes (History.lifecycle_checkAllNotes _ f.name)
  | unopened reason => rfl

namespace Session

variable {s : Session} {settings : Settings}

/-- Whether there is a client that holds its document adapter. -/
def holdsAdapter (s : Session) : Bool := s.client.any (·.adapter.isSome)

theorem IsOpen.client_eq (h : s.IsOpen settings) :
    s.client = some ⟨settings, if s.holdsAdapter then some (.ofSettings settings) else none⟩ := by
  obtain ⟨⟨_, adapter⟩, hc, rfl, hsettled⟩ := h
  rw [holdsAdapter, hc]
  cases adapter with
  | none => rfl
  | some documents =>
    have hmade := hsettled documents rfl
    rw [hmade]
    rfl

section Steps

variable {keywords : Members} {refusal : Refusal} {operation : Operation}

theorem notes_connect_of_ok (h : Client.settings? s.environment keywords = .ok settings) :
    s.notes (.connect keywords) = [.adapterOpened settings.collectionUrl] := by
  simp only [notes, h, Adapter.ofSettings]

theorem notes_connect_of_error (h : Client.settings? s.environment keywords = .error refusal) :
    s.notes (.connect keywords) = [] := by
  simp only [notes, h]

theorem holdsAdapter_step_close (s : Session) : (s.step .close).holdsAdapter = false := by
  unfold holdsAdapter step
  cases s.client <;> rfl

theorem notes_close (h : s.IsOpen settings) :
    s.notes .close = if s.holdsAdapter then [.adapterReleased] else [] := by
  simp only [notes, h.client_eq]
  cases s.holdsAdapter <;> rfl

theorem notes_close_step_close (s : Session) : (s.step .close).notes .close = [] := by
  unfold notes step
  cases s.client <;> rfl

theorem holdsAdapter_step_ask (h : s.IsOpen settings) (hdoc : operation.usesDocuments) :
    (s.step (.ask operation)).holdsAdapter = true := by
  have hclient : (s.step (.ask operation)).client = s.client.map (·.acquire.2) := by
    simp only [step, hdoc, if_true]
  rw [holdsAdapter, hclient, h.client_eq, Option.map_some, Option.any_some, Client.adapter_acquire]
  rfl

theorem notes_ask (h : s.IsOpen settings) (hdoc : operation.usesDocuments) :
    s.notes (.ask operation) =
      (if s.holdsAdapter then [] else [.adapterOpened settings.collectionUrl]) ++
        operation.notes settings := by
  simp only [notes, hdoc, if_true, h.client_eq]
  cases s.holdsAdapter <;> rfl

theorem step_ask_of_not_usesDocuments (hdoc : operation.usesDocuments = false) :
    s.step (.ask operation) = s := by
  simp only [step, hdoc, Bool.false_eq_true, if_false]

theorem notes_ask_of_not_usesDocuments (h : s.IsOpen settings)
    (hdoc : operation.usesDocuments = false) :
    s.notes (.ask operation) = operation.notes settings := by
  simp only [notes, hdoc, Bool.false_eq_true, if_false, h.client_eq]
  rfl

end Steps

/-- The notes of all requests, without those of a close at the end. -/
def log (s : Session) : List Request → List Note
  | [] => []
  | r :: rest => s.notes r ++ (s.step r).log rest

theorem journal_eq_log (s : Session) (requests : List Request) :
    s.journal requests = s.log requests ++ (s.run requests).notes .close := by
  induction requests generalizing s with
  | nil => rfl
  | cons r rest ih =>
    rw [journal, log, List.append_assoc, ih]
    rfl

/-- The notes of `n` adapters, each of which was opened and then released. -/
def rounds (url : Option Text) (n : Nat) : List Note :=
  (List.replicate n [.adapterOpened url, .adapterReleased]).flatten

theorem rounds_add (url : Option Text) (m n : Nat) :
    rounds url (m + n) = rounds url m ++ rounds url n := by
  simp only [rounds, List.replicate_add, List.flatten_append]

/-- The notes of the round that is under way. -/
def begun (s : Session) (url : Option Text) : List Note :=
  if s.holdsAdapter then [.adapterOpened url] else []

theorem begun_step_close (s : Session) (url : Option Text) : (s.step .close).begun url = [] := by
  rw [begun, holdsAdapter_step_close]
  rfl

theorem begun_append_notes {r : Request} (hopen : s.IsOpen settings)
    (hone : ∀ keywords, r = .connect keywords → s.response r ≠ .done) :
    ∃ n, s.begun settings.collectionUrl ++ lifecycle (s.notes r) =
      rounds settings.collectionUrl n ++ (s.step r).begun settings.collectionUrl := by
  cases r with
  | connect keywords =>
    refine ⟨0, ?_⟩
    cases hconnect : Client.settings? s.environment keywords with
    | ok settings => exact absurd (response_connect_of_ok hconnect) (hone keywords rfl)
    | error refusal =>
      rw [step_connect_of_error hconnect, notes_connect_of_error hconnect]
      exact List.append_nil _
  | setEnvironment env => exact ⟨0, List.append_nil _⟩
  | close =>
    refine ⟨if s.holdsAdapter then 1 else 0, ?_⟩
    rw [notes_close hopen, begun_step_close, begun]
    cases s.holdsAdapter <;> rfl
  | ask operation =>
    refine ⟨0, ?_⟩
    cases hdoc : operation.usesDocuments with
    | false =>
      rw [notes_ask_of_not_usesDocuments hopen hdoc, operation.lifecycle_notes,
        step_ask_of_not_usesDocuments hdoc]
      exact List.append_nil _
    | true =>
      rw [notes_ask hopen hdoc, lifecycle_append, operation.lifecycle_notes, begun, begun,
        holdsAdapter_step_ask hopen hdoc]
      cases s.holdsAdapter <;> rfl

section Run

variable {requests : List Request}

theorem IsOpen.run (hopen : s.IsOpen settings)
    (hone : ∀ i keywords, ¬ s.OpensAt requests i keywords) : (s.run requests).IsOpen settings := by
  have hstart : (s.run (requests.take 0)).IsOpen settings := hopen
  have hlast := hstart.run_take (Nat.zero_le requests.length) fun k keywords _ _ => hone k keywords
  rwa [List.take_length] at hlast

theorem begun_append_log (hopen : s.IsOpen settings)
    (hone : ∀ i keywords, ¬ s.OpensAt requests i keywords) :
    ∃ n, s.begun settings.collectionUrl ++ lifecycle (s.log requests) =
      rounds settings.collectionUrl n ++ (s.run requests).begun settings.collectionUrl := by
  induction requests generalizing s with
  | nil => exact ⟨0, List.append_nil _⟩
  | cons r rest ih =>
    have hfirst : ∀ keywords, r = .connect keywords → s.response r ≠ .done := by
      rintro keywords rfl hdone
      exact hone 0 keywords ⟨rfl, congrArg some hdone⟩
    obtain ⟨m, hm⟩ := begun_append_notes hopen hfirst
    obtain ⟨n, hn⟩ := ih (hopen.step hfirst) fun i keywords hopens => hone (i + 1) keywords hopens
    refine ⟨m + n, ?_⟩
    rw [log, lifecycle_append, ← List.append_assoc, hm, List.append_assoc, hn, rounds_add,
      List.append_assoc]
    rfl

theorem begun_append_journal (hopen : s.IsOpen settings)
    (hone : ∀ i keywords, ¬ s.OpensAt requests i keywords) :
    ∃ n, s.begun settings.collectionUrl ++ lifecycle (s.journal requests) =
      rounds settings.collectionUrl n := by
  obtain ⟨m, hm⟩ := begun_append_log hopen hone
  obtain ⟨n, hn⟩ := begun_append_notes (r := .close) (hopen.run hone) nofun
  rw [begun_step_close, List.append_nil] at hn
  refine ⟨m + n, ?_⟩
  rw [journal_eq_log, lifecycle_append, ← List.append_assoc, hm, List.append_assoc, hn, rounds_add]

end Run

/-- How the requests of a client with these settings treat its document adapter. -/
structure HandlesAdapter (s : Session) (settings : Settings) : Prop where
  close : s.notes .close = if s.holdsAdapter then [.adapterReleased] else []
  close_released : (s.step .close).holdsAdapter = false
  close_again : (s.step .close).notes .close = []
  use : ∀ operation : Operation, operation.usesDocuments →
    s.notes (.ask operation) =
        (if s.holdsAdapter then [] else [.adapterOpened settings.collectionUrl]) ++
          operation.notes settings ∧
      lifecycle (operation.notes settings) = [] ∧ (s.step (.ask operation)).holdsAdapter = true
  other : ∀ operation : Operation, operation.usesDocuments = false →
    s.step (.ask operation) = s ∧ lifecycle (s.notes (.ask operation)) = []
  environment : ∀ env, (s.step (.setEnvironment env)).holdsAdapter = s.holdsAdapter ∧
    s.notes (.setEnvironment env) = []

theorem handlesAdapter (h : s.IsOpen settings) : s.HandlesAdapter settings where
  close := notes_close h
  close_released := holdsAdapter_step_close s
  close_again := notes_close_step_close s
  use operation hdoc :=
    ⟨notes_ask h hdoc, operation.lifecycle_notes settings, holdsAdapter_step_ask h hdoc⟩
  other operation hdoc := by
    refine ⟨step_ask_of_not_usesDocuments hdoc, ?_⟩
    rw [notes_ask_of_not_usesDocuments h hdoc, operation.lifecycle_notes]
  environment _ := ⟨rfl, rfl⟩

/-- A client that is opened holds its adapter. From then on, whatever is asked of it, adapters are
opened and released in turn, and the close at the end releases the last one. -/
theorem adapter_bracketed {keywords : Members} {requests : List Request}
    (hopen : Client.settings? s.environment keywords = .ok settings)
    (hone : ∀ i later, ¬ (s.step (.connect keywords)).OpensAt requests i later) :
    let now := s.run (.connect keywords :: requests)
    now.HandlesAdapter settings ∧
      (∃ n, lifecycle (s.log (.connect keywords :: requests)) =
        rounds settings.collectionUrl n ++
          if now.holdsAdapter then [.adapterOpened settings.collectionUrl] else []) ∧
      ∃ n, lifecycle (s.journal (.connect keywords :: requests)) =
        rounds settings.collectionUrl (n + 1) := by
  have hnotes : lifecycle (s.notes (.connect keywords)) =
      (s.step (.connect keywords)).begun settings.collectionUrl := by
    rw [notes_connect_of_ok hopen, step_connect_of_ok hopen]
    rfl
  have hsettings : (s.step (.connect keywords)).IsOpen settings := isOpen_step_connect hopen
  have hnow : (s.run (.connect keywords :: requests)).IsOpen settings := hsettings.run hone
  refine ⟨handlesAdapter hnow, ?_, ?_⟩
  · obtain ⟨n, hn⟩ := begun_append_log hsettings hone
    exact ⟨n, by rw [log, lifecycle_append, hnotes, hn]; rfl⟩
  · obtain ⟨n, hn⟩ := begun_append_journal hsettings hone
    rw [← hnotes, ← lifecycle_append] at hn
    cases n with
    | zero =>
      rw [notes_connect_of_ok hopen] at hn
      exact absurd hn (List.cons_ne_nil _ _)
    | succ n => exact ⟨n, hn⟩

end Session

def emptyFile : File := ⟨"report.json", []⟩

/-- The client is asked of a file without a document before and after it is closed. -/
def askingAgain : List Request :=
  [.ask (.check emptyFile), .close, .close, .connect [("lint", .str "maybe")],
    .ask (.reading none none), .ask (.convert emptyFile)]

theorem not_opensAt_askingAgain (i : Nat) (later : Members) :
    ¬ (({} : Session).step (.connect [])).OpensAt askingAgain i later := by
  have hrefused : Client.settings? [] [("lint", .str "maybe")] =
      .error (.badSettings [⟨.unreadableFlag, [.name "lint"]⟩]) := by decide +kernel
  intro hopens
  match i with
  | 0 | 1 | 2 | 4 | 5 | _ + 6 => exact absurd hopens.1 nofun
  | 3 =>
    have hlater : .connect [("lint", .str "maybe")] = Request.connect later :=
      Option.some.inj hopens.1
    obtain rfl := Request.connect.inj hlater
    have hdone := hopens.response
    rw [Session.response_connect_of_error hrefused] at hdone
    exact Response.noConfusion hdone

theorem Session.adapter_bracketed_askingAgain :
    Client.settings? [] [] = .ok {} ∧
      (∀ i later, ¬ (({} : Session).step (.connect [])).OpensAt askingAgain i later) ∧
      (({} : Session).run (.connect [] :: askingAgain)).HandlesAdapter {} ∧
      lifecycle (({} : Session).journal (.connect [] :: askingAgain)) = Session.rounds none 2 := by
  have hopen : Client.settings? [] [] = .ok {} := by decide +kernel
  have hall := Session.adapter_bracketed hopen not_opensAt_askingAgain
  exact ⟨hopen, not_opensAt_askingAgain, hall.1, by decide +kernel⟩

end AffectedVersions
