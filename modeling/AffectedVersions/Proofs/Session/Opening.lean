import AffectedVersions.Json.Printer
import AffectedVersions.Proofs.Settings.Source
import AffectedVersions.Session
import Mathlib

/-! What a client answers depends on how it was opened only. -/
namespace AffectedVersions

namespace Client

variable {c : Client}

/-- An adapter that is held was made from the settings. -/
def IsSettled (c : Client) : Prop := ∀ documents ∈ c.adapter, documents = .ofSettings c.settings

theorem isSettled_ofSettings (s : Settings) : (ofSettings s).IsSettled :=
  fun _ h => (Option.some.inj h).symm

theorem isSettled_release (c : Client) : c.release.IsSettled := nofun

theorem settings_acquire (c : Client) : c.acquire.2.settings = c.settings := by
  unfold acquire
  cases c.adapter <;> rfl

theorem adapter_acquire (c : Client) : c.acquire.2.adapter = some c.acquire.1 := by
  unfold acquire
  cases hadapter : c.adapter with
  | none => rfl
  | some documents => exact hadapter

/-- An adapter that is made again is the one that was released. -/
theorem IsSettled.acquire_eq (h : c.IsSettled) : c.acquire.1 = .ofSettings c.settings := by
  unfold acquire
  cases hadapter : c.adapter with
  | none => rfl
  | some documents => exact h documents hadapter

theorem IsSettled.acquire (h : c.IsSettled) : c.acquire.2.IsSettled := by
  intro documents hdocuments
  rw [adapter_acquire] at hdocuments
  rw [settings_acquire, ← h.acquire_eq]
  exact (Option.some.inj hdocuments).symm

end Client

namespace Session

variable {s t : Session} {settings : Settings}

theorem getElem?_responses (s : Session) (requests : List Request) (i : Nat) :
    (s.responses requests)[i]? = requests[i]?.map (s.run (requests.take i)).response := by
  induction requests generalizing s i with
  | nil => simp [responses]
  | cons r rest ih =>
    cases i with
    | zero => rfl
    | succ i =>
      have hrest := ih (s.step r) i
      simpa [responses, run] using hrest

theorem run_append (s : Session) (first second : List Request) :
    s.run (first ++ second) = (s.run first).run second := List.foldl_append

/-- A client with these settings is open, and if it holds an adapter, one that was made from them. -/
def IsOpen (s : Session) (settings : Settings) : Prop :=
  ∃ c, s.client = some c ∧ c.settings = settings ∧ c.IsSettled

section Connect

variable {keywords : Members} {refusal : Refusal}

theorem step_connect_of_ok (h : Client.settings? s.environment keywords = .ok settings) :
    s.step (.connect keywords) = { s with client := some (.ofSettings settings) } := by
  simp only [step, h]

theorem step_connect_of_error (h : Client.settings? s.environment keywords = .error refusal) :
    s.step (.connect keywords) = s := by
  simp only [step, h]

theorem response_connect_of_ok (h : Client.settings? s.environment keywords = .ok settings) :
    s.response (.connect keywords) = .done := by
  simp only [response, h]

theorem response_connect_of_error (h : Client.settings? s.environment keywords = .error refusal) :
    s.response (.connect keywords) = .refused refusal := by
  simp only [response, h]

theorem exists_settings_of_response (h : s.response (.connect keywords) = .done) :
    ∃ settings, Client.settings? s.environment keywords = .ok settings := by
  cases hopen : Client.settings? s.environment keywords with
  | ok settings => exact ⟨settings, rfl⟩
  | error refusal =>
    rw [response_connect_of_error hopen] at h
    exact Response.noConfusion h

theorem isOpen_step_connect (h : Client.settings? s.environment keywords = .ok settings) :
    (s.step (.connect keywords)).IsOpen settings := by
  rw [step_connect_of_ok h]
  exact ⟨_, rfl, rfl, Client.isSettled_ofSettings settings⟩

end Connect

theorem IsOpen.step {r : Request} (hopen : s.IsOpen settings)
    (h : ∀ keywords, r = .connect keywords → s.response r ≠ .done) : (s.step r).IsOpen settings := by
  obtain ⟨c, hc, hsettings, hsettled⟩ := hopen
  cases r with
  | connect keywords =>
    cases hconnect : Client.settings? s.environment keywords with
    | ok settings => exact absurd (response_connect_of_ok hconnect) (h keywords rfl)
    | error refusal =>
      rw [step_connect_of_error hconnect]
      exact ⟨c, hc, hsettings, hsettled⟩
  | setEnvironment env => exact ⟨c, hc, hsettings, hsettled⟩
  | close => exact ⟨c.release, congrArg (Option.map _) hc, hsettings, c.isSettled_release⟩
  | ask operation =>
    unfold Session.step
    dsimp only
    split_ifs
    · exact ⟨c.acquire.2, congrArg (Option.map _) hc, c.settings_acquire.trans hsettings,
        hsettled.acquire⟩
    · exact ⟨c, hc, hsettings, hsettled⟩

/-- The request at position `i` asks to open a client with these keywords, and a client is opened. -/
def OpensAt (s : Session) (requests : List Request) (i : Nat) (keywords : Members) : Prop :=
  requests[i]? = some (.connect keywords) ∧ (s.responses requests)[i]? = some .done

section Requests

variable {requests : List Request} {i : Nat} {keywords : Members}

theorem opensAt_of_response (h : requests[i]? = some (.connect keywords))
    (hdone : (s.run (requests.take i)).response (.connect keywords) = .done) :
    s.OpensAt requests i keywords := by
  refine ⟨h, ?_⟩
  rw [getElem?_responses, h, Option.map_some, hdone]

theorem OpensAt.response (h : s.OpensAt requests i keywords) :
    (s.run (requests.take i)).response (.connect keywords) = .done := by
  have hdone := h.2
  rw [getElem?_responses, h.1, Option.map_some] at hdone
  exact Option.some.inj hdone

theorem OpensAt.exists_settings (h : s.OpensAt requests i keywords) :
    ∃ settings, Client.settings? (s.run (requests.take i)).environment keywords = .ok settings ∧
      (s.run (requests.take (i + 1))).IsOpen settings := by
  obtain ⟨settings, hsettings⟩ := exists_settings_of_response h.response
  refine ⟨settings, hsettings, ?_⟩
  rw [List.take_add_one, h.1, run_append]
  exact isOpen_step_connect hsettings

theorem IsOpen.run_take {first last : Nat} (hopen : (s.run (requests.take first)).IsOpen settings)
    (hle : first ≤ last)
    (h : ∀ k keywords, first ≤ k → k < last → ¬ s.OpensAt requests k keywords) :
    (s.run (requests.take last)).IsOpen settings := by
  induction last, hle using Nat.le_induction with
  | base => exact hopen
  | succ n hn ih =>
    have hbefore := ih fun k keywords hk hlt => h k keywords hk (hlt.trans n.lt_succ_self)
    rw [List.take_add_one, run_append]
    cases hr : requests[n]? with
    | none => exact hbefore
    | some r =>
      apply hbefore.step
      intro keywords hconnect hdone
      subst hconnect
      exact h n keywords hn n.lt_succ_self (opensAt_of_response hr hdone)

end Requests

/-- An operation is answered from the settings alone, whether the adapter is held or made again. -/
theorem IsOpen.response_ask (h : s.IsOpen settings) (operation : Operation) :
    s.response (.ask operation) = .ofResult (operation.answer settings (.ofSettings settings)) := by
  obtain ⟨c, hc, rfl, hsettled⟩ := h
  simp only [response, hc, hsettled.acquire_eq]

/-- An operation gets the answer that it would get alone from a client freshly opened as the present
one was. Of the environment at that opening only the settings without a keyword count. -/
theorem getElem?_responses_of_opensAt {requests : List Request} {i j : Nat} {keywords : Members}
    {operation : Operation} {env : Environment}
    (hopen : s.OpensAt requests j keywords) (hlt : j < i)
    (hlast : ∀ k later, j < k → k < i → ¬ s.OpensAt requests k later)
    (hask : requests[i]? = some (.ask operation))
    (henv : ∀ name ∈ Settings.names, ¬ Client.IsGiven keywords name →
      Settings.ofEnvironment? env name =
        Settings.ofEnvironment? (s.run (requests.take j)).environment name) :
    ∃ answer, (s.responses requests)[i]? = some answer ∧
      ({ environment := env } : Session).responses [.connect keywords, .ask operation] =
        [.done, answer] := by
  obtain ⟨settings, hsettings, hafter⟩ := hopen.exists_settings
  have hnow : (s.run (requests.take i)).IsOpen settings :=
    hafter.run_take (Nat.succ_le_of_lt hlt) fun k later hk => hlast k later hk
  have hfresh : Client.settings? ({ environment := env } : Session).environment keywords =
      .ok settings := (Client.settings?_congr henv).trans hsettings
  have hanswer := (isOpen_step_connect hfresh).response_ask operation
  rw [← hnow.response_ask operation] at hanswer
  refine ⟨(s.run (requests.take i)).response (.ask operation), ?_, ?_⟩
  · rw [getElem?_responses, hask, Option.map_some]
  · simp only [responses, response_connect_of_ok hfresh, hanswer]

end Session

/-- A module whose only version cannot be read. -/
def unreadVersion : History := { module := "m", events := [⟨.fixed, "1"⟩] }

def unreadVersionFile : File where
  name := "report.json"
  bytes := Utf8.encode (Json.renderAt 0 (Report.toJson [unreadVersion]))

/-- A client is opened, two others cannot be opened, and it is closed before it is asked. -/
def reopening : List Request :=
  [.setEnvironment [("CVE_RANGES_LINT", "off")], .connect [("lint", .bool true)],
    .setEnvironment [("CVE_RANGES_LINT", "maybe")], .connect [("lint", .null)],
    .connect [("LINT", .bool false)], .close, .ask (.check unreadVersionFile)]

theorem opensAt_reopening :
    ({} : Session).OpensAt reopening 1 [("lint", .bool true)] := by
  have hsettings : Client.settings? [("CVE_RANGES_LINT", "off")] [("lint", .bool true)] =
      .ok {} := by decide +kernel
  exact Session.opensAt_of_response rfl (Session.response_connect_of_ok hsettings)

theorem not_opensAt_reopening (k : Nat) (later : Members) (hfirst : 1 < k) (hlast : k < 6) :
    ¬ ({} : Session).OpensAt reopening k later := by
  have hunread : Client.settings? [("CVE_RANGES_LINT", "maybe")] [("lint", .null)] =
      .error (.badSettings [⟨.unreadableFlag, [.name "lint"]⟩]) := by decide +kernel
  have hcapitals : Client.settings? [("CVE_RANGES_LINT", "maybe")] [("LINT", .bool false)] =
      .error (.unexpectedKeyword "LINT") := by decide +kernel
  intro hopen
  have hdone := hopen.response
  obtain rfl | rfl | rfl | rfl : k = 2 ∨ k = 3 ∨ k = 4 ∨ k = 5 := by omega
  · exact absurd hopen.1 nofun
  · obtain rfl := Request.connect.inj (Option.some.inj hopen.1)
    rw [Session.response_connect_of_error hunread] at hdone
    exact Response.noConfusion hdone
  · obtain rfl := Request.connect.inj (Option.some.inj hopen.1)
    rw [Session.response_connect_of_error hcapitals] at hdone
    exact Response.noConfusion hdone
  · exact absurd hopen.1 nofun

theorem isGiven_lint : Client.IsGiven [("lint", .bool true)] Settings.lintName :=
  ⟨.bool true, List.mem_singleton_self _, nofun⟩

theorem Session.getElem?_responses_of_opensAt_reopening :
    ({} : Session).OpensAt reopening 1 [("lint", .bool true)] ∧
      (∀ k later, 1 < k → k < 6 → ¬ ({} : Session).OpensAt reopening k later) ∧
      (({} : Session).responses reopening)[6]? =
        some (.answered (.roundTrips [unreadVersion.check true])) ∧
      ({ environment := [("CVE_RANGES_LINT", "maybe")] } : Session).responses
          [.connect [("lint", .bool true)], .ask (.check unreadVersionFile)] =
        [.done, .answered (.roundTrips [unreadVersion.check true])] := by
  have henv : ∀ name ∈ Settings.names, ¬ Client.IsGiven [("lint", .bool true)] name →
      Settings.ofEnvironment? [("CVE_RANGES_LINT", "maybe")] name =
        Settings.ofEnvironment? (({} : Session).run (reopening.take 1)).environment name := by
    intro name hname hnot
    have hlint : name ≠ Settings.lintName := fun h => hnot (h ▸ isGiven_lint)
    simp only [Settings.names, List.mem_cons, List.not_mem_nil, or_false] at hname
    rcases hname with rfl | rfl | rfl
    · decide +kernel
    · decide +kernel
    · exact absurd rfl hlint
  obtain ⟨answer, hanswer, hfresh⟩ := Session.getElem?_responses_of_opensAt opensAt_reopening
    (by decide) not_opensAt_reopening rfl henv
  have hsettings : Client.settings? [("CVE_RANGES_LINT", "maybe")] [("lint", .bool true)] =
      .ok {} := by decide +kernel
  have hcheck : unreadVersionFile.check true = .ok [unreadVersion.check true] := by
    decide +kernel
  have halone : answer = .answered (.roundTrips [unreadVersion.check true]) := by
    have hask := (Session.isOpen_step_connect (s := { environment := [("CVE_RANGES_LINT", "maybe")] })
      hsettings).response_ask (.check unreadVersionFile)
    rw [Operation.answer, hcheck] at hask
    rw [Session.responses, Session.responses, hask] at hfresh
    exact (List.head_eq_of_cons_eq (List.tail_eq_of_cons_eq hfresh)).symm
  subst halone
  exact ⟨opensAt_reopening, not_opensAt_reopening, hanswer, hfresh⟩

end AffectedVersions
