import AffectedVersions.Operation
import AffectedVersions.Proofs.Document.Reload
import AffectedVersions.Proofs.Layout.Pairing
import Mathlib

/-! An advisory states the spans without a status as affected, whatever the default is. -/
namespace AffectedVersions

theorem flatMap_eq_flatMap_iff_of_length_le {α β : Type} {xs : List α} {f g : α → List β}
    (h : ∀ a ∈ xs, (f a).length ≤ (g a).length) :
    xs.flatMap f = xs.flatMap g ↔ ∀ a ∈ xs, f a = g a := by
  induction xs with
  | nil => simp
  | cons a xs ih =>
    obtain ⟨ha, hxs⟩ := List.forall_mem_cons.mp h
    have hrest : (xs.flatMap f).length ≤ (xs.flatMap g).length := by
      rw [List.length_flatMap, List.length_flatMap]
      exact List.sum_le_sum hxs
    rw [List.flatMap_cons, List.flatMap_cons, append_eq_append_iff_of_length_le ha hrest, ih hxs,
      List.forall_mem_cons]

theorem all_eq_and_of_forall {α : Type} {xs : List α} {marked check : α → Bool} {answer : Bool}
    (h : ∀ a ∈ xs, marked a = true → check a = answer) :
    xs.all check = (xs.all (fun a => marked a || check a) && (!xs.any marked || answer)) := by
  induction xs with
  | nil => simp
  | cons a xs ih =>
    obtain ⟨ha, hxs⟩ := List.forall_mem_cons.mp h
    rw [List.all_cons, List.all_cons, List.any_cons, ih hxs]
    cases hmarked : marked a with
    | true =>
      rw [ha hmarked]
      cases answer <;> simp
    | false => simp [Bool.and_assoc]

namespace Span

variable {s : Span} {default : Status}

/-- The span is not empty, and its status is left to the default. -/
def isTacit (s : Span) : Bool := !s.isEmpty && s.status.isNone

/-- Whether the span begins or ends at some version text. -/
def hasEnds (s : Span) : Bool := s.bounds.lower.any (· ≠ ("" : Text)) || s.bounds.upper.any (· ≠ ("" : Text))

theorem endEvents_eq_nil_iff {kind : EventKind} {version : Option Text} :
    endEvents kind version = [] ↔ version.any (· ≠ ("" : Text)) = false := by
  unfold endEvents
  cases version with
  | none => simp
  | some v => by_cases hv : v = "" <;> simp [Option.filter, hv]

theorem events_eq_nil_iff_of_isRepresentable (hempty : s.isEmpty = false)
    (h : s.isRepresentable default = true) : s.events default = [] ↔ s.hasEnds = false := by
  unfold events hasEnds
  rw [hempty, h, Bool.not_true, Bool.or_false, if_neg Bool.false_ne_true, List.append_eq_nil_iff,
    endEvents_eq_nil_iff, endEvents_eq_nil_iff, Bool.or_eq_false_iff]

theorem isEmpty_stated (s : Span) : s.stated.isEmpty = s.isEmpty := rfl

theorem bounds_stated (s : Span) : s.stated.bounds = s.bounds := bounds_congr rfl rfl

theorem stated_congr (h : s.stated.statusAgainst default = s.statusAgainst default) :
    s.stated.events default = s.events default ∧
      s.stated.isRepresentable default = s.isRepresentable default := by
  have hrep : s.stated.isRepresentable default = s.isRepresentable default := by
    unfold isRepresentable
    rw [h, isEmpty_stated]
  have hopening : s.stated.openingKind default = s.openingKind default := by
    unfold openingKind
    rw [h]
  refine ⟨?_, hrep⟩
  unfold events
  rw [hrep, hopening, isEmpty_stated, bounds_stated]

theorem stated_congr_of_unaffected (s : Span) :
    s.stated.events .unaffected = s.events .unaffected ∧
      s.stated.isRepresentable .unaffected = s.isRepresentable .unaffected := by
  apply stated_congr
  unfold statusAgainst stated
  cases s.status <;> rfl

theorem stated_congr_of_not_isTacit (h : s.isTacit = false) (default : Status) :
    s.stated.events default = s.events default ∧
      s.stated.isRepresentable default = s.isRepresentable default := by
  cases hempty : s.isEmpty with
  | true =>
    have hstated : s.stated.isEmpty = true := hempty
    have hrep : s.stated.isRepresentable default = s.isRepresentable default := by
      unfold isRepresentable
      rw [hstated, hempty, Bool.true_or, Bool.true_or]
    refine ⟨?_, hrep⟩
    unfold events
    rw [hstated, hempty, Bool.true_or, Bool.true_or, if_pos rfl, if_pos rfl]
  | false =>
    have hstatus : s.status.isSome = true := by
      simpa [isTacit, hempty, Option.isSome_iff_ne_none] using h
    rw [stated_of_isSome hstatus]
    exact ⟨rfl, rfl⟩

section Tacit

variable (h : s.isTacit = true) (hdefault : default ≠ .unaffected)

include h

theorem isEmpty_of_isTacit : s.isEmpty = false := by
  simpa using (Bool.and_eq_true_iff.mp h).1

theorem isRepresentable_of_isTacit :
    s.isRepresentable default = (default != .unknown) := by
  have hstatus : s.status = none := by simpa using (Bool.and_eq_true_iff.mp h).2
  unfold isRepresentable statusAgainst
  rw [isEmpty_of_isTacit h, hstatus]
  cases default <;> decide

include hdefault

theorem isRepresentable_stated_of_isTacit :
    s.stated.isRepresentable default = !s.isRepresentable default := by
  have hempty : s.stated.isEmpty = false := (isEmpty_stated s).trans (isEmpty_of_isTacit h)
  have hstatus : s.stated.statusAgainst default = .affected := by
    have hnone : s.status = none := by simpa using (Bool.and_eq_true_iff.mp h).2
    unfold statusAgainst stated
    rw [hnone]
    rfl
  rw [isRepresentable_of_isTacit h]
  unfold isRepresentable
  rw [hempty, hstatus]
  cases default with
  | affected => decide
  | unaffected => exact absurd rfl hdefault
  | unknown => decide

theorem events_stated_eq_iff_of_isTacit :
    s.stated.events default = s.events default ↔ s.hasEnds = false := by
  have hempty := isEmpty_of_isTacit h
  have hstated := isRepresentable_stated_of_isTacit h hdefault
  cases hrep : s.isRepresentable default with
  | true =>
    rw [hrep, Bool.not_true] at hstated
    rw [events_of_not_isRepresentable hstated, eq_comm,
      events_eq_nil_iff_of_isRepresentable hempty hrep]
  | false =>
    rw [hrep, Bool.not_false] at hstated
    have hends : s.stated.hasEnds = s.hasEnds := by
      unfold hasEnds
      rw [bounds_stated]
    rw [events_of_not_isRepresentable hrep, ← hends]
    exact events_eq_nil_iff_of_isRepresentable ((isEmpty_stated s).trans hempty) hstated

end Tacit

theorem length_events_le_stated (s : Span) :
    (s.events .unknown).length ≤ (s.stated.events .unknown).length := by
  cases h : s.isTacit with
  | true =>
    have hrep : s.isRepresentable .unknown = false := isRepresentable_of_isTacit h
    rw [events_of_not_isRepresentable hrep]
    exact Nat.zero_le _
  | false => rw [(stated_congr_of_not_isTacit h _).1]

theorem length_events_stated_le (s : Span) :
    (s.stated.events .affected).length ≤ (s.events .affected).length := by
  cases h : s.isTacit with
  | true =>
    have hrep : s.stated.isRepresentable .affected = false := by
      rw [isRepresentable_stated_of_isTacit h (by decide), isRepresentable_of_isTacit h]
      rfl
    rw [events_of_not_isRepresentable hrep]
    exact Nat.zero_le _
  | false => rw [(stated_congr_of_not_isTacit h _).1]

end Span

namespace Reading

variable {spans : List Span} {default : Status} (hdefault : default ≠ .unaffected)

include hdefault

theorem flatMap_events_stated_eq_iff :
    (spans.flatMap fun s => s.stated.events default) = spans.flatMap (·.events default) ↔
      ∀ s ∈ spans, s.isTacit = true → s.hasEnds = false := by
  have hpiece : ∀ s ∈ spans, s.stated.events default = s.events default ↔
      (s.isTacit = true → s.hasEnds = false) := by
    intro s _
    cases h : s.isTacit with
    | true => simpa using Span.events_stated_eq_iff_of_isTacit h hdefault
    | false => simpa using (Span.stated_congr_of_not_isTacit h default).1
  rw [← forall₂_congr hpiece]
  cases default with
  | affected => exact flatMap_eq_flatMap_iff_of_length_le fun s _ => s.length_events_stated_le
  | unaffected => exact absurd rfl hdefault
  | unknown =>
    rw [eq_comm, flatMap_eq_flatMap_iff_of_length_le fun s _ => s.length_events_le_stated]
    exact forall₂_congr fun _ _ => eq_comm

theorem all_isRepresentable_stated_eq_iff :
    (spans.all fun s => s.stated.isRepresentable default) = spans.all (·.isRepresentable default) ↔
      (∀ s ∈ spans, s.isTacit = false) ∨
        ∃ s ∈ spans, s.isTacit = false ∧ s.isRepresentable default = false := by
  have htacit : ∀ s ∈ spans, s.isTacit = true → s.isRepresentable default = (default != .unknown) :=
    fun s _ h => Span.isRepresentable_of_isTacit h
  have hstated : ∀ s ∈ spans, s.isTacit = true →
      s.stated.isRepresentable default = !(default != .unknown) := by
    intro s _ h
    rw [Span.isRepresentable_stated_of_isTacit h hdefault, Span.isRepresentable_of_isTacit h]
  have hothers : (fun s : Span => s.isTacit || s.stated.isRepresentable default) =
      fun s => s.isTacit || s.isRepresentable default := by
    funext s
    cases h : s.isTacit with
    | true => rfl
    | false => rw [(Span.stated_congr_of_not_isTacit h default).2]
  have hnone : (∀ s ∈ spans, s.isTacit = false) ↔ spans.any Span.isTacit = false := by simp
  have hother : (∃ s ∈ spans, s.isTacit = false ∧ s.isRepresentable default = false) ↔
      (spans.all fun s => s.isTacit || s.isRepresentable default) = false := by simp
  rw [all_eq_and_of_forall htacit, all_eq_and_of_forall hstated, hothers, hnone, hother]
  cases spans.all _ <;> cases spans.any _ <;> cases default != .unknown <;> decide

end Reading

/-- The spans as an advisory states them are read alike exactly when the default is unaffected, no
span is tacit, or no tacit one has an end and the reading is incomplete anyway. -/
theorem Reading.ofSpans_map_stated_eq_iff (spans : List Span) (default : Status) :
    ofSpans (spans.map Span.stated) (some default) = ofSpans spans (some default) ↔
      default = .unaffected ∨ (∀ s ∈ spans, s.isTacit = false) ∨
        (∀ s ∈ spans, s.isTacit = true → s.hasEnds = false) ∧
          ∃ s ∈ spans, s.isTacit = false ∧ s.isRepresentable default = false := by
  have hall : (spans.map Span.stated).all (·.isRepresentable default) =
      spans.all fun s => s.stated.isRepresentable default := List.all_map
  unfold ofSpans
  rw [Reading.mk.injEq, List.flatMap_map, Option.getD_some, hall]
  by_cases hdefault : default = .unaffected
  · subst hdefault
    have hevents : ∀ s ∈ spans, s.stated.events .unaffected = s.events .unaffected :=
      fun s _ => (Span.stated_congr_of_unaffected s).1
    have hcomplete : ∀ s ∈ spans,
        s.stated.isRepresentable .unaffected = s.isRepresentable .unaffected :=
      fun s _ => (Span.stated_congr_of_unaffected s).2
    refine iff_of_true ⟨List.flatMap_congr hevents, ?_⟩ (Or.inl rfl)
    rw [Bool.eq_iff_iff, List.all_eq_true, List.all_eq_true]
    exact forall₂_congr fun s hs => by rw [hcomplete s hs]
  · have hnoEnds : (∀ s ∈ spans, s.isTacit = false) →
        ∀ s ∈ spans, s.isTacit = true → s.hasEnds = false := by
      intro hnone s hs h
      rw [hnone s hs] at h
      exact Bool.noConfusion h
    rw [flatMap_events_stated_eq_iff hdefault, all_isRepresentable_stated_eq_iff hdefault]
    constructor
    · intro h
      obtain ⟨hends, hnone | hother⟩ := h
      · exact Or.inr (Or.inl hnone)
      · exact Or.inr (Or.inr ⟨hends, hother⟩)
    · intro h
      rcases h with heq | hnone | hleft
      · exact absurd heq hdefault
      · exact ⟨hnoEnds hnone, Or.inl hnone⟩
      · exact ⟨hleft.1, Or.inr hleft.2⟩

/-- What is read from the entry as an advisory states it. -/
def Entry.statedReading (e : Entry) (assumed : Status) : Reading :=
  .ofSpans (e.spans.map Span.stated) (some (e.defaultOr assumed))

/-- From its advisory each package gets the reading of its entry as stated there. This is the entry's
own against unaffected versions, without tacit spans, or when nothing is left to lose. -/
theorem File.reconstruct_of_json_of_isNamed {f : File} {url : Option Text} {entries : List Entry}
    (hnamed : ∀ e ∈ entries, e.IsNamed) (hf : f.json = .ok (Advisory.toJson url entries))
    (assumed : Status) :
    f.reconstruct assumed = .ok (entries.flatMap fun e =>
        (if e.packages = [] then [e.module] else e.packages).map fun p =>
          { module := e.module, events := (e.statedReading assumed).events, packages := [p],
            complete := (e.statedReading assumed).complete }) ∧
      ∀ e ∈ entries, e.statedReading assumed = e.reading assumed ↔
        e.defaultOr assumed = .unaffected ∨ (∀ s ∈ e.spans, s.isTacit = false) ∨
          (∀ s ∈ e.spans, s.isTacit = true → s.hasEnds = false) ∧
            ∃ s ∈ e.spans, s.isTacit = false ∧ s.isRepresentable (e.defaultOr assumed) = false := by
  have hhistories : (entries.flatMap Entry.stated).map (·.toHistory assumed) =
      entries.flatMap fun e => (if e.packages = [] then [e.module] else e.packages).map fun p =>
        { module := e.module, events := (e.statedReading assumed).events, packages := [p],
          complete := (e.statedReading assumed).complete } := by
    rw [List.map_flatMap]
    apply List.flatMap_congr
    intro e _
    unfold Entry.stated
    rw [List.map_map]
    rfl
  refine ⟨?_, fun e _ => Reading.ofSpans_map_stated_eq_iff e.spans (e.defaultOr assumed)⟩
  unfold reconstruct
  rw [File.entries_of_json hf hnamed, ← hhistories]
  rfl

/-- A tacit gap between affected versions. -/
def tacitGap : Entry where
  module := "m"
  spans := [⟨"1.0.0", "2.0.0", none, "semver"⟩]
  default := some .affected

/-- The same span, first with the default left open and then as a gap. -/
def tacitEntries : List Entry := [{ tacitGap with default := none, packages := ["p"] }, tacitGap]

theorem isNamed_of_mem_tacitEntries : ∀ e ∈ tacitEntries, e.IsNamed := by
  refine List.forall_mem_cons.mpr ⟨⟨?_, ?_, ?_⟩, List.forall_mem_singleton.mpr ⟨?_, ?_, ?_⟩⟩
  all_goals decide

def tacitFile : File where
  name := "advisory.json"
  bytes := Utf8.encode (Json.renderAt 0 (Advisory.toJson none tacitEntries))

set_option maxRecDepth 10000 in
theorem json_tacitFile : tacitFile.json = .ok (Advisory.toJson none tacitEntries) := by
  cbv

theorem File.reconstruct_of_json_of_isNamed_tacitFile :
    (∀ e ∈ tacitEntries, e.IsNamed) ∧ tacitFile.json = .ok (Advisory.toJson none tacitEntries) ∧
      tacitFile.reconstruct .unaffected = .ok
        [{ module := "m", events := [⟨.introduced, "1.0.0"⟩, ⟨.fixed, "2.0.0"⟩], packages := ["p"] },
         { module := "m", packages := ["m"], complete := false }] ∧
      tacitGap.statedReading .unaffected ≠ tacitGap.reading .unaffected := by
  obtain ⟨hreconstruct, hreading⟩ :=
    File.reconstruct_of_json_of_isNamed isNamed_of_mem_tacitEntries json_tacitFile .unaffected
  have hgap : tacitGap ∈ tacitEntries := List.mem_cons_of_mem _ List.mem_cons_self
  refine ⟨isNamed_of_mem_tacitEntries, json_tacitFile, hreconstruct.trans ?_, ?_⟩
  · decide +kernel
  · rw [Ne, hreading tacitGap hgap]
    decide +kernel

/-- Nothing is left of the gap, which says where the module is fixed and affected again. -/
theorem File.reconstruct_tacitFile_ne_reading :
    tacitFile.json = .ok (Advisory.toJson none tacitEntries) ∧
      tacitGap ∈ tacitEntries ∧ tacitGap.IsNamed ∧
      tacitGap.reading .unaffected = ⟨[⟨.fixed, "1.0.0"⟩, ⟨.introduced, "2.0.0"⟩], true⟩ ∧
      tacitFile.reconstruct .unaffected = .ok
        [{ module := "m", events := [⟨.introduced, "1.0.0"⟩, ⟨.fixed, "2.0.0"⟩], packages := ["p"] },
         { module := "m", events := [], packages := ["m"], complete := false }] := by
  have hgap : tacitGap ∈ tacitEntries := List.mem_cons_of_mem _ List.mem_cons_self
  have hentries := File.entries_of_json json_tacitFile isNamed_of_mem_tacitEntries
  refine ⟨json_tacitFile, hgap, isNamed_of_mem_tacitEntries tacitGap hgap, by decide +kernel, ?_⟩
  unfold reconstruct
  rw [hentries]
  decide +kernel

end AffectedVersions
