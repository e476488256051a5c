import AffectedVersions.Proofs.Document.Report
import AffectedVersions.Proofs.Schema.Details
import Mathlib

/-! Reports whose only faults are version entries with both kinds or neither. -/
namespace AffectedVersions

open Schema

namespace Report

/-- Whether an entry has a text under the kind. Null is none. -/
def gives (kind : EventKind) (x : Json) : Bool :=
  match x.at? [kind.name] with
  | some (.str _) => true
  | _ => false

/-- Both kinds are given, or neither is. -/
def isAmbiguous (x : Json) : Bool := gives .introduced x == gives .fixed x

/-- Where the ambiguous entries of a module stand among its versions. -/
def ambiguousEntries (module : Json) : List Nat :=
  ((module.listAt "versions").zipIdx.filter fun (entry, _) => isAmbiguous entry).map Prod.snd

/-- The places of the ambiguous entries of a report: the one of the module, and the one in it. -/
def ambiguousPlaces (x : Json) : List (Nat × Nat) :=
  (x.listAt "modules").zipIdx.flatMap fun (module, i) => (ambiguousEntries module).map (i, ·)

/-- What there is to say about the ambiguous entry at a place. -/
def ambiguity (place : Nat × Nat) : Detail where
  complaint := .notOneKind
  location := [.name "modules", .index place.1, .name "versions", .index place.2]

/-- Under each kind stands a text, or nothing or null, be the entry an event or not. -/
structure IsTypedEntry (x : Json) : Prop where
  object : ∃ ms, x = .obj ms
  kinds : ∀ kind : EventKind, ∀ y ∈ x.at? [kind.name], y = .null ∨ ∃ version, y = .str version

structure HasTypedModuleShape (x : Json) : Prop where
  name : ∃ name, x.at? ["module"] = some (.str name)
  versions : IsList IsTypedEntry (x.at? ["versions"])
  packages : IsList (fun y => ∃ package, y.at? ["package"] = some (.str package))
    (x.at? ["packages"])

/-- The shape of a report, but for entries that may have both kinds or neither. -/
structure HasTypedShape (x : Json) : Prop where
  object : ∃ ms, x = .obj ms
  id : ∀ y ∈ x.at? ["id"], y = .null ∨ ∃ id, y = .str id
  modules : IsList HasTypedModuleShape (x.at? ["modules"])

variable {x : Json}

theorem gives_of_isOptionalText {kind : EventKind} {value : Option Text}
    (h : IsOptionalText (x.at? [kind.name]) value) : gives kind x = value.isSome := by
  unfold gives
  cases value with
  | some version =>
    have hx : x.at? [kind.name] = some (.str version) := h
    rw [hx]
    rfl
  | none =>
    cases hx : x.at? [kind.name] with
    | none => rfl
    | some y =>
      rw [h y hx]
      rfl

theorem IsTypedEntry.exists_texts (h : IsTypedEntry x) :
    ∃ texts, checkEvent x = eventOf texts ∧ gives .introduced x = texts.1.isSome ∧
      gives .fixed x = texts.2.isSome := by
  obtain ⟨ms, rfl⟩ := h.object
  obtain ⟨introduced, hintroduced⟩ := exists_isOptionalText_iff.mpr (h.kinds .introduced)
  obtain ⟨fixed, hfixed⟩ := exists_isOptionalText_iff.mpr (h.kinds .fixed)
  refine ⟨(introduced, fixed), ?_, gives_of_isOptionalText hintroduced,
    gives_of_isOptionalText hfixed⟩
  have hfirst : optional "introduced" text ms = .pass introduced := by
    rwa [optional_text_eq_pass_iff, ← Json.at?_singleton]
  have hsecond : optional "fixed" text ms = .pass fixed := by
    rwa [optional_text_eq_pass_iff, ← Json.at?_singleton]
  unfold checkEvent
  rw [object_obj, hfirst, hsecond]
  rfl

theorem details_checkEvent (h : IsTypedEntry x) :
    (checkEvent x).details = if isAmbiguous x then [{ complaint := .notOneKind }] else [] := by
  obtain ⟨⟨introduced, fixed⟩, hcheck, hintroduced, hfixed⟩ := h.exists_texts
  unfold isAmbiguous
  rw [hcheck, hintroduced, hfixed]
  cases introduced <;> cases fixed <;> rfl

theorem IsTypedEntry.hasEventShape (h : IsTypedEntry x) (hone : isAmbiguous x = false) :
    HasEventShape x := by
  obtain ⟨⟨introduced, fixed⟩, hcheck, hintroduced, hfixed⟩ := h.exists_texts
  unfold isAmbiguous at hone
  rw [hintroduced, hfixed] at hone
  rw [hasEventShape_iff]
  simp only [← checkEvent_eq_pass_iff, hcheck]
  cases introduced <;> cases fixed <;> simp_all [eventOf]

theorem flatMap_ite_singleton {α β : Type} (p : α → Bool) (f : α → β) (xs : List α) :
    (xs.flatMap fun a => if p a then [f a] else []) = (xs.filter p).map f := by
  induction xs with
  | nil => rfl
  | cons a xs ih =>
    rw [List.flatMap_cons, ih]
    cases hp : p a <;> simp [hp]

theorem details_checkModule (h : HasTypedModuleShape x) :
    (checkModule x).details = (ambiguousEntries x).map fun j =>
      { complaint := .notOneKind, location := [.name "versions", .index j] } := by
  obtain ⟨⟨name, hat⟩, hversions, hshape⟩ := h
  obtain ⟨ms, rfl, hlookup⟩ := Json.at?_singleton_eq_some_iff.mp hat
  obtain ⟨packages, hlisted⟩ := (exists_isListOf_iff fun _ => Iff.rfl).mpr hshape
  have hentries := hversions.forall_mem_listAt
  rw [Json.at?_singleton] at hversions hlisted
  have hname : Field.required "module" text ms = .pass name := required_text_eq_pass_iff.mpr hlookup
  have hpackages : Field.orElse "packages" (list checkPackage) [] ms = .pass packages :=
    (orElse_list_eq_pass_iff checkPackage_eq_pass_iff).mpr hlisted
  have hlist : ∀ y ∈ ms.lookup "versions", ∃ xs, y = .arr xs :=
    fun y hy => (hversions y hy).imp fun _ hxs => hxs.1
  unfold checkModule ambiguousEntries
  rw [object_obj, hname, hpackages]
  simp only [Checked.details_seq, Checked.details_map, Checked.details_pass, List.nil_append,
    List.append_nil, details_orElse_list hlist, List.map_map]
  rw [← flatMap_ite_singleton]
  apply List.flatMap_congr
  rintro ⟨entry, j⟩ hentry
  rw [details_checkEvent (hentries entry (List.fst_mem_of_mem_zipIdx hentry))]
  cases isAmbiguous entry <;> rfl

theorem details_check (h : HasTypedShape x) :
    (check x).details = (ambiguousPlaces x).map ambiguity := by
  obtain ⟨⟨ms, rfl⟩, hid, hmodules⟩ := h
  obtain ⟨id, hoptional⟩ := exists_isOptionalText_iff.mpr hid
  have hshapes := hmodules.forall_mem_listAt
  rw [Json.at?_singleton] at hoptional hmodules
  have hread : optional "id" text ms = .pass id := optional_text_eq_pass_iff.mpr hoptional
  have hlist : ∀ y ∈ ms.lookup "modules", ∃ xs, y = .arr xs :=
    fun y hy => (hmodules y hy).imp fun _ hxs => hxs.1
  unfold check ambiguousPlaces
  rw [object_obj, hread]
  simp only [Checked.details_seq, Checked.details_map, Checked.details_pass, List.nil_append,
    details_orElse_list hlist, List.map_flatMap, List.map_map]
  apply List.flatMap_congr
  rintro ⟨module, i⟩ hmodule
  rw [details_checkModule (hshapes module (List.fst_mem_of_mem_zipIdx hmodule)), List.map_map]
  rfl

theorem ambiguousEntries_eq_nil_iff {module : Json} :
    ambiguousEntries module = [] ↔
      ∀ entry ∈ module.listAt "versions", isAmbiguous entry = false := by
  unfold ambiguousEntries
  rw [List.map_eq_nil_iff, List.filter_eq_nil_iff]
  conv_rhs => rw [← List.zipIdx_map_fst 0 (module.listAt "versions"), List.forall_mem_map]
  simp only [Bool.not_eq_true]

theorem ambiguousPlaces_eq_nil_iff :
    ambiguousPlaces x = [] ↔ ∀ module ∈ x.listAt "modules", ambiguousEntries module = [] := by
  unfold ambiguousPlaces
  rw [List.flatMap_eq_nil_iff]
  conv_rhs => rw [← List.zipIdx_map_fst 0 (x.listAt "modules"), List.forall_mem_map]
  simp only [List.map_eq_nil_iff]

theorem HasTypedShape.hasShape (h : HasTypedShape x) (hnone : ambiguousPlaces x = []) :
    HasShape x where
  object := h.object
  id := h.id
  modules := by
    refine h.modules.imp fun module hmodule hshape => ⟨hshape.name, ?_, hshape.packages⟩
    have hentries := ambiguousPlaces_eq_nil_iff.mp hnone module hmodule
    rw [ambiguousEntries_eq_nil_iff] at hentries
    exact hshape.versions.imp fun entry hentry htyped =>
      htyped.hasEventShape (hentries entry hentry)

end Report

/-- A report with no other fault than ambiguous entries is accepted when there are none. Otherwise
there is one complaint about each of them, in the order of the document, and no other one. -/
theorem File.report_of_hasTypedShape {f : File} {x : Json} (hx : f.json = .ok x)
    (h : Report.HasTypedShape x) :
    ((∃ r, f.report = .ok r) ↔ Report.ambiguousPlaces x = []) ∧
      (Report.ambiguousPlaces x ≠ [] → f.report =
        .error (.invalid "ReportDocument" ((Report.ambiguousPlaces x).map Report.ambiguity))) ∧
      ∀ place, (Report.ambiguity place).complaint.kind = "value_error" := by
  have hreport : f.report = (Report.check x).orInvalid "ReportDocument" := by
    unfold report
    rw [hx]
    rfl
  have hdetails := Report.details_check h
  have hfails : Report.ambiguousPlaces x ≠ [] → f.report =
      .error (.invalid "ReportDocument" ((Report.ambiguousPlaces x).map Report.ambiguity)) := by
    intro hsome
    have hne : (Report.check x).details ≠ [] := by
      rw [hdetails]
      exact mt List.map_eq_nil_iff.mp hsome
    rw [hreport, Checked.eq_fail_of_details_ne_nil hne, hdetails]
    rfl
  refine ⟨⟨?_, ?_⟩, hfails, fun _ => rfl⟩
  · rintro ⟨r, hr⟩
    by_contra hsome
    exact absurd (hr.symm.trans (hfails hsome)) nofun
  · intro hnone
    exact (report_eq_ok_iff_isReport hx).1.mpr (h.hasShape hnone)

/-- Entries with two texts, with one of them empty, with two nulls, and with nothing. -/
def indefinite : Json :=
  .obj [("modules", .arr
    [.obj [("module", .str "m"), ("versions", .arr
        [.obj [("fixed", .str "1"), ("introduced", .null)],
         .obj [("introduced", .str ""), ("fixed", .str "2")]])],
     .obj [("module", .str "n")],
     .obj [("versions", .arr [.obj [("fixed", .null), ("introduced", .null)], .obj []]),
       ("module", .str "o"), ("packages", .arr [])]])]

def indefiniteFile : File where
  name := "report.json"
  bytes := Utf8.encode (Json.renderAt 0 indefinite)

theorem Report.isTypedEntry_obj {ms : Members}
    (h : ∀ kind : EventKind, ∃ version, IsOptionalText (ms.lookup kind.name) version) :
    IsTypedEntry (.obj ms) where
  object := ⟨ms, rfl⟩
  kinds := fun kind => by
    rw [Json.at?_singleton]
    exact exists_isOptionalText_iff.mp (h kind)

theorem hasTypedShape_indefinite : Report.HasTypedShape indefinite := by
  have hpair : ∀ e ∈ [[("fixed", Json.str "1"), ("introduced", .null)],
      [("introduced", .str ""), ("fixed", .str "2")],
      [("fixed", .null), ("introduced", .null)], []], Report.IsTypedEntry (.obj e) := by
    intro e he
    apply Report.isTypedEntry_obj
    intro kind
    simp only [List.mem_cons, List.not_mem_nil, or_false] at he
    rcases he with rfl | rfl | rfl | rfl <;> cases kind <;>
      simp [exists_isOptionalText_iff, lookup_cons_eq, EventKind.name]
  refine ⟨⟨_, rfl⟩, nofun, isList_arr ?_⟩
  simp only [List.forall_mem_cons, List.not_mem_nil, false_implies, implies_true, and_true]
  refine ⟨⟨⟨_, rfl⟩, isList_arr ?_, isList_none⟩, ⟨⟨_, rfl⟩, isList_none, isList_none⟩,
    ⟨⟨_, rfl⟩, isList_arr ?_, isList_arr nofun⟩⟩
  · simp [hpair]
  · simp [hpair]

set_option maxRecDepth 10000 in
theorem File.report_of_hasTypedShape_indefinite :
    indefiniteFile.json = .ok indefinite ∧ Report.HasTypedShape indefinite ∧
      Report.ambiguousPlaces indefinite = [(0, 1), (2, 0), (2, 1)] ∧
      indefiniteFile.report = .error (.invalid "ReportDocument"
        [⟨.notOneKind, [.name "modules", .index 0, .name "versions", .index 1]⟩,
         ⟨.notOneKind, [.name "modules", .index 2, .name "versions", .index 0]⟩,
         ⟨.notOneKind, [.name "modules", .index 2, .name "versions", .index 1]⟩]) := by
  have hx : indefiniteFile.json = .ok indefinite := by cbv
  have hplaces : Report.ambiguousPlaces indefinite = [(0, 1), (2, 0), (2, 1)] := by decide +kernel
  obtain ⟨_, hfails, _⟩ := File.report_of_hasTypedShape hx hasTypedShape_indefinite
  have herror := hfails (by rw [hplaces]; exact List.cons_ne_nil _ _)
  rw [hplaces] at herror
  exact ⟨hx, hasTypedShape_indefinite, hplaces, herror⟩

end AffectedVersions
