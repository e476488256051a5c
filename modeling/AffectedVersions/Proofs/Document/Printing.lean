import AffectedVersions.CommandLine.Output
import AffectedVersions.Proofs.Document.Reload
import AffectedVersions.Proofs.Json.Printing
import AffectedVersions.Proofs.Text.Utf8

/-! Documents that are printed, and read from the file that holds what was printed. -/
namespace AffectedVersions

theorem Text.unifyLineEnds_of_notMem {cs : List Char} (h : '\r' ∉ cs) : unifyLineEnds cs = cs := by
  induction cs with
  | nil => rfl
  | cons c cs ih =>
    rw [List.mem_cons, not_or] at h
    rw [unifyLineEnds, if_neg (Ne.symm h.1), ih h.2]
    exact fun _ hc => absurd hc (Ne.symm h.1)

theorem Text.exists_digitChar_of_mem_hexField {width n : Nat} {c : Char} (h : c ∈ hexField width n) :
    ∃ d < 16, c = Nat.digitChar d := by
  induction width generalizing n with
  | zero => exact absurd h List.not_mem_nil
  | succ width ih =>
    rw [hexField, List.mem_append, List.mem_singleton] at h
    rcases h with h | rfl
    · exact ih h
    · exact ⟨n % 16, Nat.mod_lt _ (by decide), rfl⟩

namespace Json

theorem return_notMem_hexField (width n : Nat) : '\r' ∉ Text.hexField width n := by
  intro h
  obtain ⟨d, hd, hc⟩ := Text.exists_digitChar_of_mem_hexField h
  interval_cases d <;> exact absurd hc (by decide)

theorem return_notMem_escapeChar (c : Char) : '\r' ∉ escapeChar c := by
  have hfield := return_notMem_hexField 4 c.toNat
  unfold escapeChar
  split_ifs with hmark _ _ _ hreturn
  · rcases hmark with rfl | rfl <;> decide
  · decide
  · decide
  · decide
  · decide
  · decide
  · simpa using hfield
  · simpa using Ne.symm hreturn

theorem return_notMem_escapeLetter (letter : Letter) : '\r' ∉ escapeLetter letter := by
  cases letter with
  | char c => exact return_notMem_escapeChar c
  | half n => simpa [escapeLetter, Letter.escape] using return_notMem_hexField 4 (0xD800 + n)

theorem return_notMem_renderString (s : Text) : '\r' ∉ renderString s := by
  have hescaped : '\r' ∉ s.toList.flatMap escapeLetter := by
    rw [List.mem_flatMap]
    rintro ⟨letter, _, hc⟩
    exact return_notMem_escapeLetter letter hc
  simp [renderString, hescaped]

theorem return_notMem_newline (depth : Nat) : '\r' ∉ newline depth := by
  simp [newline]

theorem return_notMem_renderInt (n : Int) : '\r' ∉ renderInt n := by
  have hdigits : '\r' ∉ Nat.toDigits 10 n.natAbs := fun h =>
    absurd (isDigit_of_mem_toDigits h) (by decide)
  rw [renderInt_eq]
  split_ifs <;> simp [hdigits]

section Parts

variable {depth : Nat}

theorem return_notMem_renderItems {xs : List Json} (h : ∀ x ∈ xs, '\r' ∉ renderAt depth x) :
    '\r' ∉ renderItems depth xs := by
  induction xs with
  | nil => exact List.not_mem_nil
  | cons x xs ih =>
    obtain ⟨hx, hxs⟩ := List.forall_mem_cons.mp h
    simp [renderItems, return_notMem_newline, hx, ih hxs]

theorem return_notMem_renderMembers {ms : List (String × Json)}
    (h : ∀ m ∈ ms, '\r' ∉ renderAt depth m.2) : '\r' ∉ renderMembers depth ms := by
  induction ms with
  | nil => exact List.not_mem_nil
  | cons m ms ih =>
    obtain ⟨hm, hms⟩ := List.forall_mem_cons.mp h
    simp [renderMembers, return_notMem_newline, return_notMem_renderString, hm, ih hms]

end Parts

theorem return_notMem_renderDecimal (x : Decimal) : '\r' ∉ renderDecimal x := by
  cases x with
  | finite mantissa exponent =>
    change '\r' ∉ renderInt mantissa ++ 'e' :: renderInt exponent
    rw [List.mem_append, List.mem_cons, not_or, not_or]
    exact ⟨return_notMem_renderInt _, by decide, return_notMem_renderInt _⟩
  | infinite negative => cases negative <;> decide
  | nan => decide

theorem IsReadable.return_notMem {x : Json} (h : IsReadable x) (depth : Nat) : '\r' ∉ renderAt depth x := by
  induction h generalizing depth with
  | null =>
    rw [renderAt]
    decide
  | bool b => cases b <;> rw [renderAt] <;> decide
  | int _ => exact return_notMem_renderInt _
  | real x => exact return_notMem_renderDecimal x
  | str s => exact return_notMem_renderString s
  | @arr xs _ ih =>
    cases xs with
    | nil => simp [renderAt]
    | cons x xs =>
      have hitems := return_notMem_renderItems fun y hy => ih y (List.mem_cons_of_mem x hy) (depth + 1)
      simp [renderAt, return_notMem_newline, ih x List.mem_cons_self (depth + 1), hitems]
  | @obj ms _ _ ih =>
    rcases ms with _ | ⟨⟨name, x⟩, ms⟩
    · simp [renderAt]
    · have hmembers := return_notMem_renderMembers fun m hm =>
        ih m (List.mem_cons_of_mem (name, x) hm) (depth + 1)
      have hx := ih (name, x) List.mem_cons_self (depth + 1)
      simp [renderAt, return_notMem_newline, return_notMem_renderString, hx, hmembers]

end Json

open CommandLine

theorem File.json_printed (name : String) {x : Json} (hx : x.IsReadable) (hwhole : x.isWhole = true) :
    File.json ⟨name, Utf8.encode (printed [x.render]).toList⟩ = .ok x := by
  have htext : (printed [x.render]).toList = Json.renderAt 0 x ++ ['\n'] := by
    simp [printed, Json.render]
  have hreturn : '\r' ∉ Json.renderAt 0 x ++ ['\n'] := by
    simp [hx.return_notMem 0]
  have htail : ∀ c ∈ ['\n'], Json.isSpace c = true := List.forall_mem_singleton.mpr rfl
  unfold json
  dsimp only
  rw [Utf8.decode_encode, htext]
  dsimp only
  rw [Text.unifyLineEnds_of_notMem hreturn, Json.parse_renderAt hx hwhole htail]
  rfl

theorem map_fst_member_sublist {α : Type} (name : String) (toJson : α → Json) (value : Option α) :
    ((value.toList.map fun a => (name, toJson a)).map Prod.fst).Sublist [name] := by
  cases value <;> simp

theorem map_fst_textMember_sublist (name : String) (value : Option Text) :
    ((textMember name value).map Prod.fst).Sublist [name] := map_fst_member_sublist name .str value

theorem isReadable_of_mem_textMember {name : String} {value : Option Text} :
    ∀ m ∈ textMember name value, m.2.IsReadable := by
  intro m hm
  obtain ⟨s, _, rfl⟩ := List.mem_map.mp hm
  exact .str s

theorem VersionRecord.isReadable_toJson (r : VersionRecord) : r.toJson.IsReadable := by
  have hnames : (r.members.map Prod.fst).Sublist ["version", "lessThan", "status", "versionType"] := by
    simp only [members, List.map_append, List.map_cons]
    exact ((map_fst_textMember_sublist _ _).cons_cons _).append
      ((map_fst_textMember_sublist _ _).cons_cons _)
  have hvalues : ∀ m ∈ r.members, m.2.IsReadable := by
    simp only [members, List.forall_mem_append, List.forall_mem_cons]
    exact ⟨⟨.str _, isReadable_of_mem_textMember⟩, .str _, isReadable_of_mem_textMember⟩
  exact .obj (hnames.nodup (by decide)) hvalues

theorem isReadable_arr_map {α : Type} {toJson : α → Json} (h : ∀ a, (toJson a).IsReadable) (xs : List α) :
    (Json.arr (xs.map toJson)).IsReadable := .arr (List.forall_mem_map.mpr fun a _ => h a)

theorem AffectedRecord.isReadable_toJson (r : AffectedRecord) : r.toJson.IsReadable := by
  have hnames : (r.members.map Prod.fst).Sublist ["vendor", "product", "collectionURL", "packageName",
      "versions", "defaultStatus", "platforms"] := by
    simp only [members, List.map_append]
    exact ((((((map_fst_textMember_sublist _ _).append (map_fst_textMember_sublist _ _)).append
      (map_fst_textMember_sublist _ _)).append (map_fst_textMember_sublist _ _)).append
      (map_fst_member_sublist _ _ _)).append (map_fst_textMember_sublist _ _)).append
      (map_fst_member_sublist _ _ _)
  have hvalues : ∀ m ∈ r.members, m.2.IsReadable := by
    simp only [members, List.forall_mem_append, List.forall_mem_map]
    refine ⟨⟨⟨⟨⟨⟨?_, ?_⟩, ?_⟩, ?_⟩, ?_⟩, ?_⟩, ?_⟩
    case refine_5 => exact fun vs _ => isReadable_arr_map VersionRecord.isReadable_toJson vs
    case refine_7 => exact fun ps _ => isReadable_arr_map .str ps
    all_goals exact isReadable_of_mem_textMember
  exact .obj (hnames.nodup (by decide)) hvalues

theorem Advisory.isReadable_toJson (url : Option Text) (entries : List Entry) :
    (toJson url entries).IsReadable :=
  .obj (List.nodup_singleton _)
    (List.forall_mem_singleton.mpr (isReadable_arr_map AffectedRecord.isReadable_toJson _))

theorem Event.isReadable_toJson (e : Event) : e.toJson.IsReadable :=
  .obj (List.nodup_singleton _) (List.forall_mem_singleton.mpr (.str _))

def History.members (h : History) : Members :=
  [("module", .str h.module), ("versions", .arr (h.events.map Event.toJson)),
    ("packages", .arr (h.packages.map fun p => .obj [("package", .str p)]))]

theorem History.isReadable_toJson (h : History) : h.toJson.IsReadable := by
  have hpackage : ∀ p : Text, (Json.obj [("package", .str p)]).IsReadable := fun p =>
    .obj (List.nodup_singleton _) (List.forall_mem_singleton.mpr (.str p))
  have hvalues : ∀ m ∈ h.members, m.2.IsReadable := by
    simp only [members, List.forall_mem_cons]
    exact ⟨.str _, isReadable_arr_map Event.isReadable_toJson _, isReadable_arr_map hpackage _,
      List.forall_mem_nil _⟩
  have hnames : (["module", "versions", "packages"] : List String).Nodup := by decide
  exact .obj hnames hvalues

theorem Report.isReadable_toJson (modules : List History) : (toJson modules).IsReadable :=
  .obj (List.nodup_singleton _)
    (List.forall_mem_singleton.mpr (isReadable_arr_map History.isReadable_toJson _))

/-- Advisories and reports of whole texts are read from what is printed as they were written. -/
theorem File.json_of_printed_documents (name : String) :
    (∀ (url : Option Text) (entries : List Entry), (Advisory.toJson url entries).isWhole = true →
      File.json ⟨name, Utf8.encode (printed [(Advisory.toJson url entries).render]).toList⟩ =
        .ok (Advisory.toJson url entries)) ∧
      ∀ modules : List History, (Report.toJson modules).isWhole = true →
        File.json ⟨name, Utf8.encode (printed [(Report.toJson modules).render]).toList⟩ =
          .ok (Report.toJson modules) :=
  ⟨fun url entries => File.json_printed name (Advisory.isReadable_toJson url entries),
    fun modules => File.json_printed name (Report.isReadable_toJson modules)⟩

/-- Line ends, quotes and controls in the texts of a module. -/
def History.marked : History where
  module := "a\r\nb\u2028\u0085"
  events := [⟨.introduced, "\"\\u0041\x00"⟩]
  packages := ["\r", ""]

theorem File.json_of_printed_documents_marked :
    (Advisory.toJson (some "\r") [History.marked.toEntry]).isWhole = true ∧
      (Report.toJson [History.marked]).isWhole = true ∧
      File.json ⟨"out.json", Utf8.encode
          (printed [(Advisory.toJson (some "\r") [History.marked.toEntry]).render]).toList⟩ =
        .ok (Advisory.toJson (some "\r") [History.marked.toEntry]) ∧
      File.json ⟨"out.json", Utf8.encode (printed [(Report.toJson [History.marked]).render]).toList⟩ =
        .ok (Report.toJson [History.marked]) := by
  have hadvisory : (Advisory.toJson (some "\r") [History.marked.toEntry]).isWhole = true := by
    decide +kernel
  have hreport : (Report.toJson [History.marked]).isWhole = true := by decide +kernel
  obtain ⟨hentries, hmodules⟩ := File.json_of_printed_documents "out.json"
  exact ⟨hadvisory, hreport, hentries _ _ hadvisory, hmodules _ hreport⟩

end AffectedVersions
