import AffectedVersions.Proofs.Text.Cut
import AffectedVersions.SemVer.Parser
import Mathlib

/-! Semantic versions begin with a digit and hold identifier characters, points and plus signs. -/
namespace AffectedVersions

theorem Numeral.digits_of_read? {cs : List Char} {n : Nat} (h : read? cs = some n) :
    cs ≠ [] ∧ ∀ c ∈ cs, c.isDigit = true := by
  unfold read? at h
  split_ifs at h with hc
  unfold isCanonical at hc
  split at hc
  · exact absurd hc Bool.false_ne_true
  · simp
  · rw [Bool.and_eq_true, List.all_eq_true] at hc
    exact ⟨List.cons_ne_nil _ _, hc.2⟩

theorem Numeral.digits_of_readBounded? {cs : List Char} {n : Nat} (h : readBounded? cs = some n) :
    cs ≠ [] ∧ ∀ c ∈ cs, c.isDigit = true := by
  unfold readBounded? at h
  split_ifs at h
  exact digits_of_read? h

theorem isIdentifierChar_of_isDigit {c : Char} (h : c.isDigit = true) :
    isIdentifierChar c = true := by
  simp [isIdentifierChar, Char.isAlphanum, h]

theorem Identifier.chars_of_ofChars? {cs : List Char} {i : Identifier} (h : ofChars? cs = some i) :
    ∀ c ∈ cs, isIdentifierChar c = true := by
  unfold ofChars? at h
  split_ifs at h with hd hi
  · exact fun c hc => isIdentifierChar_of_isDigit (List.all_eq_true.mp hd c hc)
  · exact List.all_eq_true.mp hi

namespace SemVer

theorem chars_of_buildPart? {cs : List Char} {s : String} (h : buildPart? cs = some s) :
    ∀ c ∈ cs, isIdentifierChar c = true := by
  unfold buildPart? at h
  split_ifs at h with hb
  exact List.all_eq_true.mp hb.2

/-- The characters that can stand in a semantic version. -/
def isTextChar (c : Char) : Bool := isIdentifierChar c || c == '.' || c == '+'

theorem isTextChar_of_isIdentifierChar {c : Char} (h : isIdentifierChar c = true) :
    isTextChar c = true := by
  simp [isTextChar, h]

/-- They lie between the plus sign and the letter z, without the operators of constraints. -/
theorem toNat_of_isTextChar {c : Char} (h : isTextChar c = true) :
    0x2B ≤ c.toNat ∧ c.toNat ≤ 0x7A ∧ (c.toNat < 0x3A ∨ 0x40 < c.toNat) := by
  simp only [isTextChar, isIdentifierChar, Char.isAlphanum, Char.isAlpha, Char.isUpper, Char.isLower,
    Char.isDigit, Bool.or_eq_true, Bool.and_eq_true, decide_eq_true_eq, beq_iff_eq, ge_iff_le,
    UInt32.le_iff_toNat_le] at h
  have hn : c.val.toNat = c.toNat := rfl
  rw [hn] at h
  rcases h with ((((⟨hl, hu⟩ | ⟨hl, hu⟩) | ⟨hl, hu⟩) | rfl) | rfl) | rfl
  · change 0x41 ≤ c.toNat at hl
    change c.toNat ≤ 0x5A at hu
    omega
  · change 0x61 ≤ c.toNat at hl
    change c.toNat ≤ 0x7A at hu
    omega
  · change 0x30 ≤ c.toNat at hl
    change c.toNat ≤ 0x39 at hu
    omega
  · decide
  · decide
  · decide

theorem part_of_mapM {α : Type} {part? : List Char → Option α} {parts : List (List Char)}
    {values : List α} (h : parts.mapM part? = some values) :
    ∀ cs ∈ parts, ∃ a, part? cs = some a := by
  induction parts generalizing values with
  | nil => simp
  | cons cs parts ih =>
    rw [List.mapM_cons] at h
    obtain ⟨a, ha, hrest⟩ := Option.bind_eq_some_iff.mp h
    obtain ⟨as, has, -⟩ := Option.bind_eq_some_iff.mp hrest
    intro ds hds
    rcases List.mem_cons.mp hds with rfl | hds
    · exact ⟨a, ha⟩
    · exact ih has ds hds

theorem chars_of_tag? {α : Type} {part? : List Char → Option α} {cs : List Char} {values : List α}
    (hpart : ∀ ds a, part? ds = some a → ∀ c ∈ ds, isIdentifierChar c = true)
    (h : tag? part? (some cs) = some values) : ∀ c ∈ cs, isTextChar c = true := by
  intro c hc
  have hjoin : ['.'].intercalate (cs.splitOn '.') = cs := List.intercalate_splitOn '.'
  rw [← hjoin] at hc
  rcases Text.mem_of_mem_intercalate hc with hc | ⟨ds, hds, hcd⟩
  · obtain rfl := List.mem_singleton.mp hc
    rfl
  · obtain ⟨a, ha⟩ := part_of_mapM h ds hds
    exact isTextChar_of_isIdentifierChar (hpart ds a ha c hcd)

theorem pieces_of_parse? {s : String} {v : SemVer} (h : parse? s = some v) :
    ∃ major minor patch prerelease build,
      s.toList = major ++ '.' :: minor ++ '.' :: patch ++ Text.afterMark '-' prerelease ++
        Text.afterMark '+' build ∧
      Numeral.readBounded? major = some v.major ∧ Numeral.readBounded? minor = some v.minor ∧
      Numeral.readBounded? patch = some v.patch ∧
      tag? Identifier.ofChars? prerelease = some v.prerelease ∧
      tag? buildPart? build = some v.build := by
  unfold parse? at h
  dsimp only at h
  split at h
  · next major minor patch hcore =>
    obtain ⟨a, ha, h⟩ := Option.bind_eq_some_iff.mp h
    obtain ⟨b, hb, h⟩ := Option.bind_eq_some_iff.mp h
    obtain ⟨c, hc, h⟩ := Option.bind_eq_some_iff.mp h
    obtain ⟨pre, hpre, h⟩ := Option.bind_eq_some_iff.mp h
    obtain ⟨build, hbuild, h⟩ := Option.bind_eq_some_iff.mp h
    obtain rfl := Option.some.inj h
    refine ⟨major, minor, patch, _, _, ?_, ha, hb, hc, hpre, hbuild⟩
    have hjoin : ['.'].intercalate ((Text.cut '-' (Text.cut '+' s.toList).1).1.splitOn '.') =
        (Text.cut '-' (Text.cut '+' s.toList).1).1 := List.intercalate_splitOn '.'
    rw [hcore] at hjoin
    have hdigits : major ++ '.' :: minor ++ '.' :: patch =
        (Text.cut '-' (Text.cut '+' s.toList).1).1 := by
      rw [← hjoin]
      simp [List.intercalate_cons_cons]
    rw [hdigits, Text.cut_append_afterMark, Text.cut_append_afterMark]
  · exact absurd h (Option.some_ne_none v).symm

theorem chars_of_afterMark {α : Type} {part? : List Char → Option α} {mark : Char}
    {tag : Option (List Char)} {values : List α} (hmark : isTextChar mark = true)
    (hpart : ∀ ds a, part? ds = some a → ∀ c ∈ ds, isIdentifierChar c = true)
    (h : tag? part? tag = some values) : ∀ c ∈ Text.afterMark mark tag, isTextChar c = true := by
  cases tag with
  | none => simp [Text.afterMark]
  | some cs =>
    intro c hc
    rcases List.mem_cons.mp hc with rfl | hc
    · exact hmark
    · exact chars_of_tag? hpart h c hc

theorem chars_of_parse? {s : String} {v : SemVer} (h : parse? s = some v) :
    (∃ c ∈ s.toList.head?, c.isDigit = true) ∧ ∀ c ∈ s.toList, isTextChar c = true := by
  obtain ⟨major, minor, patch, pre, build, hs, ha, hb, hc, hpre, hbuild⟩ := pieces_of_parse? h
  have numeral : ∀ {cs n}, Numeral.readBounded? cs = some n → ∀ c ∈ cs, isTextChar c = true :=
    fun hn c hc => isTextChar_of_isIdentifierChar
      (isIdentifierChar_of_isDigit ((Numeral.digits_of_readBounded? hn).2 c hc))
  have hpre' := @chars_of_afterMark _ _ '-' _ _ rfl (fun _ _ => Identifier.chars_of_ofChars?) hpre
  have hbuild' := @chars_of_afterMark _ _ '+' _ _ rfl (fun _ _ => chars_of_buildPart?) hbuild
  constructor
  · obtain ⟨hne, hdigit⟩ := Numeral.digits_of_readBounded? ha
    obtain ⟨d, ds, rfl⟩ := List.exists_cons_of_ne_nil hne
    exact ⟨d, by simp [hs], hdigit d List.mem_cons_self⟩
  · intro c hmem
    simp only [hs, List.mem_append, List.mem_cons] at hmem
    rcases hmem with (((hm | rfl | hm) | rfl | hm) | hm) | hm
    · exact numeral ha c hm
    · rfl
    · exact numeral hb c hm
    · rfl
    · exact numeral hc c hm
    · exact hpre' c hm
    · exact hbuild' c hm

end SemVer

end AffectedVersions
