import AffectedVersions.Text.Basic
import Mathlib

/-! Patterns of text, and the texts that they split. -/
namespace AffectedVersions.Text

/-- The beginning of a text that a pattern takes, and the rest of the text. -/
structure Fit where
  taken : List Letter
  rest : List Letter
  deriving DecidableEq

def Fit.after (before : List Letter) (fit : Fit) : Fit := ⟨before ++ fit.taken, fit.rest⟩

/-- Any number of characters with `p`, the longest run of them first. -/
def runs (p : Letter → Bool) : List Letter → List Fit
  | [] => [⟨[], []⟩]
  | c :: cs => if p c then (runs p cs).map (.after [c]) ++ [⟨[], c :: cs⟩] else [⟨[], c :: cs⟩]

section Runs

variable {p : Letter → Bool} {c : Letter} {cs : List Letter} {fit : Fit}

theorem head?_runs (p : Letter → Bool) (cs : List Letter) :
    (runs p cs).head? = some ⟨cs.takeWhile p, cs.dropWhile p⟩ := by
  induction cs with
  | nil => rfl
  | cons c cs ih =>
    by_cases hc : p c
    · rw [runs, if_pos hc, List.head?_append, List.head?_map, ih, List.takeWhile_cons_of_pos hc,
        List.dropWhile_cons_of_pos hc]
      rfl
    · rw [runs, if_neg hc, List.takeWhile_cons_of_neg hc, List.dropWhile_cons_of_neg hc]
      rfl

theorem mem_runs_cons_iff : fit ∈ runs p (c :: cs) ↔
    (p c = true ∧ ∃ shorter ∈ runs p cs, shorter.after [c] = fit) ∨ fit = ⟨[], c :: cs⟩ := by
  by_cases hc : p c <;> simp [runs, hc]

theorem mem_runs_nil (p : Letter → Bool) (cs : List Letter) : ⟨[], cs⟩ ∈ runs p cs := by
  cases cs with
  | nil => exact List.mem_singleton_self _
  | cons c cs => exact mem_runs_cons_iff.mpr (Or.inr rfl)

/-- No run is left out. -/
theorem mem_runs_iff {taken rest : List Letter} :
    ⟨taken, rest⟩ ∈ runs p cs ↔ (∀ c ∈ taken, p c = true) ∧ taken ++ rest = cs := by
  constructor
  · intro h
    induction cs generalizing taken with
    | nil =>
      obtain ⟨rfl, rfl⟩ := Fit.mk.inj (List.mem_singleton.mp h)
      simp
    | cons c cs ih =>
      rcases mem_runs_cons_iff.mp h with ⟨hc, shorter, hshorter, heq⟩ | heq
      · obtain ⟨rfl, rfl⟩ := Fit.mk.inj heq
        obtain ⟨hall, rfl⟩ := ih hshorter
        exact ⟨List.forall_mem_cons.mpr ⟨hc, hall⟩, rfl⟩
      · obtain ⟨rfl, rfl⟩ := Fit.mk.inj heq
        simp
  · intro h
    obtain ⟨hall, rfl⟩ := h
    induction taken with
    | nil => exact mem_runs_nil p rest
    | cons c taken ih =>
      obtain ⟨hc, htaken⟩ := List.forall_mem_cons.mp hall
      exact mem_runs_cons_iff.mpr (Or.inl ⟨hc, ⟨taken, rest⟩, ih htaken, rfl⟩)

end Runs

/-- Characters, what comes next, the end of the text, sequences and alternatives. -/
inductive Pattern where
  | one (p : Letter → Bool)
  | many (p : Letter → Bool)
  | ahead (p : Letter → Bool)
  | ending
  | seq (first second : Pattern)
  | alt (first second : Pattern)

namespace Pattern

/-- The ways in which a pattern fits the beginning of a text, the preferred one first. A line feed may
stand between the ending and the very end of the text. -/
def fits : Pattern → List Letter → List Fit
  | one _, [] => []
  | one p, c :: cs => if p c then [⟨[c], cs⟩] else []
  | many p, cs => runs p cs
  | ahead p, cs => if cs.head?.any p then [⟨[], cs⟩] else []
  | ending, cs => if cs = [] ∨ cs = [('\n' : Letter)] then [⟨[], cs⟩] else []
  | seq first second, cs =>
    (first.fits cs).flatMap fun fit => (second.fits fit.rest).map (.after fit.taken)
  | alt first second, cs => first.fits cs ++ second.fits cs

def first? (pattern : Pattern) (cs : List Letter) : Option Fit := (pattern.fits cs).head?

/-- The pieces after `piece`, where the next `skip` characters still belong to a separator. -/
def splitFrom (pattern : Pattern) (piece : List Letter) (skip : ℕ) : List Letter → List (List Letter)
  | [] => [piece]
  | c :: cs =>
    match skip with
    | skip + 1 => pattern.splitFrom piece skip cs
    | 0 =>
      match pattern.first? (c :: cs) with
      | some fit => piece :: pattern.splitFrom [] (fit.taken.length - 1) cs
      | none => pattern.splitFrom (piece ++ [c]) 0 cs

/-- The pieces of a text between separators. From left to right, a separator is where the pattern fits
next, and what it prefers to take there. It has to take at least one character. -/
def split (pattern : Pattern) (cs : List Letter) : List (List Letter) := pattern.splitFrom [] 0 cs

section Fits

variable {p : Letter → Bool} {first second pattern : Pattern} {taken rest cs : List Letter}

theorem mem_fits_one_iff :
    ⟨taken, rest⟩ ∈ (one p).fits cs ↔ ∃ c, p c = true ∧ taken = [c] ∧ c :: rest = cs := by
  cases cs with
  | nil => simp [fits]
  | cons c cs => simp [fits]

theorem mem_fits_ahead_iff :
    ⟨taken, rest⟩ ∈ (ahead p).fits cs ↔ cs.head?.any p = true ∧ taken = [] ∧ rest = cs := by
  simp [fits]

theorem mem_fits_ending_iff :
    ⟨taken, rest⟩ ∈ ending.fits cs ↔ (cs = [] ∨ cs = [('\n' : Letter)]) ∧ taken = [] ∧ rest = cs := by
  simp [fits]

theorem mem_fits_alt_iff {fit : Fit} :
    fit ∈ (alt first second).fits cs ↔ fit ∈ first.fits cs ∨ fit ∈ second.fits cs :=
  List.mem_append

theorem mem_fits_seq_iff_exists : ⟨taken, rest⟩ ∈ (seq first second).fits cs ↔
    ∃ start next between, start ++ next = taken ∧ ⟨start, between⟩ ∈ first.fits cs ∧
      ⟨next, rest⟩ ∈ second.fits between := by
  constructor
  · intro h
    obtain ⟨⟨start, between⟩, hstart, h⟩ := List.mem_flatMap.mp h
    obtain ⟨⟨next, rest'⟩, hnext, heq⟩ := List.mem_map.mp h
    obtain ⟨htaken, rfl⟩ := Fit.mk.inj heq
    exact ⟨start, next, between, htaken, hstart, hnext⟩
  · intro h
    obtain ⟨start, next, between, rfl, hstart, hnext⟩ := h
    exact List.mem_flatMap.mpr ⟨_, hstart, List.mem_map.mpr ⟨_, hnext, rfl⟩⟩

theorem append_of_mem_fits (h : ⟨taken, rest⟩ ∈ pattern.fits cs) : taken ++ rest = cs := by
  induction pattern generalizing cs taken rest with
  | one p =>
    obtain ⟨c, -, rfl, hcs⟩ := mem_fits_one_iff.mp h
    exact hcs
  | many p => exact (mem_runs_iff.mp h).2
  | ahead p =>
    obtain ⟨-, rfl, rfl⟩ := mem_fits_ahead_iff.mp h
    rfl
  | ending =>
    obtain ⟨-, rfl, rfl⟩ := mem_fits_ending_iff.mp h
    rfl
  | seq first second hfirst hsecond =>
    obtain ⟨start, next, between, rfl, hstart, hnext⟩ := mem_fits_seq_iff_exists.mp h
    rw [List.append_assoc, hsecond hnext, hfirst hstart]
  | alt first second hfirst hsecond =>
    rcases mem_fits_alt_iff.mp h with h | h
    · exact hfirst h
    · exact hsecond h

theorem mem_fits_seq_iff : ⟨taken, rest⟩ ∈ (seq first second).fits cs ↔
    ∃ start next, start ++ next = taken ∧ ⟨start, next ++ rest⟩ ∈ first.fits cs ∧
      ⟨next, rest⟩ ∈ second.fits (next ++ rest) := by
  constructor
  · intro h
    obtain ⟨start, next, between, rfl, hstart, hnext⟩ := mem_fits_seq_iff_exists.mp h
    obtain rfl := append_of_mem_fits hnext
    exact ⟨start, next, rfl, hstart, hnext⟩
  · intro h
    obtain ⟨start, next, rfl, hstart, hnext⟩ := h
    exact mem_fits_seq_iff_exists.mpr ⟨start, next, next ++ rest, rfl, hstart, hnext⟩

theorem fits_many_seq (h : ∀ c cs, p c = true → second.fits (c :: cs) = []) (cs : List Letter) :
    ((many p).seq second).fits cs =
      (second.fits (cs.dropWhile p)).map (.after (cs.takeWhile p)) := by
  induction cs with
  | nil => simp [fits, runs]
  | cons c cs ih =>
    by_cases hc : p c
    · have hlonger : ∀ fit : Fit,
          (second.fits (fit.after [c]).rest).map (Fit.after (fit.after [c]).taken) =
            ((second.fits fit.rest).map (Fit.after fit.taken)).map (Fit.after [c]) := by
        intro fit
        rw [List.map_map]
        rfl
      have hnone : (second.fits (c :: cs)).map (Fit.after []) = [] := by
        rw [h c cs hc, List.map_nil]
      rw [fits, fits] at ih
      rw [List.takeWhile_cons_of_pos hc, List.dropWhile_cons_of_pos hc, fits, fits, runs, if_pos hc,
        List.flatMap_append, List.flatMap_singleton, hnone, List.append_nil, List.flatMap_map]
      simp only [hlonger]
      rw [← List.map_flatMap, ih, List.map_map]
      rfl
    · rw [List.takeWhile_cons_of_neg hc, List.dropWhile_cons_of_neg hc, fits, fits, runs, if_neg hc,
        List.flatMap_singleton]

end Fits

section Splitting

variable {pattern : Pattern} {c : Letter} {cs : List Letter} {fit : Fit}

theorem splitFrom_append_of_skip (piece taken cs : List Letter) :
    pattern.splitFrom piece taken.length (taken ++ cs) = pattern.splitFrom piece 0 cs := by
  induction taken with
  | nil => rfl
  | cons c taken ih => exact ih

theorem splitFrom_of_first?_eq_none (h : pattern.first? (c :: cs) = none) (piece : List Letter) :
    pattern.splitFrom piece 0 (c :: cs) = pattern.splitFrom (piece ++ [c]) 0 cs := by
  rw [splitFrom, h]

theorem splitFrom_of_first?_eq_some (h : pattern.first? cs = some fit) (hne : fit.taken ≠ [])
    (piece : List Letter) : pattern.splitFrom piece 0 cs = piece :: pattern.splitFrom [] 0 fit.rest := by
  have happend := append_of_mem_fits (List.mem_of_mem_head? h)
  obtain ⟨c, taken, htaken⟩ := List.exists_cons_of_ne_nil hne
  rw [htaken] at happend
  subst happend
  rw [List.cons_append] at h ⊢
  have hskip : fit.taken.length - 1 = taken.length := by
    rw [htaken, List.length_cons, Nat.add_sub_cancel]
  rw [splitFrom, h]
  dsimp only
  rw [hskip, splitFrom_append_of_skip]

end Splitting

end Pattern

end AffectedVersions.Text
