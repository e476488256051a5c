import AffectedVersions.Proofs.Constraint.Spelling
import Mathlib

/-! The clauses of a constraint, read as long as those so far can begin a constraint. -/
namespace AffectedVersions.Constraint

theorem operand?_eq_some_iff {cs : List Letter} {version : Text} :
    operand? cs = some version ↔
      IsOperand version ∧ ∃ gap, IsGap gap ∧ cs = gap ++ version.toList := by
  constructor
  · intro h
    unfold operand? at h
    dsimp only at h
    split_ifs at h with hv
    obtain rfl := Option.some.inj h
    refine ⟨⟨?_, ?_⟩, cs.takeWhile Text.isBlank, fun c hc => List.mem_takeWhile_imp hc, ?_⟩
    · exact mt Text.toList_eq_nil_iff.mpr (by rw [Text.toList_ofList]; exact hv.1)
    · rw [Text.toList_ofList]
      exact List.all_eq_true.mp hv.2
    · rw [Text.toList_ofList]
      exact List.takeWhile_append_dropWhile.symm
  · intro h
    obtain ⟨hversion, gap, hgap, rfl⟩ := h
    exact operand?_of_gap hgap hversion

namespace Clause

variable {clause other : Clause} {text : Text} {cs : List Letter}

theorem isSpelledBy_of_operand? (h : operand? cs = some clause.version) :
    clause.IsSpelledBy (clause.operator ++ cs) := by
  obtain ⟨hversion, gap, hgap, rfl⟩ := operand?_eq_some_iff.mp h
  exact ⟨hversion, gap, hgap, (List.append_assoc _ _ _).symm⟩

theorem ofText?_eq_some_iff : ofText? text = some clause ↔ clause.IsSpelledBy text.toList := by
  constructor
  · intro h
    unfold ofText? at h
    split at h
    · next cs htext =>
      obtain ⟨version, hversion, rfl⟩ := Option.map_eq_some_iff.mp h
      rw [htext]
      exact isSpelledBy_of_operand? hversion
    · next cs htext =>
      obtain ⟨version, hversion, rfl⟩ := Option.map_eq_some_iff.mp h
      rw [htext]
      exact isSpelledBy_of_operand? hversion
    · exact absurd h (Option.some_ne_none clause).symm
  · intro h
    have hread := ofText?_of_isSpelledBy h
    rwa [Text.ofList_toList] at hread

theorem IsSpelledBy.unique (h : clause.IsSpelledBy cs) (hother : other.IsSpelledBy cs) :
    clause = other :=
  Option.some.inj ((ofText?_of_isSpelledBy h).symm.trans (ofText?_of_isSpelledBy hother))

end Clause

/-- No clause, one clause, or a lower bound before an upper one, and the bounds that they set. -/
inductive IsBeginning : List Text → Bounds → Prop
  | nothing : IsBeginning [] {}
  | lower {clause version : Text} (h : (Clause.atLeast version).IsSpelledBy clause.toList) :
    IsBeginning [clause] ⟨some (Version.dropV version), none⟩
  | upper {clause version : Text} (h : (Clause.below version).IsSpelledBy clause.toList) :
    IsBeginning [clause] ⟨none, some (Version.dropV version)⟩
  | both {first second lower upper : Text}
    (hfirst : (Clause.atLeast lower).IsSpelledBy first.toList)
    (hsecond : (Clause.below upper).IsSpelledBy second.toList) :
    IsBeginning [first, second] ⟨some (Version.dropV lower), some (Version.dropV upper)⟩

/-- What a clause can be blamed for, by its form. -/
inductive IsBlamedFor (clause : Text) : Reason → Prop
  | unrecognized (h : ∀ c : Clause, ¬c.IsSpelledBy clause.toList) :
    IsBlamedFor clause (.unrecognized clause)
  | lowerNotFirst {version : Text} (h : (Clause.atLeast version).IsSpelledBy clause.toList) :
    IsBlamedFor clause .lowerNotFirst
  | secondUpper {version : Text} (h : (Clause.below version).IsSpelledBy clause.toList) :
    IsBlamedFor clause .secondUpper

/-- A clause has one form only, so that the reason tells which one it is. -/
theorem IsBlamedFor.reason_iff {clause : Text} {reason : Reason} (h : IsBlamedFor clause reason) :
    (reason = .unrecognized clause ↔ ∀ c : Clause, ¬c.IsSpelledBy clause.toList) ∧
      (reason = .lowerNotFirst ↔ ∃ version, (Clause.atLeast version).IsSpelledBy clause.toList) ∧
      (reason = .secondUpper ↔ ∃ version, (Clause.below version).IsSpelledBy clause.toList) := by
  cases h with
  | unrecognized h => simp [h]
  | lowerNotFirst h =>
    have hother : ∀ version, ¬(Clause.below version).IsSpelledBy clause.toList :=
      fun version h' => absurd (h.unique h') (by simp)
    refine ⟨?_, ?_, ?_⟩
    · simpa using ⟨_, h⟩
    · simpa using ⟨_, h⟩
    · simp [hother]
  | secondUpper h =>
    have hother : ∀ version, ¬(Clause.atLeast version).IsSpelledBy clause.toList :=
      fun version h' => absurd (h.unique h') (by simp)
    refine ⟨?_, ?_, ?_⟩
    · simpa using ⟨_, h⟩
    · simp [hother]
    · simpa using ⟨_, h⟩

section Steps

variable {initial : List Text} {known next : Bounds} {clause : Text}

theorem IsBeginning.concat_iff (h : IsBeginning initial known) :
    IsBeginning (initial ++ [clause]) next ↔
      (∃ version, (Clause.atLeast version).IsSpelledBy clause.toList ∧ known.lower = none ∧
        known.upper = none ∧ next = { known with lower := some (Version.dropV version) }) ∨
      ∃ version, (Clause.below version).IsSpelledBy clause.toList ∧ known.upper = none ∧
        next = { known with upper := some (Version.dropV version) } := by
  cases h with
  | nothing =>
    constructor
    · intro hnext
      cases hnext with
      | lower h => exact Or.inl ⟨_, h, rfl, rfl, rfl⟩
      | upper h => exact Or.inr ⟨_, h, rfl, rfl⟩
    · rintro (⟨version, h, -, -, rfl⟩ | ⟨version, h, -, rfl⟩)
      · exact .lower h
      · exact .upper h
  | lower hfirst =>
    constructor
    · intro hnext
      cases hnext with
      | both hfirst' hsecond =>
        obtain rfl := Clause.atLeast.inj (hfirst.unique hfirst')
        exact Or.inr ⟨_, hsecond, rfl, rfl⟩
    · rintro (⟨version, -, hlower, -, -⟩ | ⟨version, h, -, rfl⟩)
      · exact absurd hlower (Option.some_ne_none _)
      · exact .both hfirst h
  | upper hfirst =>
    constructor
    · intro hnext
      cases hnext with
      | both hfirst' _ => exact absurd (hfirst.unique hfirst') (by simp)
    · rintro (⟨version, -, -, hupper, -⟩ | ⟨version, -, hupper, -⟩)
      · exact absurd hupper (Option.some_ne_none _)
      · exact absurd hupper (Option.some_ne_none _)
  | both hfirst hsecond =>
    constructor
    · intro hnext
      cases hnext
    · rintro (⟨version, -, -, hupper, -⟩ | ⟨version, -, hupper, -⟩)
      · exact absurd hupper (Option.some_ne_none _)
      · exact absurd hupper (Option.some_ne_none _)

theorem addClauses_cons_of_isBeginning (h : IsBeginning initial known)
    (hnext : IsBeginning (initial ++ [clause]) next) (rest : List Text) :
    addClauses known (clause :: rest) = addClauses next rest := by
  rcases h.concat_iff.mp hnext with
    ⟨version, hclause, hlower, hupper, rfl⟩ | ⟨version, hclause, hupper, rfl⟩
  · simp [addClauses, Clause.ofText?_eq_some_iff.mpr hclause, hlower, hupper]
  · simp [addClauses, Clause.ofText?_eq_some_iff.mpr hclause, hupper]

theorem addClauses_cons_of_not_isBeginning (h : IsBeginning initial known)
    (hnext : ∀ next, ¬IsBeginning (initial ++ [clause]) next) (rest : List Text) :
    ∃ reason, IsBlamedFor clause reason ∧
      addClauses known (clause :: rest) = .error (reason, known) := by
  cases hclause : Clause.ofText? clause with
  | none =>
    refine ⟨.unrecognized clause, .unrecognized fun c hc => ?_, by simp [addClauses, hclause]⟩
    rw [Clause.ofText?_eq_some_iff.mpr hc] at hclause
    exact Option.some_ne_none c hclause
  | some c =>
    have hspelled := Clause.ofText?_eq_some_iff.mp hclause
    cases c with
    | atLeast version =>
      have hset : known.lower.isSome || known.upper.isSome := by
        by_contra hnone
        simp only [Bool.or_eq_true, not_or, Option.not_isSome_iff_eq_none] at hnone
        exact hnext _ (h.concat_iff.mpr (Or.inl ⟨version, hspelled, hnone.1, hnone.2, rfl⟩))
      refine ⟨.lowerNotFirst, .lowerNotFirst hspelled, ?_⟩
      simp only [addClauses, hclause]
      rw [if_pos hset]
    | below version =>
      have hset : known.upper.isSome := by
        by_contra hnone
        rw [Option.not_isSome_iff_eq_none] at hnone
        exact hnext _ (h.concat_iff.mpr (Or.inr ⟨version, hspelled, hnone, rfl⟩))
      refine ⟨.secondUpper, .secondUpper hspelled, ?_⟩
      simp only [addClauses, hclause]
      rw [if_pos hset]

end Steps

/-- Why reading stopped: an upper bound is missing, or the next clause cannot stand there. -/
inductive IsStop (initial : List Text) (known : Bounds) : List Text → Reason → Prop
  | missingUpper (h : known.upper = none) : IsStop initial known [] .missingUpper
  | fault {clause : Text} {rest : List Text} {reason : Reason}
    (hblame : IsBlamedFor clause reason) (hnext : ∀ next, ¬IsBeginning (initial ++ [clause]) next) :
    IsStop initial known (clause :: rest) reason

section Runs

variable {initial rest : List Text} {known bounds : Bounds} {reason : Reason}

/-- The clauses taken in are always a beginning, and the known bounds are those it sets. -/
theorem isBeginning_of_addClauses_eq_ok (h : IsBeginning initial known)
    (hok : addClauses known rest = .ok bounds) :
    IsBeginning (initial ++ rest) bounds ∧ bounds.upper.isSome := by
  induction rest generalizing initial known with
  | nil =>
    unfold addClauses at hok
    split_ifs at hok with hupper
    obtain rfl := Except.ok.inj hok
    rw [List.append_nil]
    refine ⟨h, ?_⟩
    rwa [Option.isNone_iff_eq_none, ← Option.not_isSome_iff_eq_none, not_not] at hupper
  | cons clause rest ih =>
    by_cases hnext : ∃ next, IsBeginning (initial ++ [clause]) next
    · obtain ⟨next, hnext⟩ := hnext
      rw [addClauses_cons_of_isBeginning h hnext] at hok
      simpa using ih hnext hok
    · obtain ⟨reason, -, herror⟩ := addClauses_cons_of_not_isBeginning h (not_exists.mp hnext) rest
      rw [herror] at hok
      exact absurd hok (by simp)

theorem exists_isStop_of_addClauses_eq_error (h : IsBeginning initial known)
    (herror : addClauses known rest = .error (reason, bounds)) :
    ∃ read unread, rest = read ++ unread ∧ IsBeginning (initial ++ read) bounds ∧
      IsStop (initial ++ read) bounds unread reason := by
  induction rest generalizing initial known with
  | nil =>
    unfold addClauses at herror
    split_ifs at herror with hupper
    obtain ⟨rfl, rfl⟩ := Prod.mk.inj (Except.error.inj herror)
    refine ⟨[], [], rfl, ?_, .missingUpper (Option.isNone_iff_eq_none.mp hupper)⟩
    rwa [List.append_nil]
  | cons clause rest ih =>
    by_cases hnext : ∃ next, IsBeginning (initial ++ [clause]) next
    · obtain ⟨next, hnext⟩ := hnext
      rw [addClauses_cons_of_isBeginning h hnext] at herror
      obtain ⟨read, unread, rfl, hread, hstop⟩ := ih hnext herror
      rw [List.append_assoc, List.singleton_append] at hread hstop
      exact ⟨clause :: read, unread, rfl, hread, hstop⟩
    · rw [not_exists] at hnext
      obtain ⟨reason', hblame, herror'⟩ := addClauses_cons_of_not_isBeginning h hnext rest
      rw [herror'] at herror
      obtain ⟨rfl, rfl⟩ := Prod.mk.inj (Except.error.inj herror)
      rw [← List.append_nil initial] at h hnext
      exact ⟨[], clause :: rest, rfl, h, .fault hblame hnext⟩

end Runs

theorem IsBeginning.take {initial : List Text} {bounds : Bounds} (h : IsBeginning initial bounds)
    (n : ℕ) : ∃ known, IsBeginning (initial.take n) known := by
  match n with
  | 0 => exact ⟨_, .nothing⟩
  | 1 =>
    cases h with
    | nothing => exact ⟨_, .nothing⟩
    | lower hclause => exact ⟨_, .lower hclause⟩
    | upper hclause => exact ⟨_, .upper hclause⟩
    | both hfirst _ => exact ⟨_, .lower hfirst⟩
  | n + 2 =>
    have hlength : initial.length ≤ n + 2 := by cases h <;> simp
    rw [List.take_of_length_le hlength]
    exact ⟨bounds, h⟩

/-- The bounds are those of `initial`, and no more of the clauses can begin a constraint. -/
structure IsLongestBeginning (clauses initial : List Text) (bounds : Bounds) : Prop where
  beginning : IsBeginning initial bounds
  starts : initial <+: clauses
  longest : ∀ longer, longer <+: clauses → ∀ next, IsBeginning longer next →
    longer.length ≤ initial.length

namespace IsStop

variable {initial unread : List Text} {known : Bounds} {reason : Reason}

theorem isLongestBeginning (hstop : IsStop initial known unread reason)
    (h : IsBeginning initial known) : IsLongestBeginning (initial ++ unread) initial known := by
  refine ⟨h, List.prefix_append _ _, fun longer hlonger next hnext => ?_⟩
  cases hstop with
  | missingUpper _ =>
    rw [List.append_nil] at hlonger
    exact hlonger.length_le
  | @fault clause rest _ _ hfault =>
    by_contra hlength
    have hone : initial ++ [clause] <+: initial ++ clause :: rest :=
      (List.prefix_append_right_inj initial).mpr (by simp)
    have hle : (initial ++ [clause]).length ≤ longer.length := by
      rw [List.length_append, List.length_singleton]
      omega
    have htake := List.prefix_iff_eq_take.mp (List.prefix_of_prefix_length_le hone hlonger hle)
    obtain ⟨known', hknown⟩ := hnext.take (initial ++ [clause]).length
    rw [← htake] at hknown
    exact hfault known' hknown

theorem missingUpper_iff (hstop : IsStop initial known unread reason)
    (h : IsBeginning initial known) (hne : initial ++ unread ≠ []) :
    reason = .missingUpper ↔ unread = [] ∧ ∃ clause version, initial = [clause] ∧
      (Clause.atLeast version).IsSpelledBy clause.toList := by
  cases hstop with
  | missingUpper hupper =>
    cases h with
    | nothing => exact absurd rfl hne
    | lower hclause => simpa using ⟨_, hclause⟩
    | upper _ => exact absurd hupper (Option.some_ne_none _)
    | both _ _ => exact absurd hupper (Option.some_ne_none _)
  | fault hblame _ => cases hblame <;> simp

theorem exists_isBlamedFor (hstop : IsStop initial known unread reason)
    (hreason : reason ≠ .missingUpper) :
    ∃ clause rest, unread = clause :: rest ∧ IsBlamedFor clause reason := by
  cases hstop with
  | missingUpper _ => exact absurd rfl hreason
  | fault hblame _ => exact ⟨_, _, rfl, hblame⟩

end IsStop

end AffectedVersions.Constraint
