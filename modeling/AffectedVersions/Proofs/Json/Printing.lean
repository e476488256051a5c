import AffectedVersions.Proofs.Json.Numbers
import AffectedVersions.Proofs.Json.Strings

/-! Every value that can be held is read back from the text in which it is written. -/
namespace AffectedVersions.Json

/-- An integer has no more digits than may be read, and an object no two members of one name. -/
inductive IsReadable : Json → Prop where
  | null : IsReadable .null
  | bool (b : Bool) : IsReadable (.bool b)
  | int {n : Int} (hlength : n.natAbs.repr.length ≤ Numeral.maxDigits) : IsReadable (.int n)
  | real (x : Decimal) : IsReadable (.real x)
  | str (s : Text) : IsReadable (.str s)
  | arr {xs : List Json} (hitems : ∀ x ∈ xs, IsReadable x) : IsReadable (.arr xs)
  | obj {ms : List (String × Json)} (hnames : (ms.map Prod.fst).Nodup)
      (hvalues : ∀ m ∈ ms, IsReadable m.2) : IsReadable (.obj ms)

section Distinct

theorem put_of_notMem {name : String} {known : List (String × Json)} (h : name ∉ known.map Prod.fst)
    (value : Json) : put name value known = known ++ [(name, value)] := by
  induction known with
  | nil => rfl
  | cons m known ih =>
    rw [List.map_cons, List.mem_cons, not_or] at h
    rw [put, if_neg (Ne.symm h.1), ih h.2, List.cons_append]

theorem foldl_put {known ms : List (String × Json)} (h : ((known ++ ms).map Prod.fst).Nodup) :
    ms.foldl (fun known member => put member.1 member.2 known) known = known ++ ms := by
  induction ms generalizing known with
  | nil => rw [List.foldl_nil, List.append_nil]
  | cons m ms ih =>
    have hnew : m.1 ∉ known.map Prod.fst := by
      rw [List.map_append, List.map_cons] at h
      intro hmem
      exact List.disjoint_of_nodup_append h hmem List.mem_cons_self
    rw [List.append_cons] at h
    rw [List.foldl_cons, put_of_notMem hnew, ih h, ← List.append_cons]

theorem distinct_of_nodup {ms : List (String × Json)} (h : (ms.map Prod.fst).Nodup) : distinct ms = ms :=
  foldl_put h

end Distinct

/-- A value is followed by nothing, by a comma or by space. -/
def EndsValue (rest : List Char) : Prop := ∀ c ∈ rest.head?, c = ',' ∨ isSpace c = true

theorem EndsValue.endsNumber {rest : List Char} (h : EndsValue rest) : EndsNumber rest := by
  intro c hc
  have hend := h c hc
  simp only [isSpace, Bool.or_eq_true, beq_iff_eq] at hend
  rcases hend with rfl | ((rfl | rfl) | rfl) | rfl <;> decide

theorem endsValue_newline (depth : Nat) (rest : List Char) : EndsValue (newline depth ++ rest) := by
  intro c hc
  obtain rfl : '\n' = c := Option.some.inj hc
  exact Or.inr rfl

theorem endsValue_comma (rest : List Char) : EndsValue (',' :: rest) :=
  fun _ hc => Or.inl (Option.some.inj hc).symm

/-- The characters with which a value can start. -/
def startsValue (c : Char) : Bool := c.isDigit || ['"', '[', '{', '-', 'n', 't', 'f', 'N', 'I'].contains c

theorem startsValue_ne {c d : Char} (h : startsValue c = true) (hd : startsValue d = false) : c ≠ d := by
  rintro rfl
  exact absurd (h.symm.trans hd) (by decide)

theorem startsValue_of_isDigit {c : Char} (h : c.isDigit = true) : startsValue c = true := by
  rw [startsValue, h, Bool.true_or]

theorem exists_startsValue_renderInt (n : Int) :
    ∃ c cs, renderInt n = c :: cs ∧ startsValue c = true := by
  obtain ⟨c, ds, hds, hc⟩ := exists_toDigits_eq_cons n.natAbs
  rw [renderInt_eq, hds]
  split_ifs
  · exact ⟨'-', c :: ds, rfl, rfl⟩
  · exact ⟨c, ds, rfl, startsValue_of_isDigit hc⟩

theorem exists_startsValue (depth : Nat) (x : Json) :
    ∃ c cs, renderAt depth x = c :: cs ∧ startsValue c = true := by
  cases x with
  | null => exact ⟨_, _, rfl, rfl⟩
  | bool b => cases b <;> exact ⟨_, _, rfl, rfl⟩
  | int n => exact exists_startsValue_renderInt n
  | real x =>
    cases x with
    | finite mantissa exponent =>
      obtain ⟨c, cs, hcs, hc⟩ := exists_startsValue_renderInt mantissa
      refine ⟨c, cs ++ 'e' :: renderInt exponent, ?_, hc⟩
      change renderInt mantissa ++ _ = _
      rw [hcs, List.cons_append]
    | infinite negative => cases negative <;> exact ⟨_, _, rfl, rfl⟩
    | nan => exact ⟨_, _, rfl, rfl⟩
  | str _ => exact ⟨_, _, rfl, rfl⟩
  | arr xs => cases xs <;> exact ⟨_, _, rfl, rfl⟩
  | obj ms => rcases ms with _ | ⟨⟨name, x⟩, ms⟩ <;> exact ⟨_, _, rfl, rfl⟩

theorem skipSpace_of_ne {c : Char} (h : isSpace c = false) (cs : List Char) :
    skipSpace (c :: cs) = c :: cs := List.dropWhile_cons_of_neg (by simp [h])

theorem skipSpace_of_startsValue {c : Char} (h : startsValue c = true) (cs : List Char) :
    skipSpace (c :: cs) = c :: cs := by
  apply skipSpace_of_ne
  simp [isSpace, startsValue_ne h (d := ' ') rfl, startsValue_ne h (d := '\t') rfl,
    startsValue_ne h (d := '\n') rfl, startsValue_ne h (d := '\r') rfl]

theorem skipSpace_of_forall {cs : List Char} (h : ∀ c ∈ cs, isSpace c = true) (rest : List Char) :
    skipSpace (cs ++ rest) = skipSpace rest := List.dropWhile_append_of_pos h

theorem skipSpace_newline (depth : Nat) (rest : List Char) :
    skipSpace (newline depth ++ rest) = skipSpace rest := by
  apply skipSpace_of_forall
  intro c hc
  rcases List.mem_cons.mp hc with rfl | hspace
  · rfl
  · exact List.eq_of_mem_replicate hspace ▸ rfl

theorem skipSpace_renderAt (depth : Nat) (x : Json) (rest : List Char) :
    skipSpace (renderAt depth x ++ rest) = renderAt depth x ++ rest := by
  obtain ⟨c, cs, hcs, hc⟩ := exists_startsValue depth x
  rw [hcs, List.cons_append, skipSpace_of_startsValue hc]

section Literals

variable {c : Char} {rest : List Char}

theorem beq_of_isDigit {d : Char} (h : c.isDigit = true) (hd : d.isDigit = false) : (d == c) = false := by
  rw [beq_eq_false_iff_ne]
  rintro rfl
  exact absurd (h.symm.trans hd) (by decide)

theorem literal?_of_isDigit (h : c.isDigit = true) : literal? (c :: rest) = none := by
  have hne : ∀ d : Char, d.isDigit = false → (d == c) = false := fun d => beq_of_isDigit h
  simp [literal?, literals, List.isPrefixOf?, hne]

theorem literal?_of_minus (h : c.isDigit = true) : literal? ('-' :: c :: rest) = none := by
  have hne : ∀ d : Char, d.isDigit = false → (d == c) = false := fun d => beq_of_isDigit h
  simp [literal?, literals, List.isPrefixOf?, hne]

end Literals

theorem value_renderInt (fuel : Nat) (n : Int) (rest : List Char) :
    value (fuel + 1) (renderInt n ++ rest) = number (renderInt n ++ rest) := by
  obtain ⟨c, ds, hds, hc⟩ := exists_toDigits_eq_cons n.natAbs
  rw [renderInt_eq, hds]
  split_ifs
  · rw [List.singleton_append, List.cons_append, List.cons_append, value, literal?_of_minus hc]
    all_goals simp
  · have hne : ∀ d : Char, d.isDigit = false → c ≠ d := by
      rintro d hd rfl
      exact absurd (hc.symm.trans hd) (by decide)
    rw [List.nil_append, List.cons_append, value, literal?_of_isDigit hc]
    all_goals simp [hne]

/-- The value is read back wherever it stands, with as much fuel as its text has characters. -/
def ReadsBack (x : Json) : Prop :=
  ∀ (depth fuel : Nat) (rest : List Char), EndsValue rest → (renderAt depth x).length ≤ fuel →
    value fuel (renderAt depth x ++ rest) = .ok (x, rest)

theorem renderString_append (name : String) (rest : List Char) :
    renderString name ++ rest = '"' :: (name.toList.flatMap escapeChar ++ '"' :: rest) := by
  rw [renderString, Text.toList_ofString, List.flatMap_map, List.append_assoc, List.cons_append,
    List.singleton_append]
  rfl

section Steps

variable {fuel : Nat} {x : Json} {cs rest tail : List Char}

theorem items_of_bracket (hx : value fuel cs = .ok (x, rest)) (hrest : skipSpace rest = ']' :: tail) :
    items (fuel + 1) cs = .ok ([x], tail) := by
  rw [items, hx, Step.andThen_ok, hrest]
  rfl

theorem items_of_comma (hx : value fuel cs = .ok (x, rest)) (hrest : skipSpace rest = ',' :: tail) :
    items (fuel + 1) cs = (items fuel (skipSpace tail)).map (x :: ·) := by
  rw [items, hx, Step.andThen_ok, hrest]
  rfl

theorem members_of_brace (name : String) (hx : value fuel (skipSpace cs) = .ok (x, rest))
    (hrest : skipSpace rest = '}' :: tail) :
    members (fuel + 1) (renderString name ++ ':' :: cs) = .ok ([(name, x)], tail) := by
  rw [renderString_append, members, string_flatMap, Step.andThen_ok, skipSpace_of_ne rfl]
  change (value fuel (skipSpace cs)).andThen _ = _
  rw [hx, Step.andThen_ok, hrest, nameOfCodes_map]
  rfl

theorem members_of_comma (name : String) (hx : value fuel (skipSpace cs) = .ok (x, rest))
    (hrest : skipSpace rest = ',' :: tail) :
    members (fuel + 1) (renderString name ++ ':' :: cs) =
      (members fuel (skipSpace tail)).map ((name, x) :: ·) := by
  rw [renderString_append, members, string_flatMap, Step.andThen_ok, skipSpace_of_ne rfl]
  change (value fuel (skipSpace cs)).andThen _ = _
  rw [hx, Step.andThen_ok, hrest, nameOfCodes_map]
  rfl

theorem value_of_bracket {c : Char} (hrest : skipSpace rest = c :: cs) (hc : c ≠ ']') :
    value (fuel + 1) ('[' :: rest) = (items fuel (c :: cs)).map .arr := by
  rw [value, hrest]
  split
  · next heq => exact absurd (List.head_eq_of_cons_eq heq) hc
  · rfl

theorem value_of_brace {c : Char} (hrest : skipSpace rest = c :: cs) (hc : c ≠ '}') :
    value (fuel + 1) ('{' :: rest) = (members fuel (c :: cs)).map fun ms => .obj (distinct ms) := by
  rw [value, hrest]
  split
  · next heq => exact absurd (List.head_eq_of_cons_eq heq) hc
  · rfl

end Steps

section Parts

variable {xs : List Json} {ms : List (String × Json)} {depth close fuel : Nat} {rest : List Char}

theorem items_renderItems {x : Json} (hx : ReadsBack x) (hxs : ∀ y ∈ xs, ReadsBack y)
    (hfuel : (renderAt depth x).length + (renderItems depth xs).length < fuel) :
    items fuel (renderAt depth x ++ (renderItems depth xs ++ (newline close ++ ']' :: rest))) =
      .ok (x :: xs, rest) := by
  obtain ⟨fuel, rfl⟩ := Nat.exists_eq_add_one_of_ne_zero (Nat.ne_zero_of_lt hfuel)
  induction xs generalizing x fuel with
  | nil =>
    have hvalue := hx depth fuel (newline close ++ ']' :: rest) (endsValue_newline close _) (by omega)
    exact items_of_bracket hvalue (skipSpace_newline close _)
  | cons y ys ih =>
    obtain ⟨hy, hys⟩ := List.forall_mem_cons.mp hxs
    simp only [renderItems, List.length_append, List.length_cons] at hfuel
    obtain ⟨fuel, rfl⟩ := Nat.exists_eq_add_one_of_ne_zero (n := fuel) (by omega)
    have hnext : renderItems depth (y :: ys) ++ (newline close ++ ']' :: rest) =
        ',' :: (newline depth ++
          (renderAt depth y ++ (renderItems depth ys ++ (newline close ++ ']' :: rest)))) := by
      simp [renderItems]
    have hvalue := fun tail => hx depth (fuel + 1) _ (endsValue_comma tail) (by omega)
    rw [hnext, items_of_comma (hvalue _) (skipSpace_of_ne rfl _), skipSpace_newline,
      skipSpace_renderAt, ih hy hys fuel (by omega), Step.map_ok]

theorem members_renderMembers {name : String} {x : Json} (hx : ReadsBack x)
    (hms : ∀ m ∈ ms, ReadsBack m.2)
    (hfuel : (renderAt depth x).length + (renderMembers depth ms).length < fuel) :
    members fuel (renderString name ++ ':' :: ' ' :: (renderAt depth x ++
      (renderMembers depth ms ++ (newline close ++ '}' :: rest)))) = .ok ((name, x) :: ms, rest) := by
  obtain ⟨fuel, rfl⟩ := Nat.exists_eq_add_one_of_ne_zero (Nat.ne_zero_of_lt hfuel)
  have hspace : ∀ x tail, skipSpace (' ' :: (renderAt depth x ++ tail)) = renderAt depth x ++ tail :=
    skipSpace_renderAt depth
  induction ms generalizing name x fuel with
  | nil =>
    have hvalue := hx depth fuel (newline close ++ '}' :: rest) (endsValue_newline close _) (by omega)
    rw [← hspace] at hvalue
    exact members_of_brace name hvalue (skipSpace_newline close _)
  | cons m ms ih =>
    obtain ⟨next, y⟩ := m
    obtain ⟨hy, hys⟩ : ReadsBack y ∧ ∀ m ∈ ms, ReadsBack m.2 := List.forall_mem_cons.mp hms
    simp only [renderMembers, List.length_append, List.length_cons] at hfuel
    obtain ⟨fuel, rfl⟩ := Nat.exists_eq_add_one_of_ne_zero (n := fuel) (by omega)
    have hnext : renderMembers depth ((next, y) :: ms) ++ (newline close ++ '}' :: rest) =
        ',' :: (newline depth ++ (renderString next ++ ':' :: ' ' ::
          (renderAt depth y ++ (renderMembers depth ms ++ (newline close ++ '}' :: rest))))) := by
      simp [renderMembers]
    have hvalue : ∀ tail, value (fuel + 1) (skipSpace (' ' :: (renderAt depth x ++ ',' :: tail))) =
        .ok (x, ',' :: tail) := by
      intro tail
      rw [hspace]
      exact hx depth (fuel + 1) _ (endsValue_comma tail) (by omega)
    rw [hnext, members_of_comma name (hvalue _) (skipSpace_of_ne rfl _), skipSpace_newline,
      renderString_append, skipSpace_of_ne rfl, ← renderString_append, ih hy hys fuel (by omega),
      Step.map_ok]

end Parts

theorem exists_eq_add_one_of_length_le {depth fuel : Nat} {x : Json}
    (h : (renderAt depth x).length ≤ fuel) : ∃ less, fuel = less + 1 := by
  obtain ⟨c, cs, hcs, _⟩ := exists_startsValue depth x
  rw [hcs, List.length_cons] at h
  exact Nat.exists_eq_add_one_of_ne_zero (Nat.ne_zero_of_lt h)

namespace ReadsBack

theorem arr {xs : List Json} (h : ∀ x ∈ xs, ReadsBack x) : ReadsBack (.arr xs) := by
  intro depth fuel rest _ hfuel
  obtain ⟨fuel, rfl⟩ := exists_eq_add_one_of_length_le hfuel
  cases xs with
  | nil => rfl
  | cons x xs =>
    obtain ⟨hx, hxs⟩ := List.forall_mem_cons.mp h
    have htext : renderAt depth (.arr (x :: xs)) ++ rest = '[' :: (newline (depth + 1) ++
        (renderAt (depth + 1) x ++
          (renderItems (depth + 1) xs ++ (newline depth ++ ']' :: rest)))) := by
      simp [renderAt]
    simp only [renderAt, List.length_append, List.length_cons] at hfuel
    have hitems : items fuel (renderAt (depth + 1) x ++
        (renderItems (depth + 1) xs ++ (newline depth ++ ']' :: rest))) = .ok (x :: xs, rest) :=
      items_renderItems hx hxs (by omega)
    have hstart := skipSpace_renderAt (depth + 1) x
      (renderItems (depth + 1) xs ++ (newline depth ++ ']' :: rest))
    obtain ⟨c, cs, hcs, hc⟩ := exists_startsValue (depth + 1) x
    rw [← skipSpace_newline (depth + 1), hcs, List.cons_append] at hstart
    rw [hcs, List.cons_append] at hitems
    rw [htext, hcs, List.cons_append, value_of_bracket hstart (startsValue_ne hc rfl), hitems, Step.map_ok]

theorem obj {ms : List (String × Json)} (hnames : (ms.map Prod.fst).Nodup)
    (h : ∀ m ∈ ms, ReadsBack m.2) : ReadsBack (.obj ms) := by
  intro depth fuel rest _ hfuel
  obtain ⟨fuel, rfl⟩ := exists_eq_add_one_of_length_le hfuel
  rcases ms with _ | ⟨⟨name, x⟩, ms⟩
  · rfl
  · obtain ⟨hx, hms⟩ : ReadsBack x ∧ ∀ m ∈ ms, ReadsBack m.2 := List.forall_mem_cons.mp h
    have htext : renderAt depth (.obj ((name, x) :: ms)) ++ rest = '{' :: (newline (depth + 1) ++
        (renderString name ++ ':' :: ' ' :: (renderAt (depth + 1) x ++
          (renderMembers (depth + 1) ms ++ (newline depth ++ '}' :: rest))))) := by
      simp [renderAt]
    simp only [renderAt, List.length_append, List.length_cons] at hfuel
    have hmembers : members fuel (renderString name ++ ':' :: ' ' :: (renderAt (depth + 1) x ++
        (renderMembers (depth + 1) ms ++ (newline depth ++ '}' :: rest)))) =
          .ok ((name, x) :: ms, rest) := members_renderMembers hx hms (by omega)
    rw [renderString_append] at htext hmembers
    rw [htext, value_of_brace (skipSpace_newline _ _ |>.trans (skipSpace_of_ne rfl _)) (by decide),
      hmembers, Step.map_ok, distinct_of_nodup hnames]

theorem ofLiteral {x : Json} {c : Char} {cs : List Char} (hquote : c ≠ '"') (hbracket : c ≠ '[')
    (hbrace : c ≠ '{') (htext : ∀ depth, renderAt depth x = c :: cs)
    (h : ∀ rest, literal? (c :: cs ++ rest) = some (x, rest)) : ReadsBack x := by
  intro depth fuel rest _ hfuel
  obtain ⟨fuel, rfl⟩ := exists_eq_add_one_of_length_le hfuel
  have hliteral := h rest
  rw [List.cons_append] at hliteral
  rw [htext, List.cons_append, value, hliteral]
  all_goals simp [hquote, hbracket, hbrace]

theorem real (x : Decimal) : ReadsBack (.real x) := by
  cases x with
  | finite mantissa exponent =>
    intro depth fuel rest hrest hfuel
    obtain ⟨fuel, rfl⟩ := exists_eq_add_one_of_length_le hfuel
    have htext : renderDecimal (.finite mantissa exponent) ++ rest =
        renderInt mantissa ++ 'e' :: (renderInt exponent ++ rest) := List.append_assoc ..
    rw [renderAt, htext, value_renderInt, ← htext,
      number_renderDecimal _ _ fun c hc => (hrest.endsNumber c hc).1]
  | infinite negative =>
    cases negative
    · exact ofLiteral (by decide) (by decide) (by decide) (fun _ => rfl) fun _ => rfl
    · exact ofLiteral (by decide) (by decide) (by decide) (fun _ => rfl) fun _ => rfl
  | nan => exact ofLiteral (by decide) (by decide) (by decide) (fun _ => rfl) fun _ => rfl

theorem int {n : Int} (hlength : n.natAbs.repr.length ≤ Numeral.maxDigits) : ReadsBack (.int n) := by
  intro depth fuel rest hrest hfuel
  obtain ⟨fuel, rfl⟩ := exists_eq_add_one_of_length_le hfuel
  rw [renderAt, value_renderInt, number_renderInt hlength hrest.endsNumber]

theorem str {s : Text} (h : s.isWhole = true) : ReadsBack (.str s) := by
  obtain ⟨s, rfl⟩ := Text.isWhole_iff_exists.mp h
  intro depth fuel rest _ hfuel
  obtain ⟨fuel, rfl⟩ := exists_eq_add_one_of_length_le hfuel
  rw [renderAt, renderString_append, value, string_flatMap, Step.map_ok, ofCodes_map]

end ReadsBack

theorem areWhole_iff {xs : List Json} : areWhole xs = true ↔ ∀ x ∈ xs, x.isWhole = true := by
  induction xs with
  | nil => simp [areWhole]
  | cons x xs ih => simp [areWhole, ih]

theorem haveWholeValues_iff {ms : List (String × Json)} :
    haveWholeValues ms = true ↔ ∀ m ∈ ms, m.2.isWhole = true := by
  induction ms with
  | nil => simp [haveWholeValues]
  | cons m ms ih => rw [haveWholeValues, Bool.and_eq_true, ih, List.forall_mem_cons]

theorem IsReadable.readsBack {x : Json} (h : IsReadable x) (hwhole : x.isWhole = true) :
    ReadsBack x := by
  induction h with
  | null => exact .ofLiteral (by decide) (by decide) (by decide) (fun _ => rfl) fun _ => rfl
  | bool b =>
    cases b
    · exact .ofLiteral (by decide) (by decide) (by decide) (fun _ => rfl) fun _ => rfl
    · exact .ofLiteral (by decide) (by decide) (by decide) (fun _ => rfl) fun _ => rfl
  | int hlength => exact .int hlength
  | real x => exact .real x
  | str s =>
    rw [isWhole] at hwhole
    exact .str hwhole
  | arr _ ih =>
    rw [isWhole, areWhole_iff] at hwhole
    exact .arr fun x hx => ih x hx (hwhole x hx)
  | obj hnames _ ih =>
    rw [isWhole, haveWholeValues_iff] at hwhole
    exact .obj hnames fun m hm => ih m hm (hwhole m hm)

theorem parse_renderAt {x : Json} (h : IsReadable x) (hwhole : x.isWhole = true) {tail : List Char}
    (htail : ∀ c ∈ tail, isSpace c = true) : parse (renderAt 0 x ++ tail) = .ok x := by
  have hend : EndsValue tail := fun c hc => Or.inr (htail c (List.mem_of_mem_head? hc))
  have hfuel : (renderAt 0 x).length ≤ enoughFuel (renderAt 0 x ++ tail) := by
    rw [enoughFuel, List.length_append]
    omega
  have hspace : skipSpace tail = [] := by
    have hskip := skipSpace_of_forall htail []
    rwa [List.append_nil] at hskip
  have hmark : (renderAt 0 x ++ tail).head? ≠ some '\uFEFF' := by
    obtain ⟨c, cs, hcs, hc⟩ := exists_startsValue 0 x
    rw [hcs, List.cons_append, List.head?_cons]
    exact fun heq => startsValue_ne hc rfl (Option.some.inj heq)
  have hdocument : document (renderAt 0 x ++ tail) = .ok x := by
    rw [document, if_neg hmark, skipSpace_renderAt, h.readsBack hwhole 0 _ tail hend hfuel, Step.andThen_ok,
      hspace]
  rw [parse, hdocument]
  rfl

end AffectedVersions.Json
