import SpanSearch.Proofs.Literals

/-! The text of a document. A lossless document that is nested at most 127 levels deep is read back from its
    text, on one line or over several, and nothing that is read from a text is nested deeper. -/

namespace SpanSearch

/-! ### Two layouts as one -/

/-- The blanks between the tokens of a text. -/
structure Spacing where
  /-- What stands before an item, a member or the end of a list that is not empty. -/
  lineBreak : Nat → List Char
  afterColon : List Char
  lineBreak_gap : ∀ level, ∀ c ∈ lineBreak level, Written.isGap c
  afterColon_gap : ∀ c ∈ afterColon, Written.isGap c

namespace Spacing

/-- No blanks at all. -/
def none : Spacing where
  lineBreak _ := []
  afterColon := []
  lineBreak_gap _ := List.forall_mem_nil _
  afterColon_gap := List.forall_mem_nil _

/-- Each item and member on a line of its own, and a space after a colon. -/
def lines : Spacing where
  lineBreak := Json.newLine
  afterColon := [' ']
  lineBreak_gap level c hc := by
    rcases List.mem_cons.mp hc with rfl | hc
    · rfl
    · rw [List.eq_of_mem_replicate hc]
      rfl
  afterColon_gap c hc := by
    rw [List.mem_singleton.mp hc]
    rfl

end Spacing

namespace Json
variable (spacing : Spacing)

mutual

/-- The text of a document with the given spacing, from a level of nesting on. -/
def spelled (level : Nat) : Json → List Char
  | array [] => ['[', ']']
  | array (j :: rest) =>
    '[' :: (spacing.lineBreak (level + 1) ++ spelled (level + 1) j ++ spelledItems level rest)
  | object [] => ['{', '}']
  | object ((name, j) :: rest) =>
    '{' :: (spacing.lineBreak (level + 1) ++ quoted name ++ ':' :: (spacing.afterColon ++
      (spelled (level + 1) j ++ spelledMembers level rest)))
  | j => compact j

/-- The items after the first one, and the closing bracket. -/
def spelledItems (level : Nat) : List Json → List Char
  | [] => spacing.lineBreak level ++ [']']
  | j :: rest => ',' :: (spacing.lineBreak (level + 1) ++ spelled (level + 1) j ++ spelledItems level rest)

/-- The members after the first one, and the closing brace. -/
def spelledMembers (level : Nat) : List (String × Json) → List Char
  | [] => spacing.lineBreak level ++ ['}']
  | (name, j) :: rest =>
    ',' :: (spacing.lineBreak (level + 1) ++ quoted name ++ ':' :: (spacing.afterColon ++
      (spelled (level + 1) j ++ spelledMembers level rest)))

end

mutual

theorem spelled_none (level : Nat) : ∀ j : Json, spelled .none level j = compact j
  | null | bool true | bool false | number _ | string _ | array [] | object [] => by simp only [spelled, compact]
  | array (j :: rest) => by
    rw [spelled, compact, spelled_none (level + 1) j, spelledItems_none level rest]
    rfl
  | object ((name, j) :: rest) => by
    rw [spelled, compact, spelled_none (level + 1) j, spelledMembers_none level rest]
    rfl

theorem spelledItems_none (level : Nat) : ∀ items : List Json, spelledItems .none level items = compactItems items
  | [] => rfl
  | j :: rest => by
    rw [spelledItems, compactItems, spelled_none (level + 1) j, spelledItems_none level rest]
    rfl

theorem spelledMembers_none (level : Nat) :
    ∀ members : List (String × Json), spelledMembers .none level members = compactMembers members
  | [] => rfl
  | (name, j) :: rest => by
    rw [spelledMembers, compactMembers, spelled_none (level + 1) j, spelledMembers_none level rest]
    rfl

end

mutual

theorem spelled_lines (level : Nat) : ∀ j : Json, spelled .lines level j = indented level j
  | null | bool _ | number _ | string _ | array [] | object [] => by simp only [spelled, indented]
  | array (j :: rest) => by
    rw [spelled, indented, spelled_lines (level + 1) j, spelledItems_lines level rest]
    rfl
  | object ((name, j) :: rest) => by
    rw [spelled, indented, spelled_lines (level + 1) j, spelledMembers_lines level rest]
    rfl

theorem spelledItems_lines (level : Nat) :
    ∀ items : List Json, spelledItems .lines level items = indentedItems level items
  | [] => rfl
  | j :: rest => by
    rw [spelledItems, indentedItems, spelled_lines (level + 1) j, spelledItems_lines level rest]
    rfl

theorem spelledMembers_lines (level : Nat) :
    ∀ members : List (String × Json), spelledMembers .lines level members = indentedMembers level members
  | [] => rfl
  | (name, j) :: rest => by
    rw [spelledMembers, indentedMembers, spelled_lines (level + 1) j, spelledMembers_lines level rest]
    rfl

end

end Json

namespace Written
open Json

/-! ### Scanning a document and what follows it -/

/-- A text starts with a document, and what follows is `rest`, blanks aside. -/
def StartsWith (fuel : Nat) (text : List Char) (j : Json) (rest : List Char) : Prop :=
  ∃ w after, scan fuel text = some (w, after) ∧ skipBlanks after = skipBlanks rest ∧
    ∀ depth, j.nesting ≤ depth → w.read? depth .everything = some j

/-- A text starts with items up to the closing bracket, and what follows is `rest`. -/
def StartsWithItems (fuel : Nat) (text : List Char) (items : List Json) (rest : List Char) : Prop :=
  ∃ ws, scanItems fuel text = some (ws, rest) ∧
    ∀ depth, nestingItems items ≤ depth → readItems? depth [] ws = some items

/-- A text starts with members up to the closing brace, and what follows is `rest`. -/
def StartsWithMembers (fuel : Nat) (text : List Char) (members : List (String × Json)) (rest : List Char) : Prop :=
  ∃ ws, scanMembers fuel text = some (ws, rest) ∧
    ∀ depth, nestingMembers members ≤ depth → readMembers? depth .everything ws = some members

theorem scan_skipBlanks (fuel : Nat) (text : List Char) : scan fuel (skipBlanks text) = scan fuel text := by
  cases fuel with
  | zero => rw [scan, scan]
  | succ fuel => rw [scan, scan, skipBlanks_skipBlanks]

theorem scanItems_skipBlanks (fuel : Nat) (text : List Char) : scanItems fuel (skipBlanks text) = scanItems fuel text := by
  cases fuel with
  | zero => rw [scanItems, scanItems]
  | succ fuel => rw [scanItems, scanItems, scan_skipBlanks]

theorem scanMembers_skipBlanks (fuel : Nat) (text : List Char) :
    scanMembers fuel (skipBlanks text) = scanMembers fuel text := by
  cases fuel with
  | zero => rw [scanMembers, scanMembers]
  | succ fuel => rw [scanMembers, scanMembers, skipBlanks_skipBlanks]

section Steps
variable {fuel : Nat} {text more rest : List Char} {j : Json} {items : List Json} {name : String}
  {members : List (String × Json)}

theorem StartsWith.gap_append {gap : List Char} (hg : ∀ c ∈ gap, isGap c) (h : StartsWith fuel text j rest) :
    StartsWith fuel (gap ++ text) j rest := by
  obtain ⟨w, after, hs, ha, hr⟩ := h
  refine ⟨w, after, ?_, ha, hr⟩
  rw [← scan_skipBlanks, skipBlanks_gap_append hg, scan_skipBlanks, hs]

theorem startsWithItems_last (h : StartsWith fuel text j more) (hm : skipBlanks more = ']' :: rest) :
    StartsWithItems (fuel + 1) text [j] rest := by
  obtain ⟨w, after, hs, ha, hr⟩ := h
  refine ⟨[w], ?_, fun depth hd => ?_⟩
  · rw [scanItems, hs, Option.bind_eq_bind, Option.bind_some]
    simp only [ha, hm]
  · rw [nestingItems, nestingItems, Nat.max_le] at hd
    simp only [readItems?, List.headD_nil, hr depth hd.1, Option.bind_eq_bind, Option.bind_some, Option.map_some]

theorem startsWithItems_cons {tail : List Char} (h : StartsWith fuel text j more) (hm : skipBlanks more = ',' :: tail)
    (hi : StartsWithItems fuel tail items rest) : StartsWithItems (fuel + 1) text (j :: items) rest := by
  obtain ⟨w, after, hs, ha, hr⟩ := h
  obtain ⟨ws, hws, hrs⟩ := hi
  refine ⟨w :: ws, ?_, fun depth hd => ?_⟩
  · rw [scanItems, hs, Option.bind_eq_bind, Option.bind_some]
    simp only [ha, hm, hws]
    rfl
  · rw [nestingItems, Nat.max_le] at hd
    simp only [readItems?, List.headD_nil, List.tail_nil, hr depth hd.1, hrs depth hd.2, Option.bind_eq_bind,
      Option.bind_some, Option.map_some]

theorem startsWith_array (hb : skipBlanks text = '[' :: more) (h : StartsWithItems fuel more items rest) :
    StartsWith (fuel + 1) text (.array items) rest := by
  obtain ⟨ws, hs, hr⟩ := h
  refine ⟨.array ws, rest, ?_, rfl, fun depth hd => ?_⟩
  · rw [scan, hb]
    simp only
    split
    · next after close =>
      -- No item starts with the bracket that closes the list.
      rw [← scanItems_skipBlanks, close] at hs
      cases fuel with
      | zero => rw [scanItems] at hs; cases hs
      | succ fuel =>
        cases fuel with
        | zero => rw [scanItems, scan] at hs; cases hs
        | succ fuel => rw [scanItems, scan] at hs; cases hs
    · rw [scanItems_skipBlanks, hs, Option.map_some]
  · cases depth with
    | zero => rw [nesting] at hd; cases hd
    | succ depth =>
      rw [nesting, Nat.succ_le_succ_iff] at hd
      rw [read?, Shape.positions]
      simp only [hr depth hd, Option.map_some]

/-- The name of a member, its colon and its value are read before anything else is looked at. -/
theorem scanMembers_value {value : List Char} {w : Written} {after : List Char}
    (hb : skipBlanks text = quoted name ++ ':' :: value) (hs : scan fuel value = some (w, after)) :
    scanMembers (fuel + 1) text =
      match skipBlanks after with
      | '}' :: after => some ([(name.toList.map .char, w)], after)
      | ',' :: more => (scanMembers fuel more).map fun (members, after) =>
          ((name.toList.map .char, w) :: members, after)
      | _ => none := by
  rw [quoted, List.cons_append, List.append_assoc] at hb
  rw [scanMembers, hb]
  simp only [List.cons_append, List.nil_append, scanString_quoted, Option.bind_eq_bind, Option.bind_some,
    skipBlanks_of_not_gap (rfl : isGap ':' = false), hs]
  generalize skipBlanks after = follow
  split
  · rfl
  · next more =>
    change _ = (scanMembers fuel more).map _
    cases scanMembers fuel more <;> rfl
  · simp only

theorem startsWithMembers_last {value : List Char} (hb : skipBlanks text = quoted name ++ ':' :: value)
    (h : StartsWith fuel value j more) (hm : skipBlanks more = '}' :: rest) :
    StartsWithMembers (fuel + 1) text [(name, j)] rest := by
  obtain ⟨w, after, hs, ha, hr⟩ := h
  refine ⟨[(name.toList.map .char, w)], ?_, fun depth hd => ?_⟩
  · rw [scanMembers_value hb hs, ha, hm]
    rfl
  · rw [nestingMembers, nestingMembers, Nat.max_le] at hd
    simp only [readMembers?, string?_map_char, Shape.member?, hr depth hd.1, Option.bind_eq_bind, Option.bind_some,
      Option.map_some]

theorem startsWithMembers_cons {value tail : List Char} (hb : skipBlanks text = quoted name ++ ':' :: value)
    (h : StartsWith fuel value j more) (hm : skipBlanks more = ',' :: tail)
    (hi : StartsWithMembers fuel tail members rest) : StartsWithMembers (fuel + 1) text ((name, j) :: members) rest := by
  obtain ⟨w, after, hs, ha, hr⟩ := h
  obtain ⟨ws, hws, hrs⟩ := hi
  refine ⟨(name.toList.map .char, w) :: ws, ?_, fun depth hd => ?_⟩
  · rw [scanMembers_value hb hs, ha, hm]
    simp only [hws, Option.map_some]
  · rw [nestingMembers, Nat.max_le] at hd
    simp only [readMembers?, string?_map_char, Shape.member?, hr depth hd.1, hrs depth hd.2, Option.bind_eq_bind,
      Option.bind_some, Option.map_some]

theorem startsWith_object (hb : skipBlanks text = '{' :: more) (h : StartsWithMembers fuel more members rest) :
    StartsWith (fuel + 1) text (.object members) rest := by
  obtain ⟨ws, hs, hr⟩ := h
  refine ⟨.object ws, rest, ?_, rfl, fun depth hd => ?_⟩
  · rw [scan, hb]
    simp only
    split
    · next after close =>
      -- No member starts with the brace that closes the list.
      rw [← scanMembers_skipBlanks, close] at hs
      cases fuel with
      | zero => rw [scanMembers] at hs; cases hs
      | succ fuel => rw [scanMembers] at hs; cases hs
    · rw [scanMembers_skipBlanks, hs, Option.map_some]
  · cases depth with
    | zero => rw [nesting] at hd; cases hd
    | succ depth =>
      rw [nesting, Nat.succ_le_succ_iff] at hd
      rw [read?]
      simp only [hr depth hd, Option.map_some]

theorem startsWith_array_nil (hb : skipBlanks text = '[' :: ']' :: rest) : StartsWith (fuel + 1) text (.array []) rest := by
  refine ⟨.array [], rest, ?_, rfl, fun depth hd => ?_⟩
  · rw [scan, hb]
    simp only [skipBlanks_of_not_gap (rfl : isGap ']' = false)]
  · cases depth with
    | zero => cases hd
    | succ depth => rfl

theorem startsWith_object_nil (hb : skipBlanks text = '{' :: '}' :: rest) :
    StartsWith (fuel + 1) text (.object []) rest := by
  refine ⟨.object [], rest, ?_, rfl, fun depth hd => ?_⟩
  · rw [scan, hb]
    simp only [skipBlanks_of_not_gap (rfl : isGap '}' = false)]
  · cases depth with
    | zero => cases hd
    | succ depth => rfl

end Steps

/-! ### Scanning a text that has been written -/

variable (spacing : Spacing)

theorem endsNumber_gap_append {gap : List Char} (hg : ∀ c ∈ gap, isGap c) {text : List Char} (h : EndsNumber text) :
    EndsNumber (gap ++ text) := by
  cases gap with
  | nil => exact h
  | cons c more =>
    have gap := hg c List.mem_cons_self
    simp only [isGap, Bool.or_eq_true, beq_iff_eq] at gap
    rcases gap with ((rfl | rfl) | rfl) | rfl <;> exact endsNumber_cons (by decide)

theorem endsNumber_spelledItems (level : Nat) (items : List Json) (rest : List Char) :
    EndsNumber (spelledItems spacing level items ++ rest) := by
  cases items with
  | nil =>
    rw [spelledItems, List.append_assoc]
    exact endsNumber_gap_append (spacing.lineBreak_gap level) (endsNumber_cons (by decide))
  | cons j more => exact endsNumber_cons (by decide)

theorem endsNumber_spelledMembers (level : Nat) (members : List (String × Json)) (rest : List Char) :
    EndsNumber (spelledMembers spacing level members ++ rest) := by
  cases members with
  | nil =>
    rw [spelledMembers, List.append_assoc]
    exact endsNumber_gap_append (spacing.lineBreak_gap level) (endsNumber_cons (by decide))
  | cons m more => exact endsNumber_cons (by decide)

theorem length_spelledItems_pos (level : Nat) (items : List Json) : 0 < (spelledItems spacing level items).length := by
  cases items <;> simp [spelledItems]

theorem length_spelledMembers_pos (level : Nat) (members : List (String × Json)) :
    0 < (spelledMembers spacing level members).length := by
  cases members <;> simp [spelledMembers]

theorem skipBlanks_spelledItems_nil (level : Nat) (rest : List Char) :
    skipBlanks (spelledItems spacing level [] ++ rest) = ']' :: rest := by
  rw [spelledItems, List.append_assoc, skipBlanks_gap_append (spacing.lineBreak_gap level)]
  rfl

theorem skipBlanks_spelledMembers_nil (level : Nat) (rest : List Char) :
    skipBlanks (spelledMembers spacing level [] ++ rest) = '}' :: rest := by
  rw [spelledMembers, List.append_assoc, skipBlanks_gap_append (spacing.lineBreak_gap level)]
  rfl

theorem startsWith_plain {j : Json} {w : Written} {fuel : Nat} {text rest : List Char}
    (hs : scan fuel text = some (w, rest)) (hr : ∀ depth, w.read? depth .everything = some j) :
    StartsWith fuel text j rest :=
  ⟨w, rest, hs, rfl, fun depth _ => hr depth⟩

/-- The text of the items of an array without the comma before the first one. -/
theorem spelled_array (level : Nat) (j : Json) (items : List Json) :
    spelled spacing level (.array (j :: items)) = '[' :: (spelledItems spacing level (j :: items)).tail := by
  rw [spelled, spelledItems, List.tail_cons]

theorem spelled_object (level : Nat) (m : String × Json) (members : List (String × Json)) :
    spelled spacing level (.object (m :: members)) = '{' :: (spelledMembers spacing level (m :: members)).tail := by
  rw [spelled, spelledMembers, List.tail_cons]

mutual

/-- A written document is read as the document, whatever follows it: a step of the scan takes at least one
    character, so that the length of the text is fuel enough. -/
theorem scan_spelled : ∀ (j : Json) (level fuel : Nat) (rest : List Char), j.Lossless → EndsNumber rest →
    (spelled spacing level j).length < fuel → StartsWith fuel (spelled spacing level j ++ rest) j rest
  | j, level, 0, rest, _, _, hf => absurd hf (Nat.not_lt_zero _)
  | .null, level, fuel + 1, rest, _, _, _ =>
    startsWith_plain (scan_plain (skipBlanks_of_not_gap rfl _) (by decide) (by decide) (by decide) fuel) fun _ => rfl
  | .bool true, level, fuel + 1, rest, _, _, _ =>
    startsWith_plain (scan_plain (skipBlanks_of_not_gap rfl _) (by decide) (by decide) (by decide) fuel) fun _ => rfl
  | .bool false, level, fuel + 1, rest, _, _, _ =>
    startsWith_plain (scan_plain (skipBlanks_of_not_gap rfl _) (by decide) (by decide) (by decide) fuel) fun _ => rfl
  | .number n, level, fuel + 1, rest, hl, hr, _ => by
    obtain ⟨w, after, hs, ha, hw⟩ := scan_number hl hr fuel
    exact ⟨w, after, hs, ha, fun depth _ => hw depth⟩
  | .string s, level, fuel + 1, rest, _, _, _ => by
    have hs : scan (fuel + 1) (quoted s ++ rest) = some (.string (s.toList.map .char), rest) := by
      rw [quoted, List.cons_append, List.append_assoc, List.singleton_append, scan, skipBlanks_of_not_gap rfl]
      simp only [scanString_quoted, Option.map_some]
    exact startsWith_plain hs fun _ => by rw [read?, string?_map_char, Option.map_some]
  | .array [], level, fuel + 1, rest, _, _, _ => startsWith_array_nil (skipBlanks_of_not_gap rfl _)
  | .object [], level, fuel + 1, rest, _, _, _ => startsWith_object_nil (skipBlanks_of_not_gap rfl _)
  | .array (j :: items), level, fuel + 1, rest, hl, hr, hf => by
    rw [spelled_array] at hf ⊢
    refine startsWith_array (skipBlanks_of_not_gap rfl _) ?_
    exact scanItems_spelled (j :: items) level fuel rest (List.cons_ne_nil _ _) hl
      (by simpa only [List.length_cons, Nat.succ_lt_succ_iff] using hf)
  | .object (m :: members), level, fuel + 1, rest, hl, hr, hf => by
    rw [spelled_object] at hf ⊢
    refine startsWith_object (skipBlanks_of_not_gap rfl _) ?_
    exact scanMembers_spelled (m :: members) level fuel rest (List.cons_ne_nil _ _) hl
      (by simpa only [List.length_cons, Nat.succ_lt_succ_iff] using hf)

theorem scanItems_spelled : ∀ (items : List Json) (level fuel : Nat) (rest : List Char), items ≠ [] →
    LosslessItems items → (spelledItems spacing level items).tail.length < fuel →
      StartsWithItems fuel ((spelledItems spacing level items).tail ++ rest) items rest
  | [], _, _, _, h, _, _ => absurd rfl h
  | _ :: _, _, 0, _, _, _, hf => absurd hf (Nat.not_lt_zero _)
  | j :: items, level, fuel + 1, rest, _, hl, hf => by
    rw [spelledItems, List.tail_cons] at hf ⊢
    rw [List.append_assoc, List.append_assoc]
    simp only [List.length_append] at hf
    have more := length_spelledItems_pos spacing level items
    have here := (scan_spelled j (level + 1) fuel _ hl.1 (endsNumber_spelledItems spacing level items rest)
      (by omega)).gap_append (spacing.lineBreak_gap (level + 1))
    cases items with
    | nil => exact startsWithItems_last here (skipBlanks_spelledItems_nil spacing level rest)
    | cons k items =>
      refine startsWithItems_cons here (skipBlanks_of_not_gap rfl _) ?_
      exact scanItems_spelled (k :: items) level fuel rest (List.cons_ne_nil _ _) hl.2 (by
        rw [List.length_tail]
        omega)

theorem scanMembers_spelled : ∀ (members : List (String × Json)) (level fuel : Nat) (rest : List Char), members ≠ [] →
    LosslessMembers members → (spelledMembers spacing level members).tail.length < fuel →
      StartsWithMembers fuel ((spelledMembers spacing level members).tail ++ rest) members rest
  | [], _, _, _, h, _, _ => absurd rfl h
  | _ :: _, _, 0, _, _, _, hf => absurd hf (Nat.not_lt_zero _)
  | (name, j) :: members, level, fuel + 1, rest, _, hl, hf => by
    rw [spelledMembers, List.tail_cons] at hf ⊢
    have colon : skipBlanks (spacing.lineBreak (level + 1) ++ quoted name ++ ':' :: (spacing.afterColon ++
        (spelled spacing (level + 1) j ++ spelledMembers spacing level members)) ++ rest) =
        quoted name ++ ':' :: (spacing.afterColon ++
          (spelled spacing (level + 1) j ++ (spelledMembers spacing level members ++ rest))) := by
      simp only [List.append_assoc, List.cons_append]
      rw [skipBlanks_gap_append (spacing.lineBreak_gap (level + 1))]
      exact skipBlanks_of_not_gap rfl _
    simp only [List.length_append, List.length_cons] at hf
    have more := length_spelledMembers_pos spacing level members
    have here := (scan_spelled j (level + 1) fuel _ hl.1 (endsNumber_spelledMembers spacing level members rest)
      (by omega)).gap_append spacing.afterColon_gap
    cases members with
    | nil => exact startsWithMembers_last colon here (skipBlanks_spelledMembers_nil spacing level rest)
    | cons m members =>
      refine startsWithMembers_cons colon here (skipBlanks_of_not_gap rfl _) ?_
      exact scanMembers_spelled (m :: members) level fuel rest (List.cons_ne_nil _ _) hl.2 (by
        rw [List.length_tail]
        omega)

end

/-! ### Nesting of what is read -/

mutual

/-- What is read as a whole is nested no deeper than the limit. -/
theorem nesting_of_read? : ∀ {w : Written} {depth : Nat} {j : Json}, w.read? depth .everything = some j →
    j.nesting ≤ depth
  | .null, depth, j, h => by
    cases h
    exact Nat.zero_le depth
  | .bool b, depth, j, h => by
    cases h
    exact Nat.zero_le depth
  | .number literal, depth, j, h => by
    obtain ⟨n, -, rfl⟩ := Option.map_eq_some_iff.mp h
    exact Nat.zero_le depth
  | .string pieces, depth, j, h => by
    obtain ⟨s, -, rfl⟩ := Option.map_eq_some_iff.mp h
    exact Nat.zero_le depth
  | .array items, 0, j, h => by cases h
  | .array items, depth + 1, j, h => by
    obtain ⟨js, hjs, rfl⟩ := Option.map_eq_some_iff.mp h
    rw [nesting]
    exact Nat.succ_le_succ (nesting_of_readItems? hjs)
  | .object members, 0, j, h => by cases h
  | .object members, depth + 1, j, h => by
    obtain ⟨ms, hms, rfl⟩ := Option.map_eq_some_iff.mp h
    rw [nesting]
    exact Nat.succ_le_succ (nesting_of_readMembers? hms)

theorem nesting_of_readItems? : ∀ {ws : List Written} {depth : Nat} {items : List Json},
    readItems? depth [] ws = some items → nestingItems items ≤ depth
  | [], depth, items, h => by
    cases h
    exact Nat.zero_le depth
  | w :: ws, depth, items, h => by
    obtain ⟨j, hj, h⟩ := Option.bind_eq_some_iff.mp h
    obtain ⟨js, hjs, rfl⟩ := Option.map_eq_some_iff.mp h
    rw [nestingItems, Nat.max_le]
    exact ⟨nesting_of_read? hj, nesting_of_readItems? hjs⟩

theorem nesting_of_readMembers? : ∀ {ws : List (List Piece × Written)} {depth : Nat} {members : List (String × Json)},
    readMembers? depth .everything ws = some members → nestingMembers members ≤ depth
  | [], depth, members, h => by
    cases h
    exact Nat.zero_le depth
  | (pieces, w) :: ws, depth, members, h => by
    obtain ⟨name, -, h⟩ := Option.bind_eq_some_iff.mp h
    obtain ⟨j, hj, h⟩ := Option.bind_eq_some_iff.mp h
    obtain ⟨ms, hms, rfl⟩ := Option.map_eq_some_iff.mp h
    rw [nestingMembers, Nat.max_le]
    exact ⟨nesting_of_read? hj, nesting_of_readMembers? hms⟩

end

end Written

namespace Json

theorem ofText?_spelled (spacing : Spacing) {j : Json} (lossless : j.Lossless) (nested : j.nesting ≤ 127) :
    ofText? (String.ofList (spelled spacing 0 j)) = some j := by
  have fuel : (spelled spacing 0 j).length < 2 * (spelled spacing 0 j).length + 1 := by omega
  obtain ⟨w, after, hs, ha, hr⟩ := Written.scan_spelled spacing j 0 _ [] lossless Written.endsNumber_nil fuel
  rw [List.append_nil] at hs
  exact Written.ofText?_of_scan hs ha (hr _ nested)

/-- A lossless document is read back from its text on one line. -/
theorem ofText?_text {j : Json} (lossless : j.Lossless) (nested : j.nesting ≤ 127) : ofText? j.text = some j := by
  rw [text, ← spelled_none 0 j]
  exact ofText?_spelled .none lossless nested

/-- A lossless document is read back from its text over several lines. -/
theorem ofText?_prettyText {j : Json} (lossless : j.Lossless) (nested : j.nesting ≤ 127) :
    ofText? j.prettyText = some j := by
  rw [prettyText, ← spelled_lines 0 j]
  exact ofText?_spelled .lines lossless nested

/-- Nothing that is read from a text is nested more than 127 levels deep. -/
theorem nesting_of_ofText? {text : String} {j : Json} (h : ofText? text = some j) : j.nesting ≤ 127 := by
  obtain ⟨w, -, hr⟩ := Option.bind_eq_some_iff.mp h
  exact Written.nesting_of_read? hr

end Json
end SpanSearch
