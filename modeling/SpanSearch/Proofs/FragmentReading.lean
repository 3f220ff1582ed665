import SpanSearch.Proofs.FilterReading
import SpanSearch.Proofs.RewrittenClauses

/-! Which documents are read as synthesized filters. The query has to be a boolean clause whose lists are arrays; what
    is in these arrays, at whatever depth, never makes a filter unreadable, and a filter whose query is anything else
    is an error and never an authored filter. -/

namespace SpanSearch

/-! ### Records by their members -/

namespace Json

/-- The members that have one of the names. -/
def named (names : List String) (members : List (String × Json)) : List (String × Json) :=
  members.filter fun m => names.contains m.1

/-- Each of the names is given at most once. -/
def Once (names : List String) (members : List (String × Json)) : Prop :=
  ((named names members).map (·.1)).Nodup

section Members
variable {names : List String} {name : String} {j k : Json} {members known : List (String × Json)}

theorem named_zip (names : List String) (items : List Json) : named names (names.zip items) = names.zip items :=
  List.filter_eq_self.mpr fun _ hm => List.contains_iff_mem.mpr (List.of_mem_zip hm).1

theorem once_zip (nodup : names.Nodup) (items : List Json) : Once names (names.zip items) := by
  rw [Once, named_zip, List.zip_eq_zip_take_min, List.map_fst_zip (by simp)]
  exact nodup.sublist (List.take_sublist _ names)

/-- A record is read as the members that have one of its names, if none is repeated. -/
theorem record?_eq_some_iff (nodup : names.Nodup) : record? names j = some known ↔
    ∃ members, j.membersOf? names = some members ∧ Once names members ∧ known = named names members := by
  cases j with
  | array items =>
    rw [record?, membersOf?]
    split
    · simp [once_zip nodup items, named_zip, eq_comm]
    · simp
  | object members =>
    have record : record? names (.object members) =
      if namesDiffer (named names members) then some (named names members) else none := rfl
    rw [record, membersOf?]
    by_cases once : Once names members
    · simp [namesDiffer_iff.mpr once, once, eq_comm]
    · simp [mt namesDiffer_iff.mp once, once]
  | _ => simp [record?, membersOf?]

theorem lookup_named (known : name ∈ names) : (named names members).lookup name = members.lookup name := by
  rw [named, lookup_filter_names, if_pos (List.contains_iff_mem.mpr known)]

theorem Once.lookup_eq_some_iff (once : Once names members) (known : name ∈ names) :
    members.lookup name = some k ↔ (name, k) ∈ members := by
  rw [← lookup_named known, Json.lookup_eq_some_iff once, named, List.mem_filter]
  exact and_iff_left (List.contains_iff_mem.mpr known)

theorem Once.record? (once : Once names members) : record? names (.object members) = some (named names members) :=
  if_pos (namesDiffer_iff.mpr once)

theorem Once.lookup_named_iff (once : Once names members) (known : name ∈ names) :
    (named names members).lookup name = some k ↔ (name, k) ∈ members := by
  rw [lookup_named known, once.lookup_eq_some_iff known]

theorem Once.withDefault_named {α : Type} {read : Json → Option α} {default : α} (once : Once names members)
    (known : name ∈ names) (reads : ∀ k, (name, k) ∈ members → (read k).isSome) :
    withDefault default read name (named names members) = some (((members.lookup name).bind read).getD default) := by
  rw [withDefault, lookup_named known]
  cases held : members.lookup name with
  | none => rfl
  | some k =>
    obtain ⟨a, read⟩ := Option.isSome_iff_exists.mp (reads k ((once.lookup_eq_some_iff known).mp held))
    simp [read]

theorem eq_null_of_optional {α : Type} {read : Json → Option α} (h : Json.optional read name members = some none)
    (held : members.lookup name = some k) : k = .null := by
  rw [Json.optional, held] at h
  cases k with
  | null => rfl
  | _ =>
    obtain ⟨_, -, same⟩ := Option.map_eq_some_iff.mp h
    cases same

theorem exists_optional {α : Type} (read : Json → α) (name : String) (members : List (String × Json)) :
    ∃ o, Json.optional (some ∘ read) name members = some o := by
  rw [Json.optional]
  split
  · exact ⟨_, rfl⟩
  · exact ⟨_, rfl⟩
  · exact ⟨_, rfl⟩

end Members
end Json

/-! ### Bodies of boolean clauses -/

/-- The document is one that a minimum may be given as: a signed 64-bit number or a string, or `null` for none. -/
inductive MinimumMatch.IsGiven : Json → Prop
  | null : IsGiven .null
  | count {n : Whole} (fits : n.value < 2 ^ 63) : IsGiven (.number (.whole n))
  | expression (text : String) : IsGiven (.string text)

namespace MinimumMatch

theorem isSome_read?_whole (n : Whole) : (read? (.number (.whole n))).isSome ↔ n.value < 2 ^ 63 := by
  by_cases fits : n.value < 2 ^ 63
  · have word : Json.int64? (.number (.whole n)) = some (Int64.ofInt n.value) := if_pos fits
    simp only [read?, word, Option.isSome_some, fits]
  · have word : Json.int64? (.number (.whole n)) = none := if_neg fits
    simp only [read?, word, Json.string?, Option.map_none, Option.isSome_none, Bool.false_eq_true, fits]

theorem isSome_read?_iff {j : Json} (present : j ≠ .null) : (read? j).isSome ↔ IsGiven j := by
  constructor
  · intro h
    match j, h with
    | .string text, _ => exact .expression text
    | .number (.whole n), h => exact .count ((isSome_read?_whole n).mp h)
    | .null, _ => exact absurd rfl present
  · intro given
    cases given with
    | null => exact absurd rfl present
    | @count n fits => exact (isSome_read?_whole n).mpr fits
    | expression text => rfl

end MinimumMatch

/-- The document is a record with these members that has the form of a body: the lists are absent or arrays, of any
documents, and the minimum is absent or one that may be given. -/
structure BoolClause.Given (j : Json) (members : List (String × Json)) : Prop where
  spelled : j.membersOf? names = some members
  once : Json.Once names members
  lists : ∀ name ∈ listNames, ∀ k, (name, k) ∈ members → ∃ items, k = .array items
  minimum : ∀ k, ("minimum_should_match", k) ∈ members → MinimumMatch.IsGiven k

namespace Clause
open Json
variable {j : Json} {members : List (String × Json)} {body : BoolClause}

theorem withDefault_readList?_eq_some_iff {name : String} {cs : List Clause} :
    Json.withDefault [] readList? name members = some cs ↔
      (∀ k, members.lookup name = some k → ∃ items, k = .array items) ∧ cs = (itemsUnder name members).map read := by
  rw [Json.withDefault, itemsUnder]
  cases members.lookup name with
  | none => simp [eq_comm]
  | some k => cases k <;> simp [readList?, readAll_eq_map, eq_comm]

theorem isSome_optional_minimum_iff {name : String} : (Json.optional MinimumMatch.read? name members).isSome ↔
    ∀ k, members.lookup name = some k → MinimumMatch.IsGiven k := by
  rw [Json.optional]
  split
  · next absent => simp [absent]
  · next null => simp [null, MinimumMatch.IsGiven.null]
  · next k present held =>
    rw [held, Option.isSome_map, MinimumMatch.isSome_read?_iff present]
    simp

theorem bodyOf?_named : bodyOf? (named BoolClause.names members) = bodyOf? members := by
  have held : ∀ name ∈ BoolClause.names, (named BoolClause.names members).lookup name = members.lookup name :=
    fun _ known => lookup_named known
  simp only [bodyOf?, withDefault, Json.optional, held "must" (by decide), held "filter" (by decide),
    held "should" (by decide), held "must_not" (by decide), held "minimum_should_match" (by decide)]

theorem bodyOf?_eq_some_iff : bodyOf? members = some body ↔
    (∀ name ∈ BoolClause.listNames, ∀ k, members.lookup name = some k → ∃ items, k = .array items) ∧
    body.lists = BoolClause.listNames.map (fun name => (itemsUnder name members).map read) ∧
    Json.optional MinimumMatch.read? "minimum_should_match" members = some body.minimum := by
  obtain ⟨must, filter, should, mustNot, minimum⟩ := body
  simp only [bodyOf?, Option.bind_eq_bind, Option.bind_eq_some_iff, withDefault_readList?_eq_some_iff,
    BoolClause.listNames, List.forall_mem_cons, List.map_cons, List.map_nil, BoolClause.lists, List.cons.injEq,
    Option.some.injEq]
  constructor
  · rintro ⟨_, ⟨hm, rfl⟩, _, ⟨hf, rfl⟩, _, ⟨hs, rfl⟩, _, ⟨hn, rfl⟩, _, given, same⟩
    cases same
    exact ⟨⟨hm, hf, hs, hn, List.forall_mem_nil _⟩, ⟨rfl, rfl, rfl, rfl, trivial⟩, given⟩
  · rintro ⟨⟨hm, hf, hs, hn, -⟩, ⟨must, filter, should, mustNot, -⟩, given⟩
    exact ⟨_, ⟨hm, must⟩, _, ⟨hf, filter⟩, _, ⟨hs, should⟩, _, ⟨hn, mustNot⟩, _, given, rfl⟩

/-- A document is read as a body if it has the form of one, and each list as the clauses that its items are. -/
theorem readBool?_eq_some_iff : readBool? j = some body ↔ ∃ members, BoolClause.Given j members ∧
    body.lists = BoolClause.listNames.map (fun name => (itemsUnder name members).map read) ∧
    Json.optional MinimumMatch.read? "minimum_should_match" members = some body.minimum := by
  have known : ∀ name ∈ BoolClause.listNames, name ∈ BoolClause.names := by decide
  rw [readBool?_eq, Option.bind_eq_some_iff]
  simp only [record?_eq_some_iff (show BoolClause.names.Nodup by decide)]
  constructor
  · rintro ⟨_, ⟨members, spelled, once, rfl⟩, h⟩
    rw [bodyOf?_named, bodyOf?_eq_some_iff] at h
    obtain ⟨arrays, lists, minimum⟩ := h
    have given := isSome_optional_minimum_iff.mp (Option.isSome_of_eq_some minimum)
    refine ⟨members, ⟨spelled, once, fun name hn k hk => ?_, fun k hk => ?_⟩, lists, minimum⟩
    · exact arrays name hn k ((once.lookup_eq_some_iff (known name hn)).mpr hk)
    · exact given k ((once.lookup_eq_some_iff (by decide)).mpr hk)
  · rintro ⟨members, given, lists, minimum⟩
    refine ⟨_, ⟨members, given.spelled, given.once, rfl⟩, ?_⟩
    rw [bodyOf?_named, bodyOf?_eq_some_iff]
    refine ⟨fun name hn k hk => ?_, lists, minimum⟩
    exact given.lists name hn k ((given.once.lookup_eq_some_iff (known name hn)).mp hk)

/-- A document that has the form of a body is read as one. -/
theorem exists_readBool? (given : BoolClause.Given j members) : ∃ body, readBool? j = some body ∧
    body.lists = BoolClause.listNames.map fun name => (itemsUnder name members).map read := by
  have isSome : (Json.optional MinimumMatch.read? "minimum_should_match" members).isSome := by
    refine isSome_optional_minimum_iff.mpr fun k hk => given.minimum k ?_
    exact (given.once.lookup_eq_some_iff (by decide)).mp hk
  obtain ⟨minimum, held⟩ := Option.isSome_iff_exists.mp isSome
  let clauses (name : String) : List Clause := (itemsUnder name members).map read
  refine ⟨⟨clauses "must", clauses "filter", clauses "should", clauses "must_not", minimum⟩, ?_, rfl⟩
  exact readBool?_eq_some_iff.mpr ⟨members, given, rfl, held⟩

theorem read_eq_bool_iff : read j = .bool body ↔
    ∃ content, j = .object [("bool", content)] ∧ readBool? content = some body := by
  constructor
  · intro h
    rcases read_cases j with ⟨content, _, rfl, reads, bool⟩ | ⟨form, content, rfl, leaf⟩ | other
    · cases bool.symm.trans h
      exact ⟨content, rfl, reads⟩
    · rw [h] at leaf
      rcases leaf?_cases leaf with ⟨_, _, _, _, same⟩ | ⟨_, _, _, _, _, _, same⟩ | ⟨_, _, _, same⟩ | ⟨_, _, _, same⟩
      all_goals cases same
    · cases other.symm.trans h
  · rintro ⟨content, rfl, reads⟩
    exact read_bool reads

end Clause

/-! ### Synthesized filters -/

theorem SearchQuery.read?_object {search : List (String × Json)} {query : Json} (once : Json.Once names search)
    (held : ("query", query) ∈ search) : read? (.object search) = some ⟨.read query⟩ := by
  have under := (once.lookup_named_iff (List.mem_singleton_self "query")).mpr held
  rw [read?, once.record?, Option.bind_eq_bind, Option.bind_some, Json.required, under]
  rfl

/-- The query is a boolean clause, and what it holds has the form of a body with these members. -/
def BoolClause.GivenAs (query : Json) (given : List (String × Json)) : Prop :=
  ∃ content, query = .object [("bool", content)] ∧ Given content given

namespace StoredFilter

/-- The members of an object that is stored for a filter with a query: those that are not part of the query have
their own types. -/
structure Queried (members : List (String × Json)) (query : Json) : Prop where
  once : Json.Once names members
  texts : ∀ name ∈ ["field", "operator"], ∀ k, (name, k) ∈ members → ∃ text, k = .string text
  flags : ∀ name ∈ ["inverted", "disabled"], ∀ k, (name, k) ∈ members → ∃ flag, k = .bool flag
  query : ∃ search, ("DSL", .object search) ∈ members ∧ Json.Once SearchQuery.names search ∧ ("query", query) ∈ search

/-- What the filter is about, if its field is a text. -/
def labelIn (members : List (String × Json)) : String :=
  ((members.lookup "field").bind Json.string?).getD ""

variable {members : List (String × Json)} {query : Json}

theorem read?_of_queried (queried : Queried members query) : ∃ s, read? (.object members) = some s ∧
    s.field = labelIn members ∧ s.query = some ⟨Clause.read query⟩ := by
  obtain ⟨search, dsl, once, held⟩ := queried.query
  have once' := queried.once
  have text : ∀ name ∈ ["field", "operator"], ∀ k, (name, k) ∈ members → k.string?.isSome := by
    intro name hn k hk
    obtain ⟨text, rfl⟩ := queried.texts name hn k hk
    rfl
  have flag : ∀ name ∈ ["inverted", "disabled"], ∀ k, (name, k) ∈ members → k.bool?.isSome := by
    intro name hn k hk
    obtain ⟨flag, rfl⟩ := queried.flags name hn k hk
    rfl
  have asked : Json.optional SearchQuery.read? "DSL" (Json.named names members) = some (some ⟨Clause.read query⟩) := by
    rw [Json.optional, (once'.lookup_named_iff (by decide)).mpr dsl]
    exact congrArg (Option.map some) (SearchQuery.read?_object once held)
  obtain ⟨value, valued⟩ := Json.exists_optional FilterValue.read "value" (Json.named names members)
  rw [read?, once'.record?]
  simp only [Option.bind_eq_bind, Option.bind_some, asked, valued,
    once'.withDefault_named (show "field" ∈ names by decide) (text "field" (by decide)),
    once'.withDefault_named (show "operator" ∈ names by decide) (text "operator" (by decide)),
    once'.withDefault_named (show "inverted" ∈ names by decide) (flag "inverted" (by decide)),
    once'.withDefault_named (show "disabled" ∈ names by decide) (flag "disabled" (by decide))]
  exact ⟨_, rfl, rfl, rfl⟩

end StoredFilter

namespace Filter
open StoredFilter
variable {members given : List (String × Json)} {query : Json}

theorem read_of_given (queried : Queried members query) (form : BoolClause.GivenAs query given) :
    ∃ f, read (.object members) = .ok (.synthesized f) ∧
      f.fragment.lists = BoolClause.listNames.map fun name => (Json.itemsUnder name given).map Clause.read := by
  obtain ⟨s, stored, -, asked⟩ := read?_of_queried queried
  obtain ⟨content, rfl, form⟩ := form
  obtain ⟨body, reads, lists⟩ := Clause.exists_readBool? form
  rw [Clause.read_bool reads] at asked
  refine ⟨⟨s.field, (s.value.map (·.text)).getD "", body, s.disabled⟩, ?_, lists⟩
  simp only [read, stored, StoredFilter.filter, asked]

theorem read_of_not_given (queried : Queried members query) (unfit : ∀ given, ¬BoolClause.GivenAs query given) :
    read (.object members) = .error (.fragmentNotBool (labelIn members)) := by
  obtain ⟨s, stored, label, asked⟩ := read?_of_queried queried
  rw [read, stored, ← label]
  simp only [StoredFilter.filter, asked]
  split
  · next body fragment =>
    simp only [Option.some.injEq, SearchQuery.mk.injEq] at fragment
    obtain ⟨content, rfl, reads⟩ := Clause.read_eq_bool_iff.mp fragment
    obtain ⟨given, form, -⟩ := Clause.readBool?_eq_some_iff.mp reads
    exact absurd ⟨content, rfl, form⟩ (unfit given)
  · rfl
  · next unasked => cases unasked

theorem exists_synthesized_iff (queried : Queried members query) :
    (∃ f, read (.object members) = .ok (.synthesized f)) ↔ ∃ given, BoolClause.GivenAs query given := by
  refine ⟨fun ⟨f, reads⟩ => ?_, fun ⟨given, form⟩ => ?_⟩
  · by_contra unfit
    rw [read_of_not_given queried (not_exists.mp unfit)] at reads
    cases reads
  · obtain ⟨f, reads, -⟩ := read_of_given queried form
    exact ⟨f, reads⟩

/-- An authored filter has no query, or `null` in its place. -/
theorem query_null_of_authored {j : Json} {f : AuthoredFilter} (reads : read j = .ok (.authored f))
    (spelled : j.membersOf? names = some members) {k : Json} (held : ("DSL", k) ∈ members) : k = .null := by
  obtain ⟨s, stored, unasked⟩ : ∃ s, StoredFilter.read? j = some s ∧ s.query = none := by
    rw [read] at reads
    split at reads
    · next s stored =>
      refine ⟨s, stored, ?_⟩
      rw [StoredFilter.filter] at reads
      split at reads
      · cases reads
      · cases reads
      · assumption
    · cases reads
  obtain ⟨known, record, h⟩ := Option.bind_eq_some_iff.mp stored
  simp only [Option.bind_eq_bind, Option.bind_eq_some_iff] at h
  obtain ⟨_, -, _, -, _, -, _, -, _, -, query, asked, h⟩ := h
  cases h
  cases unasked
  obtain ⟨members, spelled', once, rfl⟩ := (Json.record?_eq_some_iff (by decide)).mp record
  cases spelled.symm.trans spelled'
  exact Json.eq_null_of_optional asked ((once.lookup_named_iff (by decide)).mpr held)

end Filter

/-! ### Clauses in clauses -/

namespace Json

/-- The two are the same document, or arrays both. -/
def SameButItems (j j' : Json) : Prop :=
  j = j' ∨ ∃ items items', j = .array items ∧ j' = .array items'

/-- The same names hold documents that are the same but for the items of arrays. -/
def AlikeMembers (members members' : List (String × Json)) : Prop :=
  List.Forall₂ (fun m m' => m.1 = m'.1 ∧ SameButItems m.2 m'.2) members members'

section Alike
variable {names : List String} {members members' : List (String × Json)}

theorem AlikeMembers.map_fst (alike : AlikeMembers members members') :
    members.map (·.1) = members'.map (·.1) := by
  induction alike with
  | nil => rfl
  | cons same _ ih => rw [List.map_cons, List.map_cons, same.1, ih]

theorem AlikeMembers.exists_mem (alike : AlikeMembers members members') {name : String} {k' : Json}
    (held : (name, k') ∈ members') : ∃ k, (name, k) ∈ members ∧ SameButItems k k' := by
  induction alike with
  | nil => cases held
  | @cons m m' _ _ same _ ih =>
    rcases List.mem_cons.mp held with rfl | held
    · obtain ⟨rfl, same⟩ : m.1 = name ∧ SameButItems m.2 k' := same
      exact ⟨m.2, List.mem_cons_self, same⟩
    · obtain ⟨k, inside, same⟩ := ih held
      exact ⟨k, List.mem_cons_of_mem _ inside, same⟩

theorem alikeMembers_zip {items items' : List Json} (alike : List.Forall₂ SameButItems items items') :
    AlikeMembers (names.zip items) (names.zip items') := by
  induction alike generalizing names with
  | nil => simp [AlikeMembers]
  | cons same _ ih =>
    cases names with
    | nil => exact .nil
    | cons name names => exact .cons ⟨rfl, same⟩ ih

theorem once_iff : Once names members ↔ ((members.map (·.1)).filter names.contains).Nodup := by
  rw [Once, named, List.filter_map]
  rfl

theorem once_of_alike (alike : AlikeMembers members members') (once : Once names members) : Once names members' := by
  rw [once_iff] at once ⊢
  rwa [← alike.map_fst]

theorem forall₂_amid {α : Type} {R : α → α → Prop} (refl : ∀ a, R a a) {a a' : α} (h : R a a') (before after : List α) :
    List.Forall₂ R (before ++ a :: after) (before ++ a' :: after) :=
  have same (l : List α) : List.Forall₂ R l l := List.forall₂_same.mpr fun b _ => refl b
  List.rel_append (same before) (.cons h (same after))

end Alike
end Json

/-- Only that the lists are arrays counts for the form of a body. -/
theorem BoolClause.Given.of_alike {j j' : Json} {members members' : List (String × Json)} (given : Given j members)
    (spelled : j'.membersOf? names = some members') (alike : Json.AlikeMembers members members') :
    Given j' members' where
  spelled := spelled
  once := Json.once_of_alike alike given.once
  lists name hn k' held := by
    obtain ⟨k, inside, rfl | ⟨_, items', -, rfl⟩⟩ := alike.exists_mem held
    · exact given.lists name hn k inside
    · exact ⟨items', rfl⟩
  minimum k' held := by
    obtain ⟨k, inside, rfl | ⟨_, _, rfl, -⟩⟩ := alike.exists_mem held
    · exact given.minimum k inside
    · cases given.minimum _ inside

namespace Clause

/-- A boolean clause with one place left open, in a list that it holds under a name or at a position. -/
inductive Frame where
  | named (before : List (String × Json)) (name : String) (left right : List Json) (after : List (String × Json))
  | placed (before left right after : List Json)

namespace Frame

/-- The body with a document in the open place. -/
def body (c : Json) : Frame → Json
  | named before name left right after => .object (before ++ (name, .array (left ++ c :: right)) :: after)
  | placed before left right after => .array (before ++ .array (left ++ c :: right) :: after)

/-- The boolean clause with a document in the open place. -/
def fill (frame : Frame) (c : Json) : Json :=
  .object [("bool", frame.body c)]

/-- What is in the open place has no say in whether the body is one. -/
theorem exists_given (frame : Frame) {c c' : Json} {members : List (String × Json)}
    (given : BoolClause.Given (frame.body c) members) : ∃ members', BoolClause.Given (frame.body c') members' := by
  have spelled := given.spelled
  -- Wherever the place is, the two bodies differ only in the items of one array.
  have arrays (left right : List Json) :
      Json.SameButItems (.array (left ++ c :: right)) (.array (left ++ c' :: right)) := .inr ⟨_, _, rfl, rfl⟩
  cases frame with
  | named before name left right after =>
    cases spelled
    have alike : Json.AlikeMembers (before ++ (name, .array (left ++ c :: right)) :: after)
        (before ++ (name, .array (left ++ c' :: right)) :: after) :=
      Json.forall₂_amid (fun _ => ⟨rfl, .inl rfl⟩) ⟨rfl, arrays left right⟩ before after
    exact ⟨_, given.of_alike rfl alike⟩
  | placed before left right after =>
    have alike : List.Forall₂ Json.SameButItems (before ++ .array (left ++ c :: right) :: after)
        (before ++ .array (left ++ c' :: right) :: after) :=
      Json.forall₂_amid (fun _ => .inl rfl) (arrays left right) before after
    rw [body, Json.membersOf?, alike.length_eq] at spelled
    split at spelled
    · next short =>
      cases spelled
      exact ⟨_, given.of_alike (if_pos short) (Json.alikeMembers_zip alike)⟩
    · cases spelled

theorem exists_givenAs_iff (frame : Frame) (c c' : Json) :
    (∃ given, BoolClause.GivenAs (frame.fill c) given) ↔ ∃ given, BoolClause.GivenAs (frame.fill c') given := by
  -- By symmetry one direction is enough.
  have exchange (c c' : Json) : (∃ given, BoolClause.GivenAs (frame.fill c) given) →
      ∃ given, BoolClause.GivenAs (frame.fill c') given := by
    rintro ⟨given, content, same, form⟩
    obtain rfl : frame.body c = content := by simpa [fill] using same
    obtain ⟨given', form'⟩ := frame.exists_given form
    exact ⟨given', frame.body c', rfl, form'⟩
  exact ⟨exchange c c', exchange c' c⟩

end Frame
end Clause

namespace Filter
open StoredFilter Clause

/-- An object that is stored with a query is read as a synthesized filter just if its query is a boolean clause and
has the form of one, whatever the items of its lists are: each of them is read as a clause, in their order. Any other
query is an error that names the filter. No document with a query is read as an authored filter, and no clause that
is in a list of the query, however deep, has a say in whether the filter is read. -/
theorem read_fragment : (∀ {members : List (String × Json)} {query : Json}, Queried members query →
      (∀ given, BoolClause.GivenAs query given → ∃ f, read (.object members) = .ok (.synthesized f) ∧
        f.fragment.lists = BoolClause.listNames.map fun name => (Json.itemsUnder name given).map Clause.read) ∧
      ((∀ given, ¬BoolClause.GivenAs query given) →
        read (.object members) = .error (.fragmentNotBool (labelIn members)))) ∧
    (∀ {j : Json} {f : AuthoredFilter} {members : List (String × Json)}, read j = .ok (.authored f) →
      j.membersOf? names = some members → ∀ k, ("DSL", k) ∈ members → k = .null) ∧
    ∀ (frame : Frame) (inner : List Frame) (c c' : Json) {members members' : List (String × Json)},
      Queried members (frame.fill (inner.foldr Frame.fill c)) →
      Queried members' (frame.fill (inner.foldr Frame.fill c')) →
      ((∃ f, read (.object members) = .ok (.synthesized f)) ↔ ∃ f, read (.object members') = .ok (.synthesized f)) := by
  refine ⟨fun queried => ⟨fun _ => read_of_given queried, read_of_not_given queried⟩,
    fun reads spelled _ => query_null_of_authored reads spelled, ?_⟩
  intro frame inner c c' members members' queried queried'
  rw [exists_synthesized_iff queried, exists_synthesized_iff queried']
  exact frame.exists_givenAs_iff _ _

/-- A body by position, with a clause in it that is no boolean clause because its list is none, and a filter that is
no longer read when this clause is the query. -/
theorem read_fragment_malformed_clause :
    let malformed : Json := .object [("bool", .object [("must", .string "all")])]
    let stored (query : Json) : List (String × Json) :=
      [("value", .null), ("field", .string "redis"), ("DSL", .object [("size", .null), ("query", query)])]
    let frame : Frame := .placed [.array []] [.null] [] [.array [.array [.bool true]]]
    (∃ f, read (.object (stored (frame.fill malformed))) = .ok (.synthesized f) ∧
      f.fragment.lists = [[], [.other (.ofJson .null), .other (.ofJson malformed)],
        [.other (.ofJson (.array [.bool true]))], []]) ∧
    read (.object (stored malformed)) = .error (.fragmentNotBool "redis") := by
  intro malformed stored frame
  have queried (query : Json) : Queried (stored query) query := {
    once := by simp [Json.Once, Json.named, stored, names]
    texts := by simp [stored]
    flags := by simp [stored]
    query := ⟨_, .tail _ (.tail _ (.head _)), by simp [Json.Once, Json.named, SearchQuery.names], .tail _ (.head _)⟩ }
  have form : BoolClause.Given (frame.body malformed) [("must", .array []), ("filter", .array [.null, malformed]),
      ("should", .array [.array [.bool true]])] := {
    spelled := rfl
    once := by simp [Json.Once, Json.named, BoolClause.names]
    lists := by simp [BoolClause.listNames]
    minimum := by simp }
  refine ⟨(read_fragment.1 (queried (frame.fill malformed))).1 _ ⟨frame.body malformed, rfl, form⟩,
    (read_fragment.1 (queried malformed)).2 ?_⟩
  rintro given ⟨content, same, form⟩
  obtain rfl : .object [("must", .string "all")] = content := by simpa [malformed] using same
  cases form.spelled
  obtain ⟨_, array⟩ := form.lists "must" (by decide) _ (List.mem_singleton_self _)
  cases array

end Filter
end SpanSearch
