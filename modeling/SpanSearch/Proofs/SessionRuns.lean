import SpanSearch.CommandLine.Run
import SpanSearch.Proofs.CanonicalFilters
import SpanSearch.Proofs.DocumentText

/-! Sessions that are changed and saved step by step. After every step the store holds the session: what is
    loaded from it is the session, with the defaults in place of an empty start or end. Filters that were loaded
    are canonical and have left room for their list, so they survive every later save. -/

namespace SpanSearch

/-! ### Filters in a list -/

namespace Filter

/-- The filter as it is read back from its stored form, or itself if that is no filter. -/
def reread (f : Filter) : Filter :=
  match read f.json with
  | .ok f' => f'
  | .error _ => f

/-- A filter that a list of filters can hold as text: its stored form is that of a filter, its numbers are read
    back from their text, and it leaves a level of nesting for the list. -/
structure Listable (f : Filter) : Prop where
  readBack : read f.json = .ok f.reread
  lossless : f.json.Lossless
  nested : f.json.nesting ≤ 126

/-- A filter that a list of filters can hold as it is. -/
structure Storable (f : Filter) : Prop extends Listable f where
  same : f.reread = f

theorem reread_eq {f f' : Filter} (h : read f.json = .ok f') : f.reread = f' := by
  rw [reread, h]

theorem Storable.of_read {f : Filter} (h : read f.json = .ok f) (lossless : f.json.Lossless)
    (nested : f.json.nesting ≤ 126) : f.Storable where
  readBack := (reread_eq h).symm ▸ h
  lossless := lossless
  nested := nested
  same := reread_eq h

end Filter

/-! ### Defaults -/

/-- A text, or a default in place of an empty one. -/
def orDefault (default text : String) : String :=
  if text.isEmpty then default else text

theorem orDefault_self {default : String} (h : default.isEmpty = false) : orDefault default default = default := by
  rw [orDefault, h]
  rfl

theorem orDefault_empty (text : String) : orDefault "" text = text := by
  rw [orDefault]
  split
  · next empty => exact (String.isEmpty_iff.mp empty).symm
  · rfl

theorem orDefault_orDefault {default : String} (h : default.isEmpty = false) (text : String) :
    orDefault default (orDefault default text) = orDefault default text := by
  cases empty : text.isEmpty with
  | true =>
    have same : orDefault default text = default := if_pos empty
    rw [same, orDefault_self h]
  | false =>
    have same : orDefault default text = text := if_neg (by simp [empty])
    rw [same, same]

namespace TimeRange

/-- The range with the default in place of an empty start or end. -/
def orStandard (r : TimeRange) : TimeRange :=
  ⟨orDefault defaultStart r.start, orDefault defaultFinish r.finish⟩

@[simp] theorem orStandard_orStandard (r : TimeRange) : r.orStandard.orStandard = r.orStandard := by
  rw [orStandard, orStandard, orDefault_orDefault (by decide), orDefault_orDefault (by decide)]

end TimeRange

namespace Session

/-! ### Lists of filters as text -/

theorem readEntries_json : ∀ (filters : List Filter) (position : Nat), (∀ f ∈ filters, f.Listable) →
    readEntries position (filters.map (·.json)) = (filters.map (·.reread), [])
  | [], _, _ => rfl
  | f :: rest, position, listable => by
    obtain ⟨here, tail⟩ := List.forall_mem_cons.mp listable
    have read : Filter.read (Value.ofJson f.json).json = .ok f.reread :=
      (Filter.read_collapse f.distinct_json).trans here.readBack
    rw [List.map_cons, readEntries, readEntries_json rest (position + 1) tail, read, List.map_cons]

theorem ofText?_filtersText {filters : List Filter} (listable : ∀ f ∈ filters, f.Listable) :
    Json.ofText? (filtersText filters) = some (.array (filters.map (·.json))) := by
  refine Json.ofText?_text ?_ ?_
  · rw [Json.lossless_array, List.forall_mem_map]
    exact fun f hf => (listable f hf).lossless
  · rw [Json.nesting_array_le, List.forall_mem_map]
    exact fun f hf => (listable f hf).nested

theorem readFilters_filtersText {filters : List Filter} (listable : ∀ f ∈ filters, f.Listable) :
    readFilters (filtersText filters) = (filters.map (·.reread), []) := by
  rw [readFilters, ofText?_filtersText listable]
  exact readEntries_json filters 0 listable

theorem filtersText_ne_empty {filters : List Filter} (listable : ∀ f ∈ filters, f.Listable) :
    (filtersText filters).isEmpty = false := by
  have read := ofText?_filtersText listable
  cases empty : (filtersText filters).isEmpty with
  | false => rfl
  | true =>
    rw [String.isEmpty_iff.mp empty] at read
    cases read

theorem mem_readEntries {f : Filter} : ∀ {entries : List Json} {position : Nat},
    f ∈ (readEntries position entries).1 → ∃ e ∈ entries, Filter.read (Value.ofJson e).json = .ok f
  | [], _, h => by cases h
  | e :: rest, position, h => by
    simp only [readEntries] at h
    split at h
    · next f' read =>
      rcases List.mem_cons.mp h with rfl | h
      · exact ⟨e, List.mem_cons_self, read⟩
      · obtain ⟨e', he, read⟩ := mem_readEntries h
        exact ⟨e', List.mem_cons_of_mem e he, read⟩
    · obtain ⟨e', he, read⟩ := mem_readEntries h
      exact ⟨e', List.mem_cons_of_mem e he, read⟩

/-- A filter that has been read from a list is read back, and leaves room for the list. -/
theorem readBack_of_mem_readFilters {text : String} {f : Filter} (h : f ∈ (readFilters text).1) :
    Filter.read f.json = .ok f ∧ f.json.nesting ≤ 126 := by
  rw [readFilters] at h
  split at h
  · next entries list =>
    obtain ⟨e, he, read⟩ := mem_readEntries h
    have nested : e.nesting ≤ 126 := Json.nesting_array_le.mp (Json.nesting_of_ofText? list) e he
    have canonical := Filter.canonical_of_read (Value.distinct_json _) read
    exact ⟨Filter.read_json canonical, Filter.nesting_of_read (by decide) read (nesting_ofJson nested)⟩
  · cases h

/-! ### What is loaded -/

/-- The filters that a store holds. -/
def storedFilters (store : Store) : List Filter :=
  match nonEmpty? store filtersKey with
  | some text => (readFilters text).1
  | none => []

/-- The string of a key, or a default if it is missing or empty. -/
def heldOr (default : String) (store : Store) (key : String) : String :=
  (nonEmpty? store key).getD default

theorem load_eq (store : Store) : (load store).1 =
    ⟨heldOr "" store textKey, storedFilters store,
      ⟨heldOr TimeRange.defaultStart store startKey, heldOr TimeRange.defaultFinish store finishKey⟩⟩ := by
  rw [load, storedFilters]
  cases nonEmpty? store filtersKey <;> rfl

theorem nonEmpty?_set (store : Store) (key other value : String) :
    nonEmpty? (store.set key value) other =
      if other = key then (if value.isEmpty then none else some value) else nonEmpty? store other := by
  rw [nonEmpty?, Store.get?_set]
  by_cases same : other = key
  · rw [if_pos same, if_pos same, Option.filter_some]
    cases value.isEmpty <;> rfl
  · rw [if_neg same, if_neg same, nonEmpty?]

theorem heldOr_set_same (default : String) (store : Store) (key value : String) :
    heldOr default (store.set key value) key = orDefault default value := by
  rw [heldOr, nonEmpty?_set, if_pos rfl, orDefault]
  cases value.isEmpty <;> rfl

theorem heldOr_set_other (default : String) (store : Store) {key other : String} (value : String) (h : other ≠ key) :
    heldOr default (store.set key value) other = heldOr default store other := by
  rw [heldOr, nonEmpty?_set, if_neg h, heldOr]

theorem storedFilters_set_same {filters : List Filter} (store : Store) (listable : ∀ f ∈ filters, f.Listable) :
    storedFilters (store.set filtersKey (filtersText filters)) = filters.map (·.reread) := by
  rw [storedFilters, nonEmpty?_set, if_pos rfl, filtersText_ne_empty listable]
  exact congrArg Prod.fst (readFilters_filtersText listable)

theorem storedFilters_set_other (store : Store) {key : String} (value : String) (h : filtersKey ≠ key) :
    storedFilters (store.set key value) = storedFilters store := by
  rw [storedFilters, nonEmpty?_set, if_neg h, storedFilters]

theorem load_set_text (store : Store) (text : String) :
    (load (store.set textKey text)).1 = { (load store).1 with text } := by
  rw [load_eq, load_eq, heldOr_set_same, orDefault_empty, storedFilters_set_other _ _ (by decide),
    heldOr_set_other _ _ _ (by decide), heldOr_set_other _ _ _ (by decide)]

theorem load_set_filters {filters : List Filter} (store : Store) (listable : ∀ f ∈ filters, f.Listable) :
    (load (store.set filtersKey (filtersText filters))).1 =
      { (load store).1 with filters := filters.map (·.reread) } := by
  rw [load_eq, load_eq, storedFilters_set_same store listable, heldOr_set_other _ _ _ (by decide),
    heldOr_set_other _ _ _ (by decide), heldOr_set_other _ _ _ (by decide)]

theorem load_set_start (store : Store) (start : String) :
    (load (store.set startKey start)).1 =
      { (load store).1 with range := ⟨orDefault TimeRange.defaultStart start, (load store).1.range.finish⟩ } := by
  rw [load_eq, load_eq, heldOr_set_same, storedFilters_set_other _ _ (by decide),
    heldOr_set_other _ _ _ (by decide), heldOr_set_other _ _ _ (by decide)]

theorem load_set_finish (store : Store) (finish : String) :
    (load (store.set finishKey finish)).1 =
      { (load store).1 with range := ⟨(load store).1.range.start, orDefault TimeRange.defaultFinish finish⟩ } := by
  rw [load_eq, load_eq, heldOr_set_same, storedFilters_set_other _ _ (by decide),
    heldOr_set_other _ _ _ (by decide), heldOr_set_other _ _ _ (by decide)]

theorem orDefault_heldOr {default : String} (h : default.isEmpty = false) (store : Store) (key : String) :
    orDefault default (heldOr default store key) = heldOr default store key := by
  rw [heldOr]
  cases held : nonEmpty? store key with
  | none => exact orDefault_self h
  | some text =>
    obtain ⟨-, present⟩ := Option.filter_eq_some_iff.mp held
    exact if_neg (by simpa using present)

/-- The session as it is loaded once it has been saved: an empty start or end has its default. -/
def asLoaded (s : Session) : Session :=
  { s with range := s.range.orStandard }

theorem asLoaded_load (store : Store) : (load store).1.asLoaded = (load store).1 := by
  rw [load_eq, asLoaded, TimeRange.orStandard, orDefault_heldOr (by decide), orDefault_heldOr (by decide)]

/-! ### Steps -/

/-- The session with its filters as they are read back. -/
def reread (s : Session) : Session :=
  { s with filters := s.filters.map (·.reread) }

/-- The filters that a change brings with it. -/
def Change.passed : Change → List Filter
  | filters given => given
  | addFilter f => [f]
  | text _ | start _ | finish _ => []

/-- A store holds a session, and its filters can be stored again. -/
structure Saved (s : Session) (store : Store) : Prop where
  loaded : (load store).1 = s.asLoaded
  storable : ∀ f ∈ s.filters, f.Storable

theorem saved_load {store : Store} (lossless : ∀ f ∈ (load store).1.filters, f.json.Lossless) :
    Saved (load store).1 store where
  loaded := (asLoaded_load store).symm
  storable f hf := by
    have text : ∃ text, f ∈ (readFilters text).1 := by
      rw [load_eq, storedFilters] at hf
      simp only at hf
      split at hf
      · next text _ => exact ⟨text, hf⟩
      · cases hf
    obtain ⟨text, listed⟩ := text
    obtain ⟨readBack, nested⟩ := readBack_of_mem_readFilters listed
    exact .of_read readBack (lossless f hf) nested

variable {s : Session} {store : Store} {c : Change}

theorem reread_of_storable (h : ∀ f ∈ s.filters, f.Storable) : s.reread = s := by
  have same : s.filters.map (·.reread) = s.filters :=
    (List.map_congr_left fun f hf => (h f hf).same).trans s.filters.map_id
  rw [reread, same]

/-- A change that is saved leaves the store with the session after it, whose filters are read back once. -/
theorem Saved.load_change (h : Saved s store) (passed : ∀ f ∈ c.passed, f.Listable) :
    (load (s.change store c).2).1 = (s.apply c).reread.asLoaded := by
  have kept : s.filters.map (·.reread) = s.filters := congrArg Session.filters (reread_of_storable h.storable)
  cases c with
  | text given =>
    rw [reread, apply, kept]
    exact (load_set_text store given).trans (by rw [h.loaded]; rfl)
  | filters given => exact (load_set_filters store passed).trans (by rw [h.loaded]; rfl)
  | addFilter f =>
    have listable : ∀ g ∈ s.filters ++ [f], g.Listable :=
      List.forall_mem_append.mpr ⟨fun g hg => (h.storable g hg).toListable, passed⟩
    exact (load_set_filters store listable).trans (by rw [h.loaded]; rfl)
  | start expression =>
    rw [reread, apply, kept]
    exact (load_set_start store expression).trans (by rw [h.loaded]; rfl)
  | finish expression =>
    rw [reread, apply, kept]
    exact (load_set_finish store expression).trans (by rw [h.loaded]; rfl)

/-- A change that brings filters that can be stored as they are leaves the store with the session after it. -/
theorem Saved.change (h : Saved s store) (passed : ∀ f ∈ c.passed, f.Storable) :
    Saved (s.change store c).1 (s.change store c).2 := by
  have storable : ∀ f ∈ (s.apply c).filters, f.Storable := by
    cases c with
    | filters given => exact passed
    | addFilter f => exact List.forall_mem_append.mpr ⟨h.storable, passed⟩
    | text | start | finish => exact h.storable
  refine ⟨(h.load_change fun f hf => (passed f hf).toListable).trans ?_, storable⟩
  rw [reread_of_storable storable]
  rfl

/-- A store holds the session after any number of changes, each of which has been saved. -/
theorem Saved.changeAll {changes : List Change} : ∀ {s : Session} {store : Store}, Saved s store →
    (∀ f ∈ changes.flatMap (·.passed), f.Storable) →
    Saved (s.changeAll store changes).1 (s.changeAll store changes).2 := by
  induction changes with
  | nil => exact fun h _ => h
  | cons c rest ih =>
    intro s store h passed
    rw [List.flatMap_cons, List.forall_mem_append] at passed
    exact ih (h.change passed.1) passed.2

/-! ### Runs -/

/-- The keys that sessions are kept under. -/
def keys : List String :=
  [textKey, filtersKey, startKey, finishKey]

theorem Change.key_mem (c : Change) : c.key ∈ keys := by
  cases c <;> simp [Change.key, keys]

theorem get?_changeAll_of_ne {key : String} : ∀ (changes : List Change) (s : Session) (store : Store),
    (∀ c ∈ changes, key ≠ c.key) → (s.changeAll store changes).2.get? key = store.get? key
  | [], _, _, _ => rfl
  | c :: rest, s, store, others => by
    obtain ⟨here, tail⟩ := List.forall_mem_cons.mp others
    refine (get?_changeAll_of_ne rest _ _ tail).trans ?_
    exact (Store.get?_set store c.key key _).trans (if_neg here)

theorem get?_changeAll {key : String} (other : key ∉ keys) (changes : List Change) (s : Session) (store : Store) :
    (s.changeAll store changes).2.get? key = store.get? key :=
  get?_changeAll_of_ne changes s store fun c _ same => other (same ▸ c.key_mem)

/-- Whether a change puts other filters in the place of those that are there. -/
def Change.replacesFilters : Change → Bool
  | filters _ => true
  | _ => false

theorem filters_changeAll : ∀ (changes : List Change) (s : Session) (store : Store),
    (∀ c ∈ changes, c.replacesFilters = false) →
    (s.changeAll store changes).1.filters = s.filters ++ changes.flatMap (·.passed)
  | [], s, _, _ => (List.append_nil s.filters).symm
  | c :: rest, s, store, kept => by
    obtain ⟨here, tail⟩ := List.forall_mem_cons.mp kept
    refine (filters_changeAll rest _ _ tail).trans ?_
    rw [List.flatMap_cons, ← List.append_assoc]
    congr 1
    cases c with
    | filters given => cases here
    | addFilter f => rfl
    | text | start | finish => exact (List.append_nil s.filters).symm

/-- A session is loaded from any store and changed any number of times, each change being saved. Every filter that
is passed in is read back as it is stored and leaves a level of nesting, and numbers are read back from their text.
Then the store holds the session, no loaded filter is lost unless all filters are replaced, and other keys are as
they were. -/
theorem load_changeAll (store : Store) (changes : List Change)
    (lossless : ∀ f ∈ (load store).1.filters ++ changes.flatMap (·.passed), f.json.Lossless)
    (passed : ∀ f ∈ changes.flatMap (·.passed), Filter.read f.json = .ok f ∧ f.json.nesting ≤ 126) :
    let (session, after) := (load store).1.changeAll store changes
    (load after).1 = session.asLoaded ∧
      ((∀ c ∈ changes, c.replacesFilters = false) →
        session.filters = (load store).1.filters ++ changes.flatMap (·.passed)) ∧
      ∀ key ∉ keys, after.get? key = store.get? key := by
  obtain ⟨loaded, given⟩ := List.forall_mem_append.mp lossless
  have storable : ∀ f ∈ changes.flatMap (·.passed), f.Storable := fun f hf =>
    .of_read (passed f hf).1 (given f hf) (passed f hf).2
  have saved := (saved_load loaded).changeAll storable
  exact ⟨saved.loaded, filters_changeAll changes _ store, fun key other => get?_changeAll other changes _ store⟩

/-- A list with a filter that is written by position. -/
theorem load_changeAll_of_positions :
    let list : Json := .array [.array [.string "price", .string "is", .number (.whole { value := 5 })]]
    let store := Store.ofList [("theme", "dark"), (filtersKey, list.text)]
    let changes : List Change :=
      [.text "slow", .addFilter (.authored ⟨"status", .absent, none, false, false⟩), .start ""]
    (load ((load store).1.changeAll store changes).2).1 = ((load store).1.changeAll store changes).1.asLoaded := by
  intro list store changes
  have text : Json.ofText? list.text = some list :=
    Json.ofText?_text (by simp [list, Json.Lossless, Json.LosslessItems, Number.readsBack_whole]) (by decide)
  have held : nonEmpty? store filtersKey = some list.text := by rfl
  have loaded : (load store).1.filters =
      [.authored ⟨"price", .equal, some (.scalar (.ofNumber (.whole { value := 5 }))), false, false⟩] := by
    rw [load_eq, storedFilters, held]
    simp only [readFilters, text, list]
    rfl
  refine (load_changeAll store changes ?_ ?_).1
  · rw [loaded]
    simp [changes, Change.passed, Filter.json, Filter.stored, StoredFilter.json, FilterValue.json, Value.ofNumber,
      Json.record, Json.members, Json.Lossless, Json.LosslessMembers, Number.readsBack_whole]
  · simp only [changes, Change.passed, List.flatMap_cons, List.flatMap_nil, List.append_nil, List.nil_append,
      List.forall_mem_singleton]
    exact ⟨rfl, by decide⟩

end Session
end SpanSearch
