import SpanSearch.Clause.Writing
import SpanSearch.Proofs.ClauseReading

/-! Canonical clauses: those that are read back as they are written. Every clause that has been read from a
    document without repeated names is canonical. -/

namespace SpanSearch

/-- A plain value is no object with the single member `value` and no array of one item, which are the
    spellings of an explicit one. -/
def TermValue.Canonical : TermValue → Prop
  | explicit _ => True
  | plain v => (∀ j, v.json ≠ .object [("value", j)]) ∧ ∀ j, v.json ≠ .array [j]

/-- No bound is there as `null`. -/
def RangeBounds.Canonical (b : RangeBounds) : Prop :=
  ∀ side ∈ b.sides, ∀ v ∈ side, v.json ≠ .null

/-- Whether a clause is of a form that is not modelled. -/
def Clause.isOther : Clause → Bool
  | other _ => true
  | _ => false

mutual

/-- Term values and bounds are canonical, and a clause of another form does not read as one of a modelled form,
    through all boolean clauses. -/
def Clause.Canonical : Clause → Prop
  | .bool body => body.Canonical
  | .term _ value => value.Canonical
  | .range _ bounds => bounds.Canonical
  | .present _ => True
  | .queryString _ => True
  | .other v => (Clause.read v.json).isOther

/-- All clauses of the four lists are canonical. -/
def BoolClause.Canonical : BoolClause → Prop
  | ⟨must, filter, should, mustNot, _⟩ =>
    Clause.CanonicalAll must ∧ Clause.CanonicalAll filter ∧ Clause.CanonicalAll should ∧ Clause.CanonicalAll mustNot

/-- All clauses of a list are canonical. -/
def Clause.CanonicalAll : List Clause → Prop
  | [] => True
  | c :: rest => c.Canonical ∧ Clause.CanonicalAll rest

end

/-- The clauses of the four lists. -/
def BoolClause.clauses (body : BoolClause) : List Clause :=
  body.lists.flatten

namespace Clause

/-- What holds of a clause if it holds of the clauses in it holds of every clause. -/
@[elab_as_elim]
theorem induction {P : Clause → Prop} (bool : ∀ body : BoolClause, (∀ c ∈ body.clauses, P c) → P (.bool body))
    (term : ∀ field value, P (.term field value)) (range : ∀ field bounds, P (.range field bounds))
    (present : ∀ field, P (.present field)) (queryString : ∀ text, P (.queryString text))
    (other : ∀ v, P (.other v)) (c : Clause) : P c :=
  @Clause.rec P (fun body => ∀ c ∈ body.clauses, P c) (fun cs => ∀ c ∈ cs, P c)
    bool term range present queryString other
    (fun _ _ _ _ _ must filter should mustNot => by
      simpa [BoolClause.clauses, BoolClause.lists, or_imp, forall_and] using ⟨must, filter, should, mustNot⟩)
    (List.forall_mem_nil _) (fun _ _ here rest => List.forall_mem_cons.mpr ⟨here, rest⟩) c

theorem canonicalAll_iff : ∀ {cs : List Clause}, CanonicalAll cs ↔ ∀ c ∈ cs, c.Canonical
  | [] => by simp [CanonicalAll]
  | c :: rest => by rw [CanonicalAll, canonicalAll_iff, List.forall_mem_cons]

theorem canonical_bool {body : BoolClause} : (Clause.bool body).Canonical ↔ ∀ c ∈ body.clauses, c.Canonical := by
  obtain ⟨must, filter, should, mustNot, minimum⟩ := body
  simp [Clause.Canonical, BoolClause.Canonical, canonicalAll_iff, BoolClause.clauses, BoolClause.lists, or_imp,
    forall_and]

theorem jsonAll_eq_map : ∀ cs : List Clause, jsonAll cs = cs.map json
  | [] => rfl
  | c :: rest => by rw [jsonAll, jsonAll_eq_map rest, List.map_cons]

end Clause

/-! ### Clauses as they are written -/

/-- The entries that the body of a boolean clause is written with. -/
def BoolClause.entries (body : BoolClause) : List (String × Option Json) :=
  [("must", some (.array (body.must.map (·.json)))), ("filter", some (.array (body.filter.map (·.json)))),
    ("should", some (.array (body.should.map (·.json)))), ("must_not", some (.array (body.mustNot.map (·.json)))),
    ("minimum_should_match", body.minimum.map (·.json))]

theorem BoolClause.json_eq (body : BoolClause) : body.json = .record body.entries := by
  obtain ⟨must, filter, should, mustNot, minimum⟩ := body
  simp only [BoolClause.json, BoolClause.entries, Clause.jsonAll_eq_map]

theorem BoolClause.nodup_entries (body : BoolClause) : (body.entries.map (·.1)).Nodup := by
  simp [BoolClause.entries]

/-- A written body holds its lists and perhaps a minimum. -/
theorem BoolClause.mem_entries {body : BoolClause} {e : String × Option Json} {j : Json} (he : e ∈ body.entries)
    (hj : e.2 = some j) :
    (∃ cs ∈ body.lists, j = .array (cs.map (·.json))) ∨ ∃ m : MinimumMatch, j = m.json := by
  simp only [entries, List.mem_cons, List.not_mem_nil, or_false] at he
  rcases he with rfl | rfl | rfl | rfl | rfl
  · cases hj
    exact .inl ⟨body.must, by simp [lists], rfl⟩
  · cases hj
    exact .inl ⟨body.filter, by simp [lists], rfl⟩
  · cases hj
    exact .inl ⟨body.should, by simp [lists], rfl⟩
  · cases hj
    exact .inl ⟨body.mustNot, by simp [lists], rfl⟩
  · obtain ⟨m, -, rfl⟩ := Option.map_eq_some_iff.mp hj
    exact .inr ⟨m, rfl⟩

theorem BoolClause.exists_entry {body : BoolClause} {cs : List Clause} (h : cs ∈ body.lists) :
    ∃ name, (name, some (.array (cs.map (·.json)))) ∈ body.entries := by
  simp only [lists, List.mem_cons, List.not_mem_nil, or_false] at h
  rcases h with rfl | rfl | rfl | rfl
  · exact ⟨"must", by simp [entries]⟩
  · exact ⟨"filter", by simp [entries]⟩
  · exact ⟨"should", by simp [entries]⟩
  · exact ⟨"must_not", by simp [entries]⟩

/-- The entries that bounds are written with. -/
def RangeBounds.entries (b : RangeBounds) : List (String × Option Json) :=
  [("gte", b.gte.map (·.json)), ("gt", b.gt.map (·.json)), ("lte", b.lte.map (·.json)), ("lt", b.lt.map (·.json))]

theorem RangeBounds.json_eq (b : RangeBounds) : b.json = .record b.entries :=
  rfl

theorem RangeBounds.nodup_entries (b : RangeBounds) : (b.entries.map (·.1)).Nodup := by
  simp [RangeBounds.entries]

theorem RangeBounds.mem_entries {b : RangeBounds} {e : String × Option Json} {j : Json} (he : e ∈ b.entries)
    (hj : e.2 = some j) : ∃ v, some v ∈ b.sides ∧ j = v.json := by
  simp only [entries, List.mem_cons, List.not_mem_nil, or_false] at he
  rcases he with rfl | rfl | rfl | rfl
  all_goals
    obtain ⟨v, hv, rfl⟩ := Option.map_eq_some_iff.mp hj
    exact ⟨v, by simp [sides, hv], rfl⟩

theorem MinimumMatch.distinct_json (m : MinimumMatch) : m.json.Distinct := by
  cases m <;> simp only [MinimumMatch.json, Json.Distinct]

theorem TermValue.distinct_json (t : TermValue) : t.json.Distinct := by
  cases t with
  | explicit v => exact Json.distinct_single.mpr v.distinct_json
  | plain v => exact v.distinct_json

theorem RangeBounds.distinct_json (b : RangeBounds) : b.json.Distinct := by
  rw [json_eq]
  refine Json.distinct_record b.nodup_entries fun e he j hj => ?_
  obtain ⟨v, hv, rfl⟩ := mem_entries he hj
  exact v.distinct_json

/-- A written clause names nothing twice. -/
theorem Clause.distinct_json (c : Clause) : c.json.Distinct := by
  induction c using Clause.induction with
  | bool body ih =>
    rw [Clause.json, Json.distinct_single, BoolClause.json_eq]
    refine Json.distinct_record body.nodup_entries fun e he j hj => ?_
    rcases BoolClause.mem_entries he hj with ⟨cs, hcs, rfl⟩ | ⟨m, rfl⟩
    · rw [Json.distinct_array, List.forall_mem_map]
      exact fun c hc => ih c (List.mem_flatten_of_mem hcs hc)
    · exact m.distinct_json
  | term field value => exact Json.distinct_single.mpr (Json.distinct_single.mpr value.distinct_json)
  | range field bounds => exact Json.distinct_single.mpr (Json.distinct_single.mpr bounds.distinct_json)
  | present field => exact Json.distinct_single.mpr (Json.distinct_single.mpr (Json.distinct_string field))
  | queryString text => exact Json.distinct_single.mpr (Json.distinct_single.mpr (Json.distinct_string text))
  | other v => exact v.distinct_json

/-! ### Term values and bounds -/

namespace TermValue

theorem read_eq (j : Json) :
    read j = match (j.closedRecord? ["value"]).bind (·.lookup "value") with
      | some k => .explicit (.ofJson k)
      | none => .plain (.ofJson j) := by
  rw [read]
  cases j.closedRecord? ["value"] with
  | none => rfl
  | some members =>
    rw [Option.bind_some, Option.bind_some, Json.required]
    cases members.lookup "value" <;> rfl

theorem read_of_spelled {j k : Json} (h : j = .object [("value", k)] ∨ j = .array [k]) :
    read j = .explicit (.ofJson k) := by
  rw [read_eq, Json.lookup_closedRecord?_single.mpr h]

theorem canonical_read {j : Json} (distinct : j.Distinct) : (read j).Canonical := by
  cases h : read j with
  | explicit v => trivial
  | plain v =>
    -- Otherwise the value of the document would read as an explicit one, and so would the document.
    have unspelled : ∀ k, ¬(j.collapse = .object [("value", k)] ∨ j.collapse = .array [k]) := fun k spelled => by
      have explicit := read_of_spelled spelled
      rw [read_collapse distinct, h] at explicit
      cases explicit
    rw [read_eq] at h
    split at h
    · cases h
    · cases h
      exact ⟨fun k hk => unspelled k (.inl hk), fun k hk => unspelled k (.inr hk)⟩

theorem read_json {t : TermValue} (h : t.Canonical) : read t.json = t := by
  cases t with
  | explicit v => rw [json, read_of_spelled (.inl rfl), Value.ofJson_json]
  | plain v =>
    rw [json, read_eq]
    split
    · next k held =>
      rcases Json.lookup_closedRecord?_single.mp held with hk | hk
      · exact absurd hk (h.1 k)
      · exact absurd hk (h.2 k)
    · rw [Value.ofJson_json]

end TermValue

namespace Value

/-- Whether a value is `null`. -/
def isNull (v : Value) : Bool :=
  match v.json with
  | .null => true
  | _ => false

theorem isNull_iff {v : Value} : v.isNull ↔ v.json = .null := by
  rw [isNull]
  cases v.json <;> simp

/-- A value that has been written as a member is read back unless it is `null`. -/
theorem optional_json {name : String} {members : List (String × Json)} {o : Option Value}
    (held : members.lookup name = o.map (·.json)) :
    Json.optional (some ∘ ofJson) name members = some (o.filter (!·.isNull)) := by
  cases o with
  | none => rw [Json.optional, held]; rfl
  | some v =>
    rw [Option.filter_some]
    cases null : v.isNull with
    | true => simp [Json.optional, held, isNull_iff.mp null]
    | false =>
      have present : v.json ≠ .null := fun h => by rw [isNull_iff.mpr h] at null; cases null
      exact Json.optional_same held fun w hw => by cases hw; exact ⟨congrArg some v.ofJson_json, present⟩

end Value

namespace RangeBounds

theorem canonical_read? {j : Json} {b : RangeBounds} (h : read? j = some b) : b.Canonical := by
  intro side hs v hv null
  obtain ⟨k, -, present, rfl⟩ := read?_sides h side hs v hv
  exact present (Json.collapse_eq_null.mp null)

/-- The bounds without those that are there as `null`. -/
def dropNulls (b : RangeBounds) : RangeBounds where
  gte := b.gte.filter (!·.isNull)
  gt := b.gt.filter (!·.isNull)
  lte := b.lte.filter (!·.isNull)
  lt := b.lt.filter (!·.isNull)

theorem dropNulls_of_canonical {b : RangeBounds} (h : b.Canonical) : b.dropNulls = b := by
  have side : ∀ o ∈ b.sides, o.filter (!·.isNull) = o := by
    intro o ho
    cases o with
    | none => rfl
    | some v =>
      have present : v.isNull = false := by
        rw [← Bool.not_eq_true, Value.isNull_iff]
        exact h _ ho v rfl
      rw [Option.filter_some, present]
      rfl
  rw [dropNulls, side b.gte (by simp [sides]), side b.gt (by simp [sides]), side b.lte (by simp [sides]),
    side b.lt (by simp [sides])]

theorem read?_json (b : RangeBounds) : read? b.json = some b.dropNulls := by
  obtain ⟨ms, record, held⟩ := @Json.closedRecord?_record b.entries names b.nodup_entries (by simp [entries, names])
  have bound (name : String) {o : Option Value} (lookup : ms.lookup name = o.map (·.json)) :
      Json.optional (some ∘ Value.ofJson) name ms = some (o.filter (!·.isNull)) := Value.optional_json lookup
  have gte := bound "gte" (held _ (by simp [names]))
  have gt := bound "gt" (held _ (by simp [names]))
  have lte := bound "lte" (held _ (by simp [names]))
  have lt := bound "lt" (held _ (by simp [names]))
  rw [read?, json_eq, record, Option.bind_eq_bind, Option.bind_some]
  simp only [gte, gt, lte, lt, Option.bind_eq_bind, Option.bind_some, dropNulls]

end RangeBounds

/-! ### Reading what has been written -/

/-- The body with each of its clauses changed. -/
def BoolClause.map (f : Clause → Clause) (body : BoolClause) : BoolClause :=
  ⟨body.must.map f, body.filter.map f, body.should.map f, body.mustNot.map f, body.minimum⟩

theorem BoolClause.map_eq_self {f : Clause → Clause} {body : BoolClause} (h : ∀ c ∈ body.clauses, f c = c) :
    body.map f = body := by
  have list : ∀ cs ∈ body.lists, cs.map f = cs := fun cs hcs =>
    (List.map_congr_left fun c hc => h c (List.mem_flatten_of_mem hcs hc)).trans cs.map_id
  rw [map, list body.must (by simp [lists]), list body.filter (by simp [lists]), list body.should (by simp [lists]),
    list body.mustNot (by simp [lists])]
  cases body
  rfl

theorem MinimumMatch.read?_json (m : MinimumMatch) : read? m.json = some m := by
  cases m with
  | count n =>
    have value : (Whole.ofInt64 n).value = n.toInt := rfl
    have back : (Whole.ofInt64 n).int64? = some n := by
      rw [Whole.int64?, value, if_pos n.toInt_lt, Int64.ofInt_toInt]
    simp only [json, read?, Json.int64?, back]
  | expression text => rfl

theorem MinimumMatch.json_of_read? {j : Json} {m : MinimumMatch} (h : read? j = some m) : m.json = j := by
  rw [read?] at h
  split at h
  · next n whole =>
    cases h
    cases j with
    | number x =>
      cases x with
      | whole w =>
        simp only [Json.int64?, Whole.int64?] at whole
        split at whole
        · next below =>
          cases whole
          have value : (Int64.ofInt w.value).toInt = w.value := Int64.toInt_ofInt_of_le w.least below
          cases w
          simp only [json, Whole.ofInt64, value]
        · cases whole
      | double x => cases whole
    | _ => cases whole
  · cases j with
    | string s => cases h; rfl
    | _ => cases h

theorem MinimumMatch.json_ne_null (m : MinimumMatch) : m.json ≠ .null := by
  cases m <;> simp [json]

theorem onlyString?_single (name s : String) : onlyString? name (.object [(name, .string s)]) = some s := by
  simp [onlyString?, Json.closedRecord?, Json.record?, Json.namesDiffer, Json.required, Json.string?]

namespace Clause

theorem isOther_of_leaf? {form : String} {content : Json} {c : Clause} (h : leaf? form content = some c) :
    c.isOther = false := by
  rcases leaf?_cases h with ⟨_, _, -, -, rfl⟩ | ⟨_, _, _, -, -, -, rfl⟩ | ⟨_, -, -, rfl⟩ | ⟨_, -, -, rfl⟩ <;> rfl

theorem readList?_json (cs : List Clause) :
    readList? (.array (cs.map (·.json))) = some (cs.map fun c => read c.json) := by
  rw [readList?_array, List.map_map]
  rfl

/-- A written body is read as the clauses that its clauses are read as. -/
theorem readBool?_json (body : BoolClause) : readBool? body.json = some (body.map fun c => read c.json) := by
  obtain ⟨ms, record, held⟩ := @Json.record?_record body.entries BoolClause.names body.nodup_entries
  have list (name : String) {cs : List Clause} (lookup : ms.lookup name = some (.array (cs.map (·.json)))) :
      Json.withDefault [] readList? name ms = some (cs.map fun c => read c.json) := by
    rw [Json.withDefault_some lookup, readList?_json]
  have must := list "must" (held _ (by decide))
  have filter := list "filter" (held _ (by decide))
  have should := list "should" (held _ (by decide))
  have mustNot := list "must_not" (held _ (by decide))
  have minimum : Json.optional MinimumMatch.read? "minimum_should_match" ms = some body.minimum :=
    Json.optional_same (held _ (by decide)) fun m _ => ⟨m.read?_json, m.json_ne_null⟩
  rw [readBool?_eq, BoolClause.json_eq, record, Option.bind_some]
  simp only [bodyOf?, must, filter, should, mustNot, minimum, Option.bind_eq_bind, Option.bind_some, BoolClause.map]

theorem read_bool_json (body : BoolClause) : read (Clause.bool body).json = .bool (body.map fun c => read c.json) := by
  rw [json, read_bool (readBool?_json body)]

theorem read_range_json (field : String) (bounds : RangeBounds) :
    read (Clause.range field bounds).json = .range field bounds.dropNulls := by
  simp [json, read_eq, known?, Json.onlyMember?, leaf?, fieldValue?, RangeBounds.read?_json]

/-- A canonical clause is read back. -/
theorem read_json {c : Clause} : c.Canonical → read c.json = c := by
  induction c using Clause.induction with
  | bool body ih =>
    intro h
    rw [read_bool_json, BoolClause.map_eq_self fun c hc => ih c hc (canonical_bool.mp h c hc)]
  | term field value =>
    intro h
    rw [Clause.Canonical] at h
    simp [json, read_eq, known?, Json.onlyMember?, leaf?, fieldValue?, TermValue.read_json h]
  | range field bounds =>
    intro h
    rw [Clause.Canonical] at h
    rw [read_range_json, RangeBounds.dropNulls_of_canonical h]
  | present field =>
    intro _
    simp [json, read_eq, known?, Json.onlyMember?, leaf?, onlyString?_single]
  | queryString text =>
    intro _
    simp [json, read_eq, known?, Json.onlyMember?, leaf?, onlyString?_single]
  | other v =>
    intro h
    rw [Clause.Canonical] at h
    rw [json]
    rcases read_cases v.json with ⟨content, body, -, -, known⟩ | ⟨form, content, -, known⟩ | unknown
    · rw [known] at h
      cases h
    · rw [isOther_of_leaf? known] at h
      cases h
    · rw [unknown, Value.ofJson_json]

/-! ### Reading from any document -/

theorem canonical_of_leaf? {form : String} {content : Json} {c : Clause} (distinct : content.Distinct)
    (h : leaf? form content = some c) : c.Canonical := by
  rcases leaf?_cases h with ⟨field, inner, -, rfl, rfl⟩ | ⟨field, inner, bounds, -, -, read, rfl⟩ | ⟨_, -, -, rfl⟩ |
    ⟨_, -, -, rfl⟩
  · rw [Clause.Canonical]
    exact TermValue.canonical_read (Json.distinct_single.mp distinct)
  · rw [Clause.Canonical]
    exact RangeBounds.canonical_read? read
  · simp only [Clause.Canonical]
  · simp only [Clause.Canonical]

/-- What has been read is canonical: a clause, the body of one, and a list of them. -/
theorem canonical_readings (j : Json) : j.Distinct → (read j).Canonical ∧
    (∀ body, readBool? j = some body → ∀ c ∈ body.clauses, c.Canonical) ∧
    ∀ cs, readList? j = some cs → ∀ c ∈ cs, c.Canonical := by
  induction j using Json.induction_parts with
  | step j ih =>
    intro distinct
    have part := fun k hk => ih k hk (distinct.part hk)
    refine ⟨?_, fun body read c hc => ?_, fun cs read c hc => ?_⟩
    · rcases read_cases j with ⟨content, body, rfl, read, known⟩ | ⟨form, content, rfl, known⟩ | unknown
      · rw [known, canonical_bool]
        exact (part content (List.mem_singleton_self _)).2.1 body read
      · exact canonical_of_leaf? (Json.distinct_single.mp distinct) known
      · have value : read (Value.ofJson j).json = read j := read_collapse distinct
        rw [unknown] at value ⊢
        rw [Clause.Canonical, value]
        rfl
    · obtain ⟨cs, hcs, hc⟩ := List.mem_flatten.mp hc
      rcases readBool?_lists read cs hcs with rfl | ⟨k, hk, list⟩
      · cases hc
      · exact (part k hk).2.2 cs list c hc
    · cases j with
      | array items =>
        rw [readList?_array] at read
        cases read
        obtain ⟨k, hk, rfl⟩ := List.mem_map.mp hc
        exact (part k hk).1
      | _ => cases read

theorem canonical_read {j : Json} (distinct : j.Distinct) : (read j).Canonical :=
  (canonical_readings j distinct).1

end Clause

theorem SearchQuery.read?_json (q : SearchQuery) : SearchQuery.read? q.json = some ⟨.read q.query.json⟩ := by
  simp [SearchQuery.json, SearchQuery.read?, Json.record?, Json.namesDiffer, Json.required, names]

end SpanSearch
