import SpanSearch.Clause.Reading
import SpanSearch.Proofs.Records

/-! Reading clauses. The body of a boolean clause is a record of four lists and a minimum, and a document
    without repeated names reads as the same clause as the value that it stands for. -/

namespace SpanSearch

/-! ### Values -/

namespace Value

@[simp] theorem ofJson_collapse (j : Json) : ofJson j.collapse = ofJson j := by
  simp only [ofJson, Json.collapse_collapse]

@[simp] theorem ofJson_json (v : Value) : ofJson v.json = v := by
  cases v with
  | mk j canonical => simp only [ofJson, Json.collapse_of_canonical canonical]

theorem json_ofJson {j : Json} (canonical : j.Canonical) : (ofJson j).json = j :=
  Json.collapse_of_canonical canonical

theorem distinct_json (v : Value) : v.json.Distinct :=
  v.canonical.distinct

end Value

namespace Json

@[simp] theorem string?_collapse (j : Json) : j.collapse.string? = j.string? := by
  cases j <;> rfl

@[simp] theorem bool?_collapse (j : Json) : j.collapse.bool? = j.bool? := by
  cases j <;> rfl

@[simp] theorem int64?_collapse (j : Json) : j.collapse.int64? = j.int64? := by
  cases j <;> rfl

end Json

/-! ### Lists of clauses -/

/-- The lists of a boolean clause. -/
def BoolClause.lists (body : BoolClause) : List (List Clause) :=
  [body.must, body.filter, body.should, body.mustNot]

namespace Clause

theorem readAll_eq_map (items : List Json) : readAll items = items.map read := by
  induction items with
  | nil => rfl
  | cons j rest ih => rw [readAll, ih, List.map_cons]

theorem readList?_array (items : List Json) : readList? (.array items) = some (items.map read) := by
  rw [readList?, readAll_eq_map]

theorem readMembers_eq_map (members : List (String × Json)) :
    readMembers members = members.map fun m => (m.1, readList? m.2) := by
  induction members with
  | nil => rfl
  | cons m rest ih => rw [readMembers, ih, List.map_cons]

theorem readItems_eq_map (items : List Json) : readItems items = items.map readList? := by
  induction items with
  | nil => rfl
  | cons j rest ih => rw [readItems, ih, List.map_cons]

/-- The body of a boolean clause that the members of a record make. -/
def bodyOf? (members : List (String × Json)) : Option BoolClause := do
  let clauses (name : String) : Option (List Clause) := Json.withDefault [] readList? name members
  some ⟨← clauses "must", ← clauses "filter", ← clauses "should", ← clauses "must_not",
    ← Json.optional MinimumMatch.read? "minimum_should_match" members⟩

theorem ofLists?_eq_bodyOf? {lists : List (String × Option (List Clause))} {members : List (String × Json)}
    (h : ∀ name ∈ BoolClause.names, lists.lookup name = (members.lookup name).map readList?) :
    BoolClause.ofLists? lists members = bodyOf? members := by
  have clauses : ∀ name ∈ BoolClause.names,
      (lists.lookup name).getD (some []) = Json.withDefault [] readList? name members := by
    intro name hn
    rw [h name hn, Json.withDefault]
    cases members.lookup name <;> rfl
  simp only [BoolClause.ofLists?, bodyOf?, clauses "must" (by decide), clauses "filter" (by decide),
    clauses "should" (by decide), clauses "must_not" (by decide)]

/-- The body of a boolean clause is read like any other record. -/
theorem readBool?_eq (j : Json) : readBool? j = (j.record? BoolClause.names).bind bodyOf? := by
  cases j with
  | object members =>
    rw [readBool?, Json.record?, readMembers_eq_map, Option.bind_eq_bind]
    split
    · rw [Option.bind_some, Option.bind_some]
      refine ofLists?_eq_bodyOf? fun name hn => ?_
      rw [Json.lookup_map, Json.lookup_filter_names, if_pos (List.contains_iff_mem.mpr hn)]
    · rfl
  | array items =>
    rw [readBool?, Json.record?, readItems_eq_map, Option.bind_eq_bind]
    split
    · rw [Option.bind_some, Option.bind_some]
      refine ofLists?_eq_bodyOf? fun name _ => ?_
      rw [← Json.lookup_map, List.zip_map_right]
      rfl
    · rfl
  | _ => rfl

/-- The clause that the only member of a document makes, if the document has one form that is modelled. -/
def known? (j : Json) : Option Clause := do
  let (form, content) ← j.onlyMember?
  if form == "bool" then (readBool? content).map .bool else leaf? form content

theorem read_eq (j : Json) : read j = (known? j).getD (.other (.ofJson j)) := by
  match j with
  | .object [(form, content)] =>
    rw [read]
    rfl
  | .null | .bool _ | .number _ | .string _ | .array _ | .object [] | .object (_ :: _ :: _) =>
    rw [read]
    · rfl
    · simp

end Clause

/-! ### What has been read -/

/-- The four bounds. -/
def RangeBounds.sides (b : RangeBounds) : List (Option Value) :=
  [b.gte, b.gt, b.lte, b.lt]

/-- Each bound that has been read is a part of the document, and not `null`. -/
theorem RangeBounds.read?_sides {j : Json} {b : RangeBounds} (h : read? j = some b) :
    ∀ side ∈ b.sides, ∀ v ∈ side, ∃ k ∈ j.parts, k ≠ .null ∧ v = .ofJson k := by
  rw [read?, Option.bind_eq_bind] at h
  obtain ⟨members, closed, h⟩ := Option.bind_eq_some_iff.mp h
  have record := Json.record?_of_closedRecord? closed
  simp only [Option.bind_eq_bind, Option.bind_eq_some_iff] at h
  obtain ⟨gte, hgte, gt, hgt, lte, hlte, lt, hlt, h⟩ := h
  cases h
  have side : ∀ name o, Json.optional (some ∘ Value.ofJson) name members = some o →
      ∀ v ∈ o, ∃ k ∈ j.parts, k ≠ .null ∧ v = .ofJson k := by
    intro name o ho v hv
    cases hv
    obtain ⟨k, held, present, same⟩ := Json.optional_eq_some ho
    cases same
    exact ⟨k, Json.mem_parts_of_record? record held, present, rfl⟩
  intro o ho
  simp only [sides, List.mem_cons, List.not_mem_nil, or_false] at ho
  rcases ho with rfl | rfl | rfl | rfl
  · exact side _ _ hgte
  · exact side _ _ hgt
  · exact side _ _ hlte
  · exact side _ _ hlt

namespace Clause

theorem leaf?_cases {form : String} {content : Json} {c : Clause} (h : leaf? form content = some c) :
    (∃ field inner, form = "term" ∧ content = .object [(field, inner)] ∧ c = .term field (.read inner)) ∨
    (∃ field inner bounds, form = "range" ∧ content = .object [(field, inner)] ∧
      RangeBounds.read? inner = some bounds ∧ c = .range field bounds) ∨
    (∃ field, form = "exists" ∧ onlyString? "field" content = some field ∧ c = .present field) ∨
    ∃ text, form = "query_string" ∧ onlyString? "query" content = some text ∧ c = .queryString text := by
  unfold leaf? at h
  split at h
  · obtain ⟨⟨field, value⟩, inner, rfl⟩ := Option.map_eq_some_iff.mp h
    obtain ⟨m, only, inner⟩ := Option.bind_eq_some_iff.mp inner
    obtain ⟨_, same, inner⟩ := Option.map_eq_some_iff.mp inner
    cases same
    cases inner
    exact .inl ⟨m.1, m.2, rfl, Json.onlyMember?_eq_some only, rfl⟩
  · obtain ⟨⟨field, bounds⟩, inner, rfl⟩ := Option.map_eq_some_iff.mp h
    obtain ⟨m, only, inner⟩ := Option.bind_eq_some_iff.mp inner
    obtain ⟨_, read, inner⟩ := Option.map_eq_some_iff.mp inner
    cases inner
    exact .inr (.inl ⟨m.1, m.2, bounds, rfl, Json.onlyMember?_eq_some only, read, rfl⟩)
  · obtain ⟨field, only, rfl⟩ := Option.map_eq_some_iff.mp h
    exact .inr (.inr (.inl ⟨field, rfl, only, rfl⟩))
  · obtain ⟨text, only, rfl⟩ := Option.map_eq_some_iff.mp h
    exact .inr (.inr (.inr ⟨text, rfl, only, rfl⟩))
  · cases h

/-- A document reads as a boolean clause, as a clause of another known form, or as itself. -/
theorem read_cases (j : Json) :
    (∃ content body, j = .object [("bool", content)] ∧ readBool? content = some body ∧ read j = .bool body) ∨
    (∃ form content, j = .object [(form, content)] ∧ leaf? form content = some (read j)) ∨
    read j = .other (.ofJson j) := by
  rw [read_eq]
  cases formed : known? j with
  | none => exact .inr (.inr rfl)
  | some c =>
    obtain ⟨⟨form, content⟩, only, known⟩ := Option.bind_eq_some_iff.mp formed
    obtain rfl := Json.onlyMember?_eq_some only
    simp only at known
    split at known
    · next bool =>
      obtain ⟨body, read, rfl⟩ := Option.map_eq_some_iff.mp known
      exact .inl ⟨content, body, by rw [beq_iff_eq.mp bool], read, rfl⟩
    · exact .inr (.inl ⟨form, content, rfl, known⟩)

theorem read_bool {content : Json} {body : BoolClause} (h : readBool? content = some body) :
    read (.object [("bool", content)]) = .bool body := by
  rw [read_eq, known?, Json.onlyMember?]
  simp [h]

/-- Each list of a body that has been read is missing, or one of the parts of the document. -/
theorem readBool?_lists {j : Json} {body : BoolClause} (h : readBool? j = some body) :
    ∀ cs ∈ body.lists, cs = [] ∨ ∃ k ∈ j.parts, readList? k = some cs := by
  rw [readBool?_eq] at h
  obtain ⟨members, record, h⟩ := Option.bind_eq_some_iff.mp h
  simp only [bodyOf?, Option.bind_eq_bind, Option.bind_eq_some_iff] at h
  obtain ⟨must, hm, filter, hf, should, hs, mustNot, hn, minimum, -, h⟩ := h
  cases h
  have list : ∀ name cs, Json.withDefault [] readList? name members = some cs →
      cs = [] ∨ ∃ k ∈ j.parts, readList? k = some cs := by
    intro name cs read
    rw [Json.withDefault] at read
    split at read
    · cases read
      exact .inl rfl
    · next k held => exact .inr ⟨k, Json.mem_parts_of_record? record held, read⟩
  intro cs hcs
  simp only [BoolClause.lists, List.mem_cons, List.not_mem_nil, or_false] at hcs
  rcases hcs with rfl | rfl | rfl | rfl
  · exact list _ _ hm
  · exact list _ _ hf
  · exact list _ _ hs
  · exact list _ _ hn

end Clause

/-! ### A document and its value read alike -/

section Alike
variable {j : Json}

theorem MinimumMatch.read?_collapse (j : Json) : MinimumMatch.read? j.collapse = MinimumMatch.read? j := by
  rw [MinimumMatch.read?, MinimumMatch.read?, Json.int64?_collapse, Json.string?_collapse]

theorem TermValue.read_collapse (distinct : j.Distinct) : TermValue.read j.collapse = TermValue.read j := by
  rw [TermValue.read, TermValue.read, Value.ofJson_collapse]
  rcases @Json.closedRecord?_collapse ["value"] j distinct with ⟨h, h'⟩ | ⟨_, _, h, h', same⟩
  · rw [h, h']
  · rw [h, h', Option.bind_some, Option.bind_some, same.required fun k _ => by simp]

theorem RangeBounds.read?_collapse (distinct : j.Distinct) : RangeBounds.read? j.collapse = RangeBounds.read? j := by
  rw [RangeBounds.read?, RangeBounds.read?]
  rcases @Json.closedRecord?_collapse names j distinct with ⟨h, h'⟩ | ⟨members, members', h, h', same⟩
  · rw [h, h']
  · have bound (name : String) : Json.optional (some ∘ Value.ofJson) name members' =
        Json.optional (some ∘ Value.ofJson) name members := same.optional fun k _ => by simp
    simp only [h, h', Option.bind_eq_bind, Option.bind_some, bound]

theorem fieldValue?_collapse {α : Type} {read : Json → Option α} (distinct : j.Distinct)
    (hr : ∀ k ∈ j.parts, read k.collapse = read k) : fieldValue? read j.collapse = fieldValue? read j := by
  rw [fieldValue?, fieldValue?, Json.onlyMember?_collapse distinct]
  cases h : Json.onlyMember? j with
  | none => rfl
  | some m =>
    simp only [Option.map_some, Option.bind_eq_bind, Option.bind_some, hr _ (Json.mem_parts_of_onlyMember? h)]

theorem onlyString?_collapse (name : String) (distinct : j.Distinct) :
    onlyString? name j.collapse = onlyString? name j := by
  rw [onlyString?, onlyString?]
  rcases @Json.closedRecord?_collapse [name] j distinct with ⟨h, h'⟩ | ⟨_, _, h, h', same⟩
  · rw [h, h']
  · rw [h, h', Option.bind_eq_bind, Option.bind_some, Option.bind_some,
      same.required fun k _ => Json.string?_collapse k]

namespace Clause

theorem leaf?_collapse (form : String) (distinct : j.Distinct) : leaf? form j.collapse = leaf? form j := by
  unfold leaf?
  split
  · rw [fieldValue?_collapse distinct fun k hk => ?_]
    exact congrArg some (TermValue.read_collapse (distinct.part hk))
  · rw [fieldValue?_collapse distinct fun k hk => RangeBounds.read?_collapse (distinct.part hk)]
  · rw [onlyString?_collapse _ distinct]
  · rw [onlyString?_collapse _ distinct]
  · rfl

/-- A document and its value read alike as a clause, as the body of one and as a list of them. -/
theorem readings_collapse (j : Json) : j.Distinct → read j.collapse = read j ∧ readBool? j.collapse = readBool? j ∧
    readList? j.collapse = readList? j := by
  induction j using Json.induction_parts with
  | step j ih =>
    intro distinct
    have part : ∀ k ∈ j.parts, readBool? k.collapse = readBool? k ∧ readList? k.collapse = readList? k :=
      fun k hk => (ih k hk (distinct.part hk)).2
    refine ⟨?_, ?_, ?_⟩
    · rw [read_eq, read_eq, Value.ofJson_collapse, known?, known?, Json.onlyMember?_collapse distinct]
      cases h : Json.onlyMember? j with
      | none => rfl
      | some m =>
        have hm := Json.mem_parts_of_onlyMember? h
        simp only [Option.map_some, Option.bind_eq_bind, Option.bind_some, (part _ hm).1,
          leaf?_collapse m.1 (distinct.part hm)]
    · rw [readBool?_eq, readBool?_eq]
      rcases @Json.record?_collapse BoolClause.names j distinct with ⟨h, h'⟩ | ⟨members, members', h, h', same⟩
      · rw [h, h']
      · have clauses (name : String) : Json.withDefault [] readList? name members' =
            Json.withDefault [] readList? name members :=
          same.withDefault fun k hk => (part k (Json.mem_parts_of_record? h hk)).2
        have minimum (name : String) : Json.optional MinimumMatch.read? name members' =
            Json.optional MinimumMatch.read? name members :=
          same.optional fun k _ => MinimumMatch.read?_collapse k
        simp only [h, h', Option.bind_some, bodyOf?, clauses, minimum]
    · cases j with
      | array items =>
        rw [Json.collapse_array, readList?_array, readList?_array, List.map_map]
        exact congrArg some (List.map_congr_left fun k hk => (ih k hk (distinct.part hk)).1)
      | _ => rfl

theorem read_collapse (distinct : j.Distinct) : read j.collapse = read j :=
  (readings_collapse j distinct).1

end Clause

theorem SearchQuery.read?_collapse (distinct : j.Distinct) : SearchQuery.read? j.collapse = SearchQuery.read? j := by
  rw [SearchQuery.read?, SearchQuery.read?]
  rcases @Json.record?_collapse names j distinct with ⟨h, h'⟩ | ⟨members, _, h, h', same⟩
  · rw [h, h']
  · have query : ∀ k, members.lookup "query" = some k →
        (some ∘ Clause.read) k.collapse = (some ∘ Clause.read) k := fun k hk => by
      rw [Function.comp_apply, Function.comp_apply,
        Clause.read_collapse (distinct.part (Json.mem_parts_of_record? h hk))]
    rw [h, h', Option.bind_eq_bind, Option.bind_some, Option.bind_some, same.required query]

end Alike

end SpanSearch
