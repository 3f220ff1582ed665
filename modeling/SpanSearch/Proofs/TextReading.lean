import SpanSearch.Proofs.DocumentText
import SpanSearch.Proofs.FilterReading

/-! Reading from a text directly, which passes over the members that do not count, against reading the value that
    the text stands for. Of a text without repeated names both give the same filter, clause and query. -/

namespace SpanSearch

/-! ### The part of a document that counts -/

namespace Json

mutual

/-- The part of a document that counts. -/
def within (shape : Shape) : Json → Json
  | array items => .array (withinItems shape.positions items)
  | object members => .object (withinMembers shape members)
  | j => j

/-- The part of each item that counts at its position. -/
def withinItems (shapes : List Shape) : List Json → List Json
  | [] => []
  | j :: rest => j.within (shapes.headD .everything) :: withinItems shapes.tail rest

/-- The members that count, and the part of each of them that does. -/
def withinMembers (shape : Shape) : List (String × Json) → List (String × Json)
  | [] => []
  | (name, j) :: rest =>
    match shape.member? name with
    | none => withinMembers shape rest
    | some inner => (name, j.within inner) :: withinMembers shape rest

end

end Json

namespace Written
open Json

mutual

/-- What is read of a text in part is the part of what is read of it as a whole. -/
theorem read?_within (shape : Shape) : ∀ {w : Written} {depth : Nat} {j : Json}, w.read? depth .everything = some j →
    w.read? depth shape = some (j.within shape)
  | .null, depth, j, h => by
    cases h
    rfl
  | .bool b, depth, j, h => by
    cases h
    rfl
  | .number literal, depth, j, h => by
    obtain ⟨n, hn, rfl⟩ := Option.map_eq_some_iff.mp h
    rw [read?, hn]
    rfl
  | .string pieces, depth, j, h => by
    obtain ⟨s, hs, rfl⟩ := Option.map_eq_some_iff.mp h
    rw [read?, hs]
    rfl
  | .array items, 0, j, h => by cases h
  | .array items, depth + 1, j, h => by
    obtain ⟨js, hjs, rfl⟩ := Option.map_eq_some_iff.mp h
    rw [read?, readItems?_within shape.positions hjs]
    rfl
  | .object members, 0, j, h => by cases h
  | .object members, depth + 1, j, h => by
    obtain ⟨ms, hms, rfl⟩ := Option.map_eq_some_iff.mp h
    rw [read?, readMembers?_within shape hms]
    rfl

theorem readItems?_within (shapes : List Shape) : ∀ {ws : List Written} {depth : Nat} {items : List Json},
    readItems? depth [] ws = some items → readItems? depth shapes ws = some (withinItems shapes items)
  | [], depth, items, h => by
    cases h
    rfl
  | w :: ws, depth, items, h => by
    obtain ⟨j, hj, h⟩ := Option.bind_eq_some_iff.mp h
    obtain ⟨js, hjs, rfl⟩ := Option.map_eq_some_iff.mp h
    rw [readItems?, read?_within _ hj, readItems?_within shapes.tail hjs]
    rfl

theorem readMembers?_within (shape : Shape) :
    ∀ {ws : List (List Piece × Written)} {depth : Nat} {members : List (String × Json)},
      readMembers? depth .everything ws = some members →
      readMembers? depth shape ws = some (withinMembers shape members)
  | [], depth, members, h => by
    cases h
    rfl
  | (pieces, w) :: ws, depth, members, h => by
    obtain ⟨name, hname, h⟩ := Option.bind_eq_some_iff.mp h
    obtain ⟨j, hj, h⟩ := Option.bind_eq_some_iff.mp h
    obtain ⟨ms, hms, rfl⟩ := Option.map_eq_some_iff.mp h
    have others := readMembers?_within shape hms
    rw [readMembers?, hname, withinMembers]
    cases member : shape.member? name with
    | none => simp only [member, others, Option.bind_eq_bind, Option.bind_some]
    | some inner => simp [member, others, read?_within inner hj]

end

end Written

namespace Json

theorem within_everything (j : Json) : j.within .everything = j := by
  induction j using Json.induction with
  | null | bool | number | string => rfl
  | array items ih =>
    have items_eq : ∀ items : List Json, (∀ j ∈ items, j.within .everything = j) → withinItems [] items = items := by
      intro items same
      induction items with
      | nil => rfl
      | cons j rest again =>
        obtain ⟨here, others⟩ := List.forall_mem_cons.mp same
        rw [withinItems, List.headD_nil, here, List.tail_nil, again others]
    rw [within, Shape.positions, items_eq items ih]
  | object members ih =>
    rw [within]
    induction members with
    | nil => rfl
    | cons m rest again =>
      obtain ⟨here, others⟩ := List.forall_mem_cons.mp ih
      rw [withinMembers, Shape.member?]
      simp only [here, object.inj (again others)]

theorem length_withinItems : ∀ (shapes : List Shape) (items : List Json),
    (withinItems shapes items).length = items.length
  | _, [] => rfl
  | shapes, j :: rest => by rw [withinItems, List.length_cons, List.length_cons, length_withinItems]

/-! ### Records in part -/

section Records
variable {shapes : List (String × Shape)}

/-- The part of what a record holds under a name. -/
def partOf (shapes : List (String × Shape)) (name : String) (j : Json) : Json :=
  j.within ((shapes.lookup name).getD .everything)

theorem contains_names (name : String) : ∀ shapes : List (String × Shape),
    (shapes.map (·.1)).contains name = (shapes.lookup name).isSome
  | [] => rfl
  | e :: rest => by
    rw [Entries.lookup_cons_eq_ite, List.map_cons, List.contains_cons, contains_names name rest]
    by_cases same : name = e.1
    · simp [same]
    · simp [same]

theorem withinMembers_eq : ∀ members : List (String × Json), withinMembers (.record shapes) members =
    (members.filter fun m => (shapes.map (·.1)).contains m.1).map fun m => (m.1, partOf shapes m.1 m.2)
  | [] => rfl
  | m :: rest => by
    obtain ⟨name, j⟩ := m
    rw [withinMembers, List.filter_cons, contains_names name, Shape.member?, withinMembers_eq rest]
    cases held : shapes.lookup name with
    | none => rfl
    | some inner => simp [partOf, held]

theorem zip_withinItems : ∀ {shapes : List (String × Shape)} {items : List Json}, (shapes.map (·.1)).Nodup →
    (shapes.map (·.1)).zip (withinItems (shapes.map (·.2)) items) =
      ((shapes.map (·.1)).zip items).map fun m => (m.1, partOf shapes m.1 m.2)
  | [], _, _ => rfl
  | _ :: _, [], _ => rfl
  | (name, shape) :: shapes, j :: rest, nodup => by
    obtain ⟨fresh, nodup⟩ := List.nodup_cons.mp nodup
    have here : partOf ((name, shape) :: shapes) name j = j.within shape := by
      rw [partOf, Entries.lookup_cons_eq_ite, if_pos rfl]
      rfl
    have others : ∀ m ∈ (shapes.map (·.1)).zip rest,
        partOf ((name, shape) :: shapes) m.1 m.2 = partOf shapes m.1 m.2 := by
      intro m hm
      have other : m.1 ≠ name := fun same => fresh (same ▸ (List.of_mem_zip hm).1)
      rw [partOf, Entries.lookup_cons_eq_ite, if_neg other]
      rfl
    rw [withinItems, List.map_cons, List.map_cons, List.headD_cons, List.tail_cons, List.zip_cons_cons,
      List.zip_cons_cons, List.map_cons, here, zip_withinItems nodup]
    exact congrArg _ (List.map_congr_left fun m hm => by rw [others m hm])

/-- A document in part is a record if the document is one, and holds the parts of what the document holds. -/
theorem record?_within (nodup : (shapes.map (·.1)).Nodup) (j : Json) :
    record? (shapes.map (·.1)) (j.within (.record shapes)) =
      (record? (shapes.map (·.1)) j).map fun members => members.map fun m => (m.1, partOf shapes m.1 m.2) := by
  cases j with
  | array items =>
    rw [within, record?, record?, Shape.positions, length_withinItems, zip_withinItems nodup]
    split <;> rfl
  | object members =>
    have names : ∀ known : List (String × Json), namesDiffer (known.map fun m => (m.1, partOf shapes m.1 m.2)) =
        namesDiffer known := by
      intro known
      rw [Bool.eq_iff_iff, namesDiffer_iff, namesDiffer_iff, List.map_map]
      rfl
    have known : (withinMembers (.record shapes) members).filter (fun m => (shapes.map (·.1)).contains m.1) =
        withinMembers (.record shapes) members := by
      rw [withinMembers_eq, List.filter_map]
      refine congrArg _ ?_
      rw [List.filter_filter]
      exact List.filter_congr fun m _ => Bool.and_self _
    rw [within, record?, record?, known, withinMembers_eq]
    simp only [names]
    split <;> rfl
  | _ => rfl

/-- A record whose members count as a whole is read as if all of it did. -/
theorem record?_ofNames {names : List String} (nodup : names.Nodup) (j : Json) :
    record? names (j.within (.ofNames names)) = record? names j := by
  have same : (names.map (·, Shape.everything)).map (·.1) = names := by
    rw [List.map_map]
    exact List.map_id _
  have whole : ∀ name k, partOf (names.map (·, Shape.everything)) name k = k := by
    intro name k
    have shape : ((names.map (·, Shape.everything)).lookup name).getD .everything = .everything := by
      cases held : (names.map (·, Shape.everything)).lookup name with
      | none => rfl
      | some shape =>
        obtain ⟨_, -, same⟩ := List.mem_map.mp (mem_of_lookup held)
        cases same
        rfl
    rw [partOf, shape, within_everything]
  have record := record?_within (same.symm ▸ nodup) j
  rw [same] at record
  rw [Shape.ofNames, record]
  simp [whole]

theorem lookup_partOf_everything {name : String} (shape : shapes.lookup name = some .everything)
    (members : List (String × Json)) :
    (members.map fun m => (m.1, partOf shapes m.1 m.2)).lookup name = members.lookup name := by
  have same : partOf shapes name = id := by
    funext k
    rw [partOf, shape, Option.getD_some, within_everything, id]
  rw [lookup_map_names, same, Option.map_id, id]

theorem withDefault_everything {α : Type} {default : α} {read : Json → Option α} {members : List (String × Json)}
    (shapes : List (String × Shape)) (name : String) (shape : shapes.lookup name = some .everything) :
    withDefault default read name (members.map fun m => (m.1, partOf shapes m.1 m.2)) =
      withDefault default read name members := by
  rw [withDefault, withDefault, lookup_partOf_everything shape]

theorem optional_everything {α : Type} {read : Json → Option α} {members : List (String × Json)}
    (shapes : List (String × Shape)) (name : String) (shape : shapes.lookup name = some .everything) :
    optional read name (members.map fun m => (m.1, partOf shapes m.1 m.2)) = optional read name members := by
  rw [optional, optional, lookup_partOf_everything shape]

theorem optional_partOf {α : Type} {read : Json → Option α} {name : String} {members : List (String × Json)}
    (hr : ∀ k, read (partOf shapes name k) = read k) :
    optional read name (members.map fun m => (m.1, partOf shapes m.1 m.2)) = optional read name members := by
  rw [optional, optional, lookup_map_names]
  cases members.lookup name with
  | none => rfl
  | some k =>
    have part := hr k
    cases k with
    | null => rfl
    | array items => rw [partOf, within] at part; simp only [Option.map_some, partOf, within, part]
    | object members => rw [partOf, within] at part; simp only [Option.map_some, partOf, within, part]
    | _ => rfl

end Records
end Json

/-! ### Filters and queries in part -/

theorem SearchQuery.read?_within (j : Json) :
    SearchQuery.read? (j.within SearchQuery.shape) = SearchQuery.read? j := by
  rw [read?, read?, shape, Json.record?_ofNames (by decide)]

theorem StoredFilter.read?_within (j : Json) :
    StoredFilter.read? (j.within Filter.shape) = StoredFilter.read? j := by
  -- The query is read in part again, and the other members as a whole.
  let shapes : List (String × Shape) := [("field", .everything), ("operator", .everything), ("value", .everything),
    ("inverted", .everything), ("disabled", .everything), ("DSL", SearchQuery.shape)]
  have record : Json.record? names (j.within Filter.shape) =
      (Json.record? names j).map fun members => members.map fun m => (m.1, Json.partOf shapes m.1 m.2) :=
    @Json.record?_within shapes (by decide) j
  rw [read?, read?, record]
  cases Json.record? names j with
  | none => rfl
  | some members =>
    have query : Json.optional SearchQuery.read? "DSL" (members.map fun m => (m.1, Json.partOf shapes m.1 m.2)) =
        Json.optional SearchQuery.read? "DSL" members := Json.optional_partOf SearchQuery.read?_within
    simp only [Option.map_some, Option.bind_eq_bind, Option.bind_some]
    rw [Json.withDefault_everything shapes "field" rfl, Json.withDefault_everything shapes "operator" rfl,
      Json.optional_everything shapes "value" rfl, Json.withDefault_everything shapes "inverted" rfl,
      Json.withDefault_everything shapes "disabled" rfl, query]

theorem Filter.read_within (j : Json) : Filter.read (j.within Filter.shape) = Filter.read j := by
  rw [read, read, StoredFilter.read?_within]

/-! ### Reading from the text -/

/-- A reader to which the rest of a document makes no difference reads from a text what it reads from the document
    that the text consists of. -/
theorem Json.readText_of_ofText? {ε α : Type} {malformed : ε} {shape : Shape} {read : Json → Except ε α}
    {text : String} {j : Json} (h : ofText? text = some j) (within : read (j.within shape) = read j) :
    readText malformed shape read text = read j := by
  obtain ⟨w, written, whole⟩ := Option.bind_eq_some_iff.mp h
  rw [Written.ofText?] at written
  split at written
  · next w' rest scanned =>
    split at written
    · next blank =>
      cases written
      rw [readText, scanned]
      simp only [Written.read?_within shape whole, within, blank, ↓reduceIte]
      cases read j <;> rfl
    · cases written
  · cases written

theorem Json.readText?_of_ofText? {α : Type} {shape : Shape} {read : Json → Option α} {text : String} {j : Json}
    (h : ofText? text = some j) (within : read (j.within shape) = read j) : readText? shape read text = read j := by
  rw [readText?, readText_of_ofText? h (by rw [within])]
  cases read j <;> rfl

/-- A filter, a clause and a query are read from a text without repeated names as they are from the value that the
    text stands for, and a text that is refused on one way is refused on the other with the same error. -/
theorem Filter.ofText_eq_read {text : String} {j : Json} (reads : Json.ofText? text = some j)
    (distinct : j.Distinct) :
    ∃ v, Value.ofText? text = some v ∧ Filter.ofText text = Filter.read v.json ∧
      Clause.ofText? text = some (Clause.read v.json) ∧ SearchQuery.ofText? text = SearchQuery.read? v.json := by
  refine ⟨.ofJson j, by rw [Value.ofText?, reads, Option.map_some], ?_, ?_, ?_⟩
  · rw [ofText, Json.readText_of_ofText? reads (Filter.read_within j)]
    exact (Filter.read_collapse distinct).symm
  · rw [Clause.ofText?, Json.readText?_of_ofText? reads (by rw [Json.within_everything])]
    exact congrArg some (Clause.read_collapse distinct).symm
  · rw [SearchQuery.ofText?, Json.readText?_of_ofText? reads (SearchQuery.read?_within j)]
    exact (SearchQuery.read?_collapse distinct).symm

/-- Members out of order, one that is not known, and a clause that is written by position. -/
theorem Filter.ofText_unordered :
    let clause : Json := .object [("exists", .array [.string "error"])]
    let query : Json := .object [("query", .object [("bool", .object [("should", .array [clause])])])]
    let j : Json := .object [("field", .string "status"), ("note", .null), ("disabled", .bool true), ("DSL", query)]
    let f : Filter := .synthesized ⟨"status", "", ⟨[], [], [.present "error"], [], none⟩, true⟩
    Json.ofText? j.text = some j ∧ j.Distinct ∧ Filter.ofText j.text = .ok f := by
  intro clause query j f
  have lossless : j.Lossless := by
    simp [j, query, clause, Json.Lossless, Json.LosslessMembers, Json.LosslessItems]
  have reads : Json.ofText? j.text = some j := Json.ofText?_text lossless (by decide)
  have distinct : j.Distinct := by
    simp [j, query, clause, Json.Distinct, Json.DistinctMembers, Json.DistinctItems]
  obtain ⟨v, value, same, -⟩ := Filter.ofText_eq_read reads distinct
  rw [Value.ofText?, reads] at value
  cases value
  exact ⟨reads, distinct, same⟩

end SpanSearch
