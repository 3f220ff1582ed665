import Mathlib.Data.List.Forall2
import Mathlib.Logic.Relation
import SpanSearch.Proofs.CanonicalClauses

/-! What becomes of a document that is read as a clause and written again. The lists of a boolean clause that are
    absent become empty, a minimum and bounds that are `null` go, and records that are written by position become
    objects. The members of a body that are not part of it go too, and nothing else does. -/

namespace SpanSearch
namespace Json

/-- The members of a record, whether it is written as an object or by position. -/
def membersOf? (names : List String) : Json → Option (List (String × Json))
  | object members => some members
  | array items => if items.length ≤ names.length then some (names.zip items) else none
  | _ => none

/-- What is there and not `null`. -/
def unlessNull : Option Json → Option Json
  | some .null => none
  | held => held

/-- The items of the array that is held under a name. -/
def itemsUnder (name : String) (members : List (String × Json)) : List Json :=
  match members.lookup name with
  | some (.array items) => items
  | _ => []

end Json

/-- The names of the lists, in their order. -/
def BoolClause.listNames : List String :=
  ["must", "filter", "should", "must_not"]

/-- What becomes of the members of a body that are not part of it. -/
inductive Strays where
  | kept
  | gone

def Strays.left : Strays → Option Json → Option Json
  | kept, held => held
  | gone, _ => none

namespace Clause
open Json

/-- What may become of a document that is read as a clause and written again. What is not read as a clause of a
    known form stays as it is; of the others each has its own form. -/
inductive Rewritten (strays : Strays) : Json → Json → Prop
  | other {j : Json} (reads : (read j).isOther) : Rewritten strays j j
  | bool {content : Json} {members members' : List (String × Json)} (reads : (readBool? content).isSome)
      (given : content.membersOf? BoolClause.names = some members) (nodup : (members'.map (·.1)).Nodup)
      (list : ∀ name ∈ BoolClause.listNames, members'.lookup name = some (.array (itemsUnder name members')))
      (clauses : ∀ name ∈ BoolClause.listNames,
        List.Forall₂ (Rewritten strays) (itemsUnder name members) (itemsUnder name members'))
      (minimum : members'.lookup "minimum_should_match" = unlessNull (members.lookup "minimum_should_match"))
      (others : ∀ name ∉ BoolClause.names, members'.lookup name = strays.left (members.lookup name)) :
      Rewritten strays (.object [("bool", content)]) (.object [("bool", .object members')])
  | term {field : String} {value : Json} (plain : ∀ k, value ≠ .array [k]) :
      Rewritten strays (.object [("term", .object [(field, value)])]) (.object [("term", .object [(field, value)])])
  | termByPosition {field : String} {value : Json} :
      Rewritten strays (.object [("term", .object [(field, .array [value])])])
        (.object [("term", .object [(field, .object [("value", value)])])])
  | range {field : String} {content : Json} {members members' : List (String × Json)}
      (reads : (RangeBounds.read? content).isSome) (given : content.membersOf? RangeBounds.names = some members)
      (nodup : (members'.map (·.1)).Nodup)
      (bounds : ∀ name, members'.lookup name = unlessNull (members.lookup name)) :
      Rewritten strays (.object [("range", .object [(field, content)])])
        (.object [("range", .object [(field, .object members')])])
  | present {content : Json} {members : List (String × Json)} (reads : (onlyString? "field" content).isSome)
      (given : content.membersOf? ["field"] = some members) :
      Rewritten strays (.object [("exists", content)]) (.object [("exists", .object members)])
  | queryString {content : Json} {members : List (String × Json)} (reads : (onlyString? "query" content).isSome)
      (given : content.membersOf? ["query"] = some members) :
      Rewritten strays (.object [("query_string", content)]) (.object [("query_string", .object members)])

/-- The second document is in a list of the boolean clause that the first one is. -/
def Listed (j k : Json) : Prop :=
  ∃ content members, j = .object [("bool", content)] ∧ (readBool? content).isSome ∧
    content.membersOf? BoolClause.names = some members ∧ ∃ name ∈ BoolClause.listNames, k ∈ itemsUnder name members

/-- A boolean clause that is written as an object has no members besides those of a body. -/
def Modelled (j : Json) : Prop :=
  ∀ members, j = .object [("bool", .object members)] → (readBool? (.object members)).isSome →
    ∀ m ∈ members, m.1 ∈ BoolClause.names

end Clause

/-! ### Members of a record -/

namespace Json

section Members
variable {names : List String} {name : String} {j k : Json} {members : List (String × Json)}

theorem itemsUnder_of_lookup {items : List Json} (h : members.lookup name = some (.array items)) :
    itemsUnder name members = items := by
  rw [itemsUnder, h]

theorem mem_itemsUnder :
    k ∈ itemsUnder name members ↔ ∃ items, members.lookup name = some (.array items) ∧ k ∈ items := by
  rw [itemsUnder]
  split
  · next items held => simp [held]
  · next unheld => exact iff_of_false List.not_mem_nil fun ⟨items, held, _⟩ => unheld items held

theorem mem_parts_of_membersOf? (h : membersOf? names j = some members) (hk : members.lookup name = some k) :
    k ∈ j.parts := by
  cases j with
  | array items => exact mem_parts_of_record? (show record? names (.array items) = some members from h) hk
  | object held =>
    cases h
    exact List.mem_map.mpr ⟨_, mem_of_lookup hk, rfl⟩
  | _ => cases h

theorem membersOf?_of_record? (h : record? names j = some members) :
    ∃ all, membersOf? names j = some all ∧ ∀ name ∈ names, members.lookup name = all.lookup name := by
  cases j with
  | array items => exact ⟨members, h, fun _ _ => rfl⟩
  | object held =>
    simp only [record?] at h
    split at h
    · cases h
      refine ⟨held, rfl, fun name hn => ?_⟩
      rw [lookup_filter_names, if_pos (List.contains_iff_mem.mpr hn)]
    · cases h
  | _ => cases h

theorem membersOf?_of_closedRecord? (h : closedRecord? names j = some members) :
    membersOf? names j = some members := by
  cases j with
  | array items => exact h
  | object held =>
    simp only [closedRecord?, record?] at h
    split at h
    · next known =>
      rw [List.filter_eq_self.mpr (List.all_eq_true.mp known)] at h
      split at h
      · exact h
      · cases h
    · cases h
  | _ => cases h

/-- A member that has been read and is written as it was held. -/
theorem map_json_of_optional {α : Type} {read : Json → Option α} {json : α → Json} {o : Option α}
    (h : optional read name members = some o)
    (back : ∀ k a, members.lookup name = some k → read k = some a → json a = k) :
    o.map json = unlessNull (members.lookup name) := by
  cases o with
  | none =>
    rw [optional] at h
    split at h
    · next absent => rw [absent]; rfl
    · next null => rw [null]; rfl
    · next k present held =>
      obtain ⟨_, -, same⟩ := Option.map_eq_some_iff.mp h
      cases same
  | some a =>
    obtain ⟨k, held, present, hr⟩ := optional_eq_some h
    rw [Option.map_some, back k a held hr, held, unlessNull]
    exact fun null => present (Option.some.inj null)

end Members
end Json

/-! ### Positions of clauses -/

namespace Clause
open Json

theorem Listed.parts {j k : Json} (h : Listed j k) :
    ∃ content list, content ∈ j.parts ∧ list ∈ content.parts ∧ k ∈ list.parts := by
  obtain ⟨content, members, rfl, -, given, name, -, hk⟩ := h
  obtain ⟨items, held, hk⟩ := mem_itemsUnder.mp hk
  exact ⟨content, .array items, List.mem_singleton_self _, mem_parts_of_membersOf? given held, hk⟩

theorem Listed.canonical {j k : Json} (h : Listed j k) (canonical : j.Canonical) : k.Canonical := by
  obtain ⟨_, _, hc, hl, hk⟩ := h.parts
  exact ((canonical.part hc).part hl).part hk

/-- What holds of a document if it holds of the clauses in its lists holds of every document. -/
theorem Listed.induction {P : Json → Prop} (step : ∀ j, (∀ k, Listed j k → P k) → P j) (j : Json) : P j := by
  induction nested : j.nesting using Nat.strongRecOn generalizing j with
  | ind n ih =>
    refine step j fun k listed => ih k.nesting ?_ k rfl
    obtain ⟨_, _, hc, hl, hk⟩ := listed.parts
    have := nesting_part hc
    have := nesting_part hl
    have := nesting_part hk
    omega

/-! ### What has been read and is written -/

section Written
variable {content : Json}

theorem membersOf?_of_onlyString? {name s : String} (h : onlyString? name content = some s) :
    content.membersOf? [name] = some [(name, .string s)] := by
  obtain ⟨members, closed, held⟩ := Option.bind_eq_some_iff.mp h
  have spelled := Json.lookup_closedRecord?_single.mp (by rw [closed]; exact required_string?_eq_some.mp held)
  rcases spelled with rfl | rfl <;> rfl

theorem lookup_bounds {bounds : RangeBounds} (canonical : content.Canonical)
    (h : RangeBounds.read? content = some bounds) :
    ∃ members, content.membersOf? RangeBounds.names = some members ∧
      ∀ name, (Json.members bounds.entries).lookup name = unlessNull (members.lookup name) := by
  rw [RangeBounds.read?, Option.bind_eq_bind] at h
  obtain ⟨members, closed, h⟩ := Option.bind_eq_some_iff.mp h
  simp only [Option.bind_eq_bind, Option.bind_eq_some_iff] at h
  obtain ⟨gte, hgte, gt, hgt, lte, hlte, lt, hlt, h⟩ := h
  cases h
  have given := membersOf?_of_closedRecord? closed
  have side {name : String} {o : Option Value} (read : Json.optional (some ∘ Value.ofJson) name members = some o) :
      o.map (·.json) = unlessNull (members.lookup name) := by
    refine map_json_of_optional read fun k v held same => ?_
    cases same
    exact Value.json_ofJson (canonical.part (mem_parts_of_membersOf? given held))
  refine ⟨members, given, fun name => (lookup_members (RangeBounds.nodup_entries _) name).trans ?_⟩
  by_cases hn : name ∈ RangeBounds.names
  · simp only [RangeBounds.names, List.mem_cons, List.not_mem_nil, or_false] at hn
    rcases hn with rfl | rfl | rfl | rfl
    · exact side hgte
    · exact side hgt
    · exact side hlte
    · exact side hlt
  · have written : ∀ e ∈ RangeBounds.entries ⟨gte, gt, lte, lt⟩, e.1 ∈ RangeBounds.names := by
      simp [RangeBounds.entries, RangeBounds.names]
    have known := mem_names_of_record? (record?_of_closedRecord? closed)
    rw [lookup_of_known written hn, lookup_of_known known hn]
    rfl

theorem lookup_body {body : BoolClause} (h : readBool? content = some body) :
    ∃ members, content.membersOf? BoolClause.names = some members ∧
      (∀ name ∈ BoolClause.listNames, (Json.members body.entries).lookup name =
        some (.array ((itemsUnder name members).map fun k => (read k).json))) ∧
      (Json.members body.entries).lookup "minimum_should_match" =
        unlessNull (members.lookup "minimum_should_match") := by
  rw [readBool?_eq] at h
  obtain ⟨known, record, h⟩ := Option.bind_eq_some_iff.mp h
  obtain ⟨members, given, same⟩ := membersOf?_of_record? record
  simp only [bodyOf?, Option.bind_eq_bind, Option.bind_eq_some_iff] at h
  obtain ⟨must, hm, filter, hf, should, hs, mustNot, hn, minimum, hmin, h⟩ := h
  cases h
  have list : ∀ name ∈ BoolClause.names, ∀ cs, Json.withDefault [] readList? name known = some cs →
      cs.map (·.json) = (itemsUnder name members).map fun k => (read k).json := by
    intro name hname cs hcs
    rw [Json.withDefault, same name hname] at hcs
    rw [itemsUnder]
    cases held : members.lookup name with
    | none =>
      rw [held] at hcs
      cases hcs
      rfl
    | some k =>
      rw [held] at hcs
      cases k with
      | array items =>
        cases (readList?_array items).symm.trans hcs
        rw [List.map_map]
        rfl
      | _ => cases hcs
  have minimum_eq := map_json_of_optional hmin fun _ _ _ read => MinimumMatch.json_of_read? read
  rw [same _ (by decide)] at minimum_eq
  refine ⟨members, given, ?_, (lookup_members (BoolClause.nodup_entries _) _).trans minimum_eq⟩
  simp only [BoolClause.listNames, List.forall_mem_cons, lookup_members (BoolClause.nodup_entries _)]
  refine ⟨?_, ?_, ?_, ?_, List.forall_mem_nil _⟩
  · rw [← list "must" (by decide) must hm]
    rfl
  · rw [← list "filter" (by decide) filter hf]
    rfl
  · rw [← list "should" (by decide) should hs]
    rfl
  · rw [← list "must_not" (by decide) mustNot hn]
    rfl

theorem lookup_body_stray {body : BoolClause} {name : String} (h : name ∉ BoolClause.names) :
    (Json.members body.entries).lookup name = none := by
  have written : ∀ e ∈ body.entries, e.1 ∈ BoolClause.names := by simp [BoolClause.entries, BoolClause.names]
  rw [lookup_members body.nodup_entries, lookup_of_known written h]
  rfl

end Written

/-! ### A document becomes what is written -/

section Rewriting
variable (strays : Strays) {content : Json}

theorem rewritten_term (field : String) (canonical : content.Canonical) :
    Rewritten strays (.object [("term", .object [(field, content)])])
      (.object [("term", .object [(field, (TermValue.read content).json)])]) := by
  rw [TermValue.read_eq]
  split
  · next k held =>
    rcases Json.lookup_closedRecord?_single.mp held with rfl | rfl
    · rw [TermValue.json, Value.json_ofJson (canonical.part (List.mem_singleton_self _))]
      exact .term fun _ array => by cases array
    · rw [TermValue.json, Value.json_ofJson (canonical.part (List.mem_singleton_self _))]
      exact .termByPosition
  · next unheld =>
    rw [TermValue.json, Value.json_ofJson canonical]
    refine .term fun k array => ?_
    rw [Json.lookup_closedRecord?_single.mpr (.inr array)] at unheld
    cases unheld

theorem rewritten_leaf {form : String} {c : Clause} (canonical : content.Canonical)
    (h : leaf? form content = some c) : Rewritten strays (.object [(form, content)]) c.json := by
  rcases leaf?_cases h with ⟨field, inner, rfl, rfl, rfl⟩ | ⟨field, inner, bounds, rfl, rfl, read, rfl⟩ |
    ⟨field, rfl, only, rfl⟩ | ⟨text, rfl, only, rfl⟩
  · exact rewritten_term strays field (canonical.part (List.mem_singleton_self _))
  · obtain ⟨members, given, held⟩ := lookup_bounds (canonical.part (List.mem_singleton_self _)) read
    exact .range (Option.isSome_of_eq_some read) given (nodup_members bounds.nodup_entries) held
  · exact .present (Option.isSome_of_eq_some only) (membersOf?_of_onlyString? only)
  · exact .queryString (Option.isSome_of_eq_some only) (membersOf?_of_onlyString? only)

theorem mem_names_of_modelled {members : List (String × Json)} (modelled : Modelled (.object [("bool", content)]))
    (reads : (readBool? content).isSome) (given : content.membersOf? BoolClause.names = some members) :
    ∀ m ∈ members, m.1 ∈ BoolClause.names := by
  cases content with
  | array items => exact mem_names_of_record? (show record? _ (.array items) = some members from given)
  | object _ =>
    cases given
    exact modelled members rfl reads
  | _ => cases given

/-- A document becomes what its clause is written as, with all its members if all are modelled. -/
theorem rewritten_of_canonical (j : Json) : j.Canonical →
    (strays = .kept → ∀ k, Relation.ReflTransGen Listed j k → Modelled k) → Rewritten strays j (read j).json := by
  induction j using Listed.induction with
  | step j ih =>
    intro canonical modelled
    rcases read_cases j with ⟨content, body, rfl, reads, bool⟩ | ⟨form, content, rfl, leaf⟩ | other
    · obtain ⟨members, given, lists, minimum⟩ := lookup_body reads
      have isSome : (readBool? content).isSome := Option.isSome_of_eq_some reads
      rw [bool, Clause.json, BoolClause.json_eq]
      refine .bool isSome given (nodup_members body.nodup_entries) (fun name hn => ?_) (fun name hn => ?_) minimum
        (fun name hn => ?_)
      -- Each list is there, each of its clauses is rewritten, and nothing is written under other names.
      · rw [itemsUnder_of_lookup (lists name hn), lists name hn]
      · rw [itemsUnder_of_lookup (lists name hn), List.forall₂_map_right_iff, List.forall₂_same]
        intro k hk
        have listed : Listed (.object [("bool", content)]) k := ⟨content, members, rfl, isSome, given, name, hn, hk⟩
        exact ih k listed (listed.canonical canonical) fun keeps i path => modelled keeps i (.head listed path)
      · rw [lookup_body_stray hn]
        cases strays with
        | gone => rfl
        | kept =>
          have known := mem_names_of_modelled (modelled rfl _ .refl) isSome given
          exact (lookup_of_known known hn).symm
    · have part : content.Canonical := canonical.part (List.mem_singleton_self _)
      exact rewritten_leaf strays part leaf
    · have same : (read j).json = j := by rw [other, Clause.json, Value.json_ofJson canonical]
      rw [same]
      exact .other (by rw [other]; rfl)

end Rewriting

/-! ### Whether everything is kept -/

theorem Rewritten.of_bool {strays : Strays} {content : Json} {body : BoolClause}
    (reads : readBool? content = some body)
    (h : Rewritten strays (.object [("bool", content)]) (read (.object [("bool", content)])).json) :
    ∃ members, content.membersOf? BoolClause.names = some members ∧
      (∀ name ∈ BoolClause.listNames, ∀ k ∈ itemsUnder name members, Rewritten strays k (read k).json) ∧
      ∀ name ∉ BoolClause.names, strays.left (members.lookup name) = none := by
  rw [read_bool reads, Clause.json, BoolClause.json_eq] at h
  -- The names of the forms are told apart by `simp`, which `cases` does not do for literals.
  generalize before : Json.object [("bool", content)] = j at h
  generalize after : Json.object [("bool", .record body.entries)] = j' at h
  cases h with
  | other other =>
    rw [← before, read_bool reads] at other
    cases other
  | bool _ given _ _ clauses _ others =>
    obtain rfl : content = _ := by simpa using before
    obtain rfl : Json.members body.entries = _ := by simpa [record] using after
    obtain ⟨_, given', lists, -⟩ := lookup_body reads
    cases given.symm.trans given'
    refine ⟨_, given, fun name hn k hk => ?_, fun name hn => (others name hn).symm.trans (lookup_body_stray hn)⟩
    have each := clauses name hn
    rw [itemsUnder_of_lookup (lists name hn), List.forall₂_map_right_iff, List.forall₂_same] at each
    exact each k hk
  | _ => simp at before

/-- A document that keeps all its members has only modelled ones. -/
theorem modelled_of_rewritten {j k : Json} (path : Relation.ReflTransGen Listed j k) :
    Rewritten .kept j (read j).json → Modelled k := by
  induction path using Relation.ReflTransGen.head_induction_on with
  | refl =>
    rintro h members rfl isSome m hm
    by_contra stray
    obtain ⟨body, reads⟩ := Option.isSome_iff_exists.mp isSome
    obtain ⟨_, given, -, lost⟩ := h.of_bool reads
    cases given
    simpa using List.lookup_eq_none_iff.mp (lost m.1 stray) m hm
  | head listed _ ih =>
    intro h
    obtain ⟨content, members, rfl, isSome, given, name, hn, hk⟩ := listed
    obtain ⟨body, reads⟩ := Option.isSome_iff_exists.mp isSome
    obtain ⟨_, given', clauses, -⟩ := h.of_bool reads
    cases given.symm.trans given'
    exact ih (clauses name hn _ hk)

/-- A value that is read as a clause and written again loses the members of the bodies of boolean clauses that are
    not part of them, and keeps everything just if there are none. -/
theorem rewritten_read (v : Value) : Rewritten .gone v.json (read v.json).json ∧
    (Rewritten .kept v.json (read v.json).json ↔ ∀ k, Relation.ReflTransGen Listed v.json k → Modelled k) :=
  ⟨rewritten_of_canonical .gone v.json v.canonical nofun, fun kept _ path => modelled_of_rewritten path kept,
    fun modelled => rewritten_of_canonical .kept v.json v.canonical fun _ => modelled⟩

/-- A body with a member that is not part of it. -/
theorem not_rewritten_boost :
    let lists : List (String × Json) := [("filter", .array []), ("must", .array []), ("must_not", .array []),
      ("should", .array [])]
    let v : Value := .ofJson (.object [("bool", .object (("boost", .number (.whole { value := 2 })) :: lists))])
    (read v.json).json = .object [("bool", .object [("must", .array []), ("filter", .array []), ("should", .array []),
      ("must_not", .array [])])] ∧ ¬Rewritten .kept v.json (read v.json).json := by
  intro lists v
  refine ⟨rfl, fun kept => ?_⟩
  have modelled := modelled_of_rewritten .refl kept
  exact absurd (modelled _ rfl rfl _ List.mem_cons_self) (by decide)

end Clause
end SpanSearch
