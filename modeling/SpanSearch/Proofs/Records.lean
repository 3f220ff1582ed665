import SpanSearch.Json.Record
import SpanSearch.Proofs.Documents

/-! Records of a document without repeated names. The value that the document stands for is a record too, and
    holds under each name the value of what the document holds there, so that a reader that looks at values
    alone reads the same from both. -/

namespace SpanSearch
namespace Json

/-! ### Lookup by name -/

section Lookup
variable {α β : Type}

theorem mem_of_lookup {name : String} {value : α} :
    ∀ {entries : List (String × α)}, entries.lookup name = some value → (name, value) ∈ entries
  | [], h => by cases h
  | (other, held) :: rest, h => by
    rw [Entries.lookup_cons_eq_ite] at h
    split at h
    · next same => cases h; rw [same]; exact List.mem_cons_self
    · exact List.mem_cons_of_mem _ (mem_of_lookup h)

theorem lookup_of_known {names : List String} {name : String} {entries : List (String × α)}
    (known : ∀ e ∈ entries, e.1 ∈ names) (h : name ∉ names) : entries.lookup name = none :=
  Option.eq_none_iff_forall_not_mem.mpr fun _ held => h (known _ (mem_of_lookup held))

theorem lookup_eq_some_iff {name : String} {value : α} : ∀ {entries : List (String × α)},
    (entries.map (·.1)).Nodup → (entries.lookup name = some value ↔ (name, value) ∈ entries)
  | [], _ => by simp
  | (other, held) :: rest, nodup => by
    obtain ⟨fresh, nodup⟩ := List.nodup_cons.mp nodup
    rw [Entries.lookup_cons_eq_ite, List.mem_cons, Prod.mk.injEq, ← lookup_eq_some_iff nodup]
    by_cases same : name = other
    · subst same
      have absent : rest.lookup name ≠ some value := fun h => fresh (List.mem_map.mpr ⟨_, mem_of_lookup h, rfl⟩)
      simp only [↓reduceIte, Option.some.injEq, true_and, absent, or_false]
      exact eq_comm
    · simp only [same, ↓reduceIte, false_and, false_or]

theorem lookup_perm {l l' : List (String × α)} (p : l.Perm l') (nodup : (l.map (·.1)).Nodup) (name : String) :
    l.lookup name = l'.lookup name := by
  have nodup' := (p.map (·.1)).nodup_iff.mp nodup
  refine Option.ext fun value => ?_
  rw [lookup_eq_some_iff nodup, lookup_eq_some_iff nodup', p.mem_iff]

theorem lookup_map_names (f : String → α → β) (name : String) : ∀ entries : List (String × α),
    (entries.map fun e => (e.1, f e.1 e.2)).lookup name = (entries.lookup name).map (f name)
  | [] => rfl
  | e :: rest => by
    rw [List.map_cons, Entries.lookup_cons_eq_ite, Entries.lookup_cons_eq_ite, lookup_map_names f name rest]
    split
    · next same => rw [same]; rfl
    · rfl

theorem lookup_map (f : α → β) (name : String) (entries : List (String × α)) :
    (entries.map fun e => (e.1, f e.2)).lookup name = (entries.lookup name).map f :=
  lookup_map_names (fun _ => f) name entries

theorem lookup_filter_names (names : List String) (name : String) : ∀ entries : List (String × α),
    (entries.filter fun e => names.contains e.1).lookup name =
      if names.contains name then entries.lookup name else none
  | [] => by simp
  | e :: rest => by
    rw [List.filter_cons, Entries.lookup_cons_eq_ite]
    split
    · next known =>
      rw [Entries.lookup_cons_eq_ite, lookup_filter_names names name rest]
      by_cases same : name = e.1
      · simp only [same, ↓reduceIte, known]
      · simp only [same, ↓reduceIte]
    · next unknown =>
      rw [lookup_filter_names names name rest]
      by_cases same : name = e.1
      · rw [same, if_neg unknown, if_neg unknown]
      · simp only [same, ↓reduceIte]

end Lookup

/-! ### Parts -/

/-- The documents directly inside a document. -/
def parts : Json → List Json
  | array items => items
  | object members => members.map (·.2)
  | _ => []

theorem Distinct.part {j k : Json} (h : j.Distinct) (hk : k ∈ j.parts) : k.Distinct := by
  cases j with
  | array items => exact distinct_array.mp h k hk
  | object members =>
    obtain ⟨m, hm, rfl⟩ := List.mem_map.mp hk
    exact (distinct_object.mp h).2 m hm
  | _ => cases hk

theorem Canonical.part {j k : Json} (h : j.Canonical) (hk : k ∈ j.parts) : k.Canonical := by
  cases j with
  | array items => exact canonical_array.mp h k hk
  | object members =>
    obtain ⟨m, hm, rfl⟩ := List.mem_map.mp hk
    exact (canonical_object.mp h).2 m hm
  | _ => cases hk

theorem nesting_part {j k : Json} (hk : k ∈ j.parts) : k.nesting < j.nesting := by
  cases j with
  | array items =>
    rw [nesting, Nat.lt_succ_iff]
    exact nestingItems_le.mp (Nat.le_refl _) k hk
  | object members =>
    obtain ⟨m, hm, rfl⟩ := List.mem_map.mp hk
    rw [nesting, Nat.lt_succ_iff]
    exact nestingMembers_le.mp (Nat.le_refl _) m hm
  | _ => cases hk

/-- A document that has parts is nested. -/
theorem exists_of_mem_parts {j k : Json} {n : Nat} (hk : k ∈ j.parts) (h : j.nesting ≤ n) :
    ∃ m, n = m + 1 ∧ k.nesting ≤ m := by
  have deeper := nesting_part hk
  cases n with
  | zero => omega
  | succ m => exact ⟨m, rfl, by omega⟩

/-- What holds of a document if it holds of the documents directly inside it holds of every document. -/
theorem induction_parts {P : Json → Prop} (step : ∀ j : Json, (∀ k ∈ j.parts, P k) → P j) (j : Json) : P j := by
  induction j using Json.induction with
  | null | bool | number | string => exact step _ (List.forall_mem_nil _)
  | array items ih => exact step _ ih
  | object members ih => exact step _ (List.forall_mem_map.mpr ih)

theorem onlyMember?_eq_some {j : Json} {m : String × Json} (h : onlyMember? j = some m) : j = .object [m] := by
  unfold onlyMember? at h
  split at h
  · cases h
    rfl
  · cases h

theorem mem_parts_of_onlyMember? {j : Json} {m : String × Json} (h : onlyMember? j = some m) : m.2 ∈ j.parts := by
  rw [onlyMember?_eq_some h]
  exact List.mem_singleton_self _

/-! ### Members of a record -/

theorem namesDiffer_iff : ∀ {members : List (String × Json)}, namesDiffer members ↔ (members.map (·.1)).Nodup
  | [] => by simp [namesDiffer]
  | (name, j) :: rest => by
    rw [namesDiffer, Bool.and_eq_true, namesDiffer_iff, List.map_cons, List.nodup_cons]
    refine and_congr_left fun _ => ?_
    simp only [Bool.not_eq_true', List.any_eq_false, beq_iff_eq, List.mem_map, not_exists, not_and]

theorem record?_object {names : List String} {members : List (String × Json)}
    (nodup : (members.map (·.1)).Nodup) :
    record? names (.object members) = some (members.filter fun m => names.contains m.1) := by
  have known : namesDiffer (members.filter fun m => names.contains m.1) :=
    namesDiffer_iff.mpr (nodup.sublist (List.filter_sublist.map _))
  rw [record?]
  simp only [known, ↓reduceIte]

/-- What a record holds under a name is directly inside the document. -/
theorem mem_parts_of_record? {names : List String} {j k : Json} {members : List (String × Json)} {name : String}
    (h : record? names j = some members) (hk : members.lookup name = some k) : k ∈ j.parts := by
  have hm := mem_of_lookup hk
  cases j with
  | array items =>
    rw [record?] at h
    split at h
    · cases h
      exact (List.of_mem_zip hm).2
    · cases h
  | object held =>
    simp only [record?] at h
    split at h
    · cases h
      exact List.mem_map.mpr ⟨_, (List.mem_filter.mp hm).1, rfl⟩
    · cases h
  | _ => cases h

theorem mem_names_of_record? {names : List String} {j : Json} {members : List (String × Json)}
    (h : record? names j = some members) : ∀ m ∈ members, m.1 ∈ names := by
  intro m hm
  cases j with
  | array items =>
    rw [record?] at h
    split at h
    · cases h
      exact (List.of_mem_zip hm).1
    · cases h
  | object held =>
    simp only [record?] at h
    split at h
    · cases h
      exact List.contains_iff_mem.mp (List.mem_filter.mp hm).2
    · cases h
  | _ => cases h

theorem nesting_pos_of_record? {names : List String} {j : Json} {members : List (String × Json)}
    (h : record? names j = some members) : 0 < j.nesting := by
  cases j with
  | array items => exact Nat.succ_pos _
  | object members => exact Nat.succ_pos _
  | _ => cases h

/-- Members that hold under each name the value of what others hold there. -/
def SameMembers (members members' : List (String × Json)) : Prop :=
  ∀ name, members'.lookup name = (members.lookup name).map collapse

theorem collapseMembers_perm_map {members : List (String × Json)} (nodup : (members.map (·.1)).Nodup) :
    (collapseMembers [] members).Perm (members.map fun m => (m.1, m.2.collapse)) := by
  simpa using @collapseMembers_perm members [] (by simpa using nodup)

theorem lookup_zip_map (f : Json → Json) (names : List String) (items : List Json) (name : String) :
    (names.zip (items.map f)).lookup name = ((names.zip items).lookup name).map f := by
  rw [← lookup_map]
  congr 1
  exact List.zip_map_right

theorem record?_collapse {names : List String} {j : Json} (distinct : j.Distinct) :
    (record? names j = none ∧ record? names j.collapse = none) ∨
      ∃ members members', record? names j = some members ∧ record? names j.collapse = some members' ∧
        SameMembers members members' := by
  cases j with
  | array items =>
    rw [collapse_array, record?, record?, List.length_map]
    by_cases fits : items.length ≤ names.length
    · rw [if_pos fits, if_pos fits]
      exact .inr ⟨_, _, rfl, rfl, lookup_zip_map collapse names items⟩
    · rw [if_neg fits, if_neg fits]
      exact .inl ⟨rfl, rfl⟩
  | object members =>
    have nodup := (distinct_object.mp distinct).1
    have nodup' := (distinct_object.mp (distinct_collapse (.object members))).1
    refine .inr ⟨_, _, record?_object nodup, record?_object nodup', fun name => ?_⟩
    rw [lookup_filter_names, lookup_filter_names, lookup_perm (collapseMembers_perm_map nodup) nodup', lookup_map]
    split <;> rfl
  | _ => exact .inl ⟨rfl, rfl⟩

theorem record?_of_closedRecord? {names : List String} {j : Json} {members : List (String × Json)}
    (h : closedRecord? names j = some members) : record? names j = some members := by
  cases j with
  | object held =>
    simp only [closedRecord?] at h
    split at h
    · exact h
    · cases h
  | _ => exact h

theorem closedRecord?_collapse {names : List String} {j : Json} (distinct : j.Distinct) :
    (closedRecord? names j = none ∧ closedRecord? names j.collapse = none) ∨
      ∃ members members', closedRecord? names j = some members ∧ closedRecord? names j.collapse = some members' ∧
        SameMembers members members' := by
  cases j with
  | object members =>
    have perm := collapseMembers_perm_map (distinct_object.mp distinct).1
    have known : ((collapseMembers [] members).all fun m => names.contains m.1) =
        members.all fun m => names.contains m.1 := by
      rw [perm.all_eq, List.all_map]
      rfl
    have record := @record?_collapse names (.object members) distinct
    rw [collapse] at record ⊢
    rw [closedRecord?, closedRecord?, known]
    split
    · exact record
    · exact .inl ⟨rfl, rfl⟩
  | array items =>
    have record := @record?_collapse names (.array items) distinct
    rw [collapse] at record ⊢
    exact record
  | _ => exact .inl ⟨rfl, rfl⟩

/-- A closed record of one name has two spellings that hold something under it. -/
theorem lookup_closedRecord?_single {name : String} {j k : Json} :
    (closedRecord? [name] j).bind (·.lookup name) = some k ↔ j = .object [(name, k)] ∨ j = .array [k] := by
  constructor
  · intro h
    match j, h with
    | .object [(other, k')], h =>
      by_cases same : other = name
      · subst same
        have held : k' = k := by simpa [closedRecord?, record?, namesDiffer] using h
        exact .inl (held ▸ rfl)
      · simp [closedRecord?, same] at h
    | .object (a :: b :: rest), h =>
      by_cases first : a.1 = name
      · by_cases second : b.1 = name
        · rw [closedRecord?] at h
          split at h
          · simp [record?, namesDiffer, first, second] at h
          · cases h
        · simp [closedRecord?, second] at h
      · simp [closedRecord?, first] at h
    | .array [k'], h =>
      have held : k' = k := by simpa [closedRecord?, record?] using h
      exact .inr (held ▸ rfl)
    | .object [], h | .array [], h | .array (_ :: _ :: _), h => simp [closedRecord?, record?, namesDiffer] at h
    | .null, h | .bool _, h | .number _, h | .string _, h => cases h
  · rintro (rfl | rfl) <;> simp [closedRecord?, record?, namesDiffer]

/-- A document with a single member stands for a value with a single member. -/
theorem onlyMember?_collapse {j : Json} (distinct : j.Distinct) :
    onlyMember? j.collapse = (onlyMember? j).map fun m => (m.1, m.2.collapse) := by
  cases j with
  | array items => rw [collapse_array]; rfl
  | object members =>
    have perm := collapseMembers_perm_map (distinct_object.mp distinct).1
    rw [collapse]
    rcases members with _ | ⟨m, _ | ⟨m', rest⟩⟩
    · rfl
    · rfl
    · have same := perm.length_eq
      generalize collapseMembers [] (m :: m' :: rest) = collapsed at same
      rcases collapsed with _ | ⟨c, _ | ⟨c', others⟩⟩
      · simp at same
      · simp at same
      · rfl
  | _ => rfl

/-! ### Readers of members -/

section Readers
variable {α : Type} {read : Json → Option α} {name : String} {members members' : List (String × Json)}

theorem SameMembers.required (same : SameMembers members members')
    (hr : ∀ k, members.lookup name = some k → read k.collapse = read k) :
    required read name members' = required read name members := by
  rw [Json.required, Json.required, same name]
  cases h : members.lookup name with
  | none => rfl
  | some k => exact hr k h

theorem SameMembers.withDefault {default : α} (same : SameMembers members members')
    (hr : ∀ k, members.lookup name = some k → read k.collapse = read k) :
    withDefault default read name members' = withDefault default read name members := by
  rw [Json.withDefault, Json.withDefault, same name]
  cases h : members.lookup name with
  | none => rfl
  | some k => exact hr k h

theorem SameMembers.optional (same : SameMembers members members')
    (hr : ∀ k, members.lookup name = some k → read k.collapse = read k) :
    optional read name members' = optional read name members := by
  rw [Json.optional, Json.optional, same name]
  cases h : members.lookup name with
  | none => rfl
  | some k =>
    have value := hr k h
    cases k with
    | null => rfl
    | array items => rw [collapse_array] at value; simp only [Option.map_some, collapse_array, value]
    | object members => rw [collapse] at value; simp only [Option.map_some, collapse, value]
    | _ => rfl

end Readers

theorem required_string?_eq_some {name s : String} {members : List (String × Json)} :
    required string? name members = some s ↔ members.lookup name = some (.string s) := by
  rw [required]
  cases members.lookup name with
  | none => simp
  | some k => cases k <;> simp [string?]

theorem optional_eq_some {α : Type} {read : Json → Option α} {name : String} {members : List (String × Json)} {a : α}
    (h : optional read name members = some (some a)) :
    ∃ k, members.lookup name = some k ∧ k ≠ .null ∧ read k = some a := by
  rw [optional] at h
  split at h
  · cases h
  · cases h
  · next k present held =>
    obtain ⟨a', read, same⟩ := Option.map_eq_some_iff.mp h
    cases same
    exact ⟨k, held, present, read⟩

/-! ### Records that have been written -/

section Writing
variable {entries : List (String × Option Json)}

theorem members_cons (name : String) (value : Option Json) (rest : List (String × Option Json)) :
    members ((name, value) :: rest) = (value.map (name, ·)).toList ++ members rest := by
  cases value <;> rfl

theorem mem_members {m : String × Json} : m ∈ members entries ↔ (m.1, some m.2) ∈ entries := by
  rw [members, List.mem_filterMap]
  constructor
  · rintro ⟨⟨name, value⟩, he, h⟩
    obtain ⟨j, rfl, rfl⟩ := Option.map_eq_some_iff.mp h
    exact he
  · exact fun h => ⟨_, h, rfl⟩

theorem nodup_members (nodup : (entries.map (·.1)).Nodup) : ((members entries).map (·.1)).Nodup := by
  induction entries with
  | nil => exact List.nodup_nil
  | cons e rest ih =>
    obtain ⟨fresh, others⟩ := List.nodup_cons.mp nodup
    obtain ⟨name, value⟩ := e
    rw [members_cons]
    cases value with
    | none => exact ih others
    | some j =>
      refine List.nodup_cons.mpr ⟨fun again => fresh ?_, ih others⟩
      obtain ⟨m, hm, same⟩ := List.mem_map.mp again
      exact List.mem_map.mpr ⟨_, mem_members.mp hm, same⟩

theorem lookup_members (nodup : (entries.map (·.1)).Nodup) (name : String) :
    (members entries).lookup name = (entries.lookup name).join := by
  refine Option.ext fun j => ?_
  rw [lookup_eq_some_iff (nodup_members nodup), mem_members, ← lookup_eq_some_iff nodup, Option.join_eq_some_iff]

theorem distinct_record (nodup : (entries.map (·.1)).Nodup) (h : ∀ e ∈ entries, ∀ j ∈ e.2, j.Distinct) :
    (record entries).Distinct :=
  distinct_object.mpr ⟨nodup_members nodup, fun _ hm => h _ (mem_members.mp hm) _ rfl⟩

theorem nesting_record_le {n : Nat} :
    (record entries).nesting ≤ n + 1 ↔ ∀ e ∈ entries, ∀ j ∈ e.2, j.nesting ≤ n := by
  rw [record, nesting_object_le]
  constructor
  · exact fun h e he j hj => h (e.1, j) (mem_members.mpr (hj ▸ he))
  · exact fun h m hm => h _ (mem_members.mp hm) m.2 rfl

/-- A written record is read as the entries that are there. -/
theorem record?_record {names : List String} (nodup : (entries.map (·.1)).Nodup) :
    ∃ ms, record? names (record entries) = some ms ∧ ∀ name ∈ names, ms.lookup name = (entries.lookup name).join := by
  refine ⟨_, record?_object (nodup_members nodup), fun name hn => ?_⟩
  rw [lookup_filter_names, if_pos (List.contains_iff_mem.mpr hn), lookup_members nodup]

theorem closedRecord?_record {names : List String} (nodup : (entries.map (·.1)).Nodup)
    (known : ∀ e ∈ entries, e.1 ∈ names) :
    ∃ ms, closedRecord? names (record entries) = some ms ∧
      ∀ name ∈ names, ms.lookup name = (entries.lookup name).join := by
  have all : (members entries).all fun m => names.contains m.1 :=
    List.all_eq_true.mpr fun _ hm => List.contains_iff_mem.mpr (known _ (mem_members.mp hm))
  obtain ⟨ms, h, held⟩ := @record?_record entries names nodup
  refine ⟨ms, ?_, held⟩
  rw [record, closedRecord?, if_pos all, ← record, h]

theorem withDefault_some {α : Type} {default : α} {read : Json → Option α} {name : String}
    {members : List (String × Json)} {j : Json} (held : members.lookup name = some j) :
    withDefault default read name members = read j := by
  rw [withDefault, held]

/-- A member that has been written and is not `null` is read. -/
theorem optional_map {α β : Type} {read : Json → Option β} {json : α → Json} {f : α → β} {name : String}
    {members : List (String × Json)} {value : Option α} (held : members.lookup name = value.map json)
    (back : ∀ a ∈ value, read (json a) = some (f a) ∧ json a ≠ .null) :
    optional read name members = some (value.map f) := by
  cases value with
  | none => rw [optional, held, Option.map_none, Option.map_none]
  | some a =>
    obtain ⟨same, present⟩ := back a rfl
    rw [optional, held, Option.map_some]
    split
    · next h => cases h
    · next h => exact absurd (Option.some.inj h) present
    · next h => rw [← Option.some.inj h, same, Option.map_some, Option.map_some]

theorem optional_same {α : Type} {read : Json → Option α} {json : α → Json} {name : String}
    {members : List (String × Json)} {value : Option α} (held : members.lookup name = value.map json)
    (back : ∀ a ∈ value, read (json a) = some a ∧ json a ≠ .null) : optional read name members = some value := by
  rw [@optional_map α α read json id name members value held back, Option.map_id_fun, id]

end Writing

end Json
end SpanSearch
