import SpanSearch.Json.Value

/-! Documents: induction over them, how deep they are nested, and whether an object lists a name twice. A
    document without repeated names and the free-form value that it stands for have the same members, and
    the value is nested no deeper. -/

namespace SpanSearch
namespace Json

/-! ### Induction -/

/-- What holds of a document if it holds of its items and of the values of its members holds of every
    document. -/
@[elab_as_elim]
theorem induction {P : Json → Prop} (null : P .null) (bool : ∀ b, P (.bool b)) (number : ∀ n, P (.number n))
    (string : ∀ s, P (.string s)) (array : ∀ items : List Json, (∀ j ∈ items, P j) → P (.array items))
    (object : ∀ members : List (String × Json), (∀ m ∈ members, P m.2) → P (.object members)) (j : Json) : P j :=
  @Json.rec P (fun items => ∀ j ∈ items, P j) (fun members => ∀ m ∈ members, P m.2) (fun m => P m.2)
    null bool number string array object
    (List.forall_mem_nil _) (fun _ _ here rest => List.forall_mem_cons.mpr ⟨here, rest⟩)
    (List.forall_mem_nil _) (fun _ _ here rest => List.forall_mem_cons.mpr ⟨here, rest⟩)
    (fun _ _ here => here) j

/-! ### Nesting -/

mutual

/-- How deep arrays and objects are nested in a document. -/
def nesting : Json → Nat
  | array items => nestingItems items + 1
  | object members => nestingMembers members + 1
  | _ => 0

/-- How deep the items of an array are nested. -/
def nestingItems : List Json → Nat
  | [] => 0
  | j :: rest => Nat.max j.nesting (nestingItems rest)

/-- How deep the values of the members of an object are nested. -/
def nestingMembers : List (String × Json) → Nat
  | [] => 0
  | (_, j) :: rest => Nat.max j.nesting (nestingMembers rest)

end

theorem nestingItems_le {n : Nat} {items : List Json} :
    nestingItems items ≤ n ↔ ∀ j ∈ items, j.nesting ≤ n := by
  induction items with
  | nil => simp [nestingItems]
  | cons j rest ih => rw [nestingItems, Nat.max_le, ih, List.forall_mem_cons]

theorem nestingMembers_le {n : Nat} {members : List (String × Json)} :
    nestingMembers members ≤ n ↔ ∀ m ∈ members, m.2.nesting ≤ n := by
  induction members with
  | nil => simp [nestingMembers]
  | cons m rest ih => rw [nestingMembers, Nat.max_le, ih, List.forall_mem_cons]

theorem nesting_array_le {n : Nat} {items : List Json} :
    (array items).nesting ≤ n + 1 ↔ ∀ j ∈ items, j.nesting ≤ n := by
  rw [nesting, Nat.succ_le_succ_iff, nestingItems_le]

theorem nesting_object_le {n : Nat} {members : List (String × Json)} :
    (object members).nesting ≤ n + 1 ↔ ∀ m ∈ members, m.2.nesting ≤ n := by
  rw [nesting, Nat.succ_le_succ_iff, nestingMembers_le]

theorem nesting_single_le {n : Nat} {name : String} {j : Json} :
    (object [(name, j)]).nesting ≤ n + 1 ↔ j.nesting ≤ n := by
  simp [nesting_object_le]

theorem exists_of_nesting_array_le {n : Nat} {items : List Json} (h : (array items).nesting ≤ n) :
    ∃ k, n = k + 1 ∧ ∀ j ∈ items, j.nesting ≤ k := by
  cases n with
  | zero => exact absurd h (by simp [nesting])
  | succ k => exact ⟨k, rfl, nesting_array_le.mp h⟩

theorem exists_of_nesting_object_le {n : Nat} {members : List (String × Json)} (h : (object members).nesting ≤ n) :
    ∃ k, n = k + 1 ∧ ∀ m ∈ members, m.2.nesting ≤ k := by
  cases n with
  | zero => exact absurd h (by simp [nesting])
  | succ k => exact ⟨k, rfl, nesting_object_le.mp h⟩

/-! ### Names -/

mutual

/-- No object of the document lists a name twice. -/
def Distinct : Json → Prop
  | array items => DistinctItems items
  | object members => (members.map (·.1)).Nodup ∧ DistinctMembers members
  | _ => True

/-- No object of an item lists a name twice. -/
def DistinctItems : List Json → Prop
  | [] => True
  | j :: rest => j.Distinct ∧ DistinctItems rest

/-- No object of the value of a member lists a name twice. -/
def DistinctMembers : List (String × Json) → Prop
  | [] => True
  | (_, j) :: rest => j.Distinct ∧ DistinctMembers rest

end

theorem distinctItems_iff {items : List Json} : DistinctItems items ↔ ∀ j ∈ items, j.Distinct := by
  induction items with
  | nil => simp [DistinctItems]
  | cons j rest ih => rw [DistinctItems, ih, List.forall_mem_cons]

theorem distinctMembers_iff {members : List (String × Json)} :
    DistinctMembers members ↔ ∀ m ∈ members, m.2.Distinct := by
  induction members with
  | nil => simp [DistinctMembers]
  | cons m rest ih => rw [DistinctMembers, ih, List.forall_mem_cons]

theorem distinct_array {items : List Json} : (array items).Distinct ↔ ∀ j ∈ items, j.Distinct := by
  rw [Distinct, distinctItems_iff]

theorem distinct_object {members : List (String × Json)} :
    (object members).Distinct ↔ (members.map (·.1)).Nodup ∧ ∀ m ∈ members, m.2.Distinct := by
  rw [Distinct, distinctMembers_iff]

theorem distinct_string (s : String) : (string s).Distinct := by
  simp only [Distinct]

@[simp] theorem distinct_single {name : String} {j : Json} : (object [(name, j)]).Distinct ↔ j.Distinct := by
  simp [distinct_object]

theorem canonicalItems_iff {items : List Json} : CanonicalItems items ↔ ∀ j ∈ items, j.Canonical := by
  induction items with
  | nil => simp [CanonicalItems]
  | cons j rest ih => rw [CanonicalItems, ih, List.forall_mem_cons]

theorem canonicalMembers_iff {members : List (String × Json)} :
    CanonicalMembers members ↔ ∀ m ∈ members, m.2.Canonical := by
  induction members with
  | nil => simp [CanonicalMembers]
  | cons m rest ih => rw [CanonicalMembers, ih, List.forall_mem_cons]

theorem canonical_array {items : List Json} : (array items).Canonical ↔ ∀ j ∈ items, j.Canonical := by
  rw [Canonical, canonicalItems_iff]

theorem canonical_object {members : List (String × Json)} :
    (object members).Canonical ↔ Entries.Ascending members ∧ ∀ m ∈ members, m.2.Canonical := by
  rw [Canonical, canonicalMembers_iff]

theorem nodup_of_ascending {α : Type} {entries : List (String × α)} (h : Entries.Ascending entries) :
    (entries.map (·.1)).Nodup := by
  refine List.pairwise_map.mpr (List.Pairwise.imp (fun lower same => ?_) h)
  exact String.lt_irrefl _ (same ▸ lower)

theorem Canonical.distinct {j : Json} : j.Canonical → j.Distinct := by
  induction j using Json.induction with
  | null | bool | number | string => exact fun _ => by simp only [Distinct]
  | array items ih =>
    rw [canonical_array, distinct_array]
    exact fun h j hj => ih j hj (h j hj)
  | object members ih =>
    rw [canonical_object, distinct_object]
    exact fun ⟨ascending, h⟩ => ⟨nodup_of_ascending ascending, fun m hm => ih m hm (h m hm)⟩

/-! ### The value that a document stands for -/

theorem collapseItems_eq_map (items : List Json) : collapseItems items = items.map collapse := by
  induction items with
  | nil => rfl
  | cons j rest ih => rw [collapseItems, ih, List.map_cons]

theorem collapse_array (items : List Json) : collapse (array items) = array (items.map collapse) := by
  rw [collapse, collapseItems_eq_map]

theorem place_perm {α : Type} {name : String} (value : α) :
    ∀ {entries : List (String × α)}, name ∉ entries.map (·.1) →
      (Entries.place name value entries).Perm ((name, value) :: entries)
  | [], _ => List.Perm.refl _
  | (other, held) :: rest, h => by
    obtain ⟨here, tail⟩ := not_or.mp (mt List.mem_cons.mpr h)
    rw [Entries.place]
    split
    · exact List.Perm.refl _
    · split
      · exact ((place_perm value tail).cons _).trans (List.Perm.swap _ _ _)
      · next notLower notHigher => exact absurd (String.le_antisymm notHigher notLower) here

theorem place_last {α : Type} {name : String} (value : α) :
    ∀ {entries : List (String × α)}, (∀ e ∈ entries, e.1 < name) →
      Entries.place name value entries = entries ++ [(name, value)]
  | [], _ => rfl
  | (other, held) :: rest, h => by
    have lower : other < name := h _ List.mem_cons_self
    rw [Entries.place, if_neg (String.lt_asymm lower), if_pos lower,
      place_last value fun e he => h e (List.mem_cons_of_mem _ he), List.cons_append]

/-- Members whose names are not in place yet all come into their places. -/
theorem collapseMembers_perm :
    ∀ {members placed : List (String × Json)}, ((placed ++ members).map (·.1)).Nodup →
      (collapseMembers placed members).Perm (placed ++ members.map fun m => (m.1, m.2.collapse))
  | [], placed, _ => by rw [collapseMembers, List.map_nil, List.append_nil]
  | (name, j) :: rest, placed, h => by
    have fresh : name ∉ placed.map (·.1) := by
      rw [List.map_append, List.nodup_append] at h
      exact fun held => h.2.2 name held name List.mem_cons_self rfl
    have inPlace := place_perm j.collapse fresh
    have moved : ((name, j.collapse) :: placed ++ rest).Perm (placed ++ (name, j.collapse) :: rest) :=
      List.perm_middle.symm
    rw [collapseMembers]
    refine (collapseMembers_perm ?_).trans ?_
    · rw [((inPlace.append_right rest).map (·.1)).nodup_iff, (moved.map (·.1)).nodup_iff]
      simpa only [List.map_append, List.map_cons] using h
    · exact (inPlace.append_right _).trans List.perm_middle.symm

/-- A free-form value stands for itself. -/
theorem collapse_of_canonical {j : Json} : j.Canonical → j.collapse = j := by
  induction j using Json.induction with
  | null | bool | number | string => exact fun _ => rfl
  | array items ih =>
    rw [canonical_array, collapse_array]
    exact fun h => congrArg array ((List.map_congr_left fun j hj => ih j hj (h j hj)).trans items.map_id)
  | object members ih =>
    -- Members in ascending order come into place one behind the other.
    have place : ∀ rest placed : List (String × Json), Entries.Ascending (placed ++ rest) →
        (∀ m ∈ rest, m.2.collapse = m.2) → collapseMembers placed rest = placed ++ rest := by
      intro rest
      induction rest with
      | nil => exact fun placed _ _ => by rw [collapseMembers, List.append_nil]
      | cons m rest again =>
        intro placed ascending same
        have last : ∀ e ∈ placed, e.1 < m.1 := fun e he =>
          (List.pairwise_append.mp ascending).2.2 e he m List.mem_cons_self
        rw [List.append_cons] at ascending ⊢
        rw [collapseMembers, same m List.mem_cons_self, place_last _ last]
        exact again _ ascending fun n hn => same n (List.mem_cons_of_mem _ hn)
    rw [canonical_object, collapse]
    exact fun ⟨ascending, h⟩ => congrArg object (place members [] ascending fun m hm => ih m hm (h m hm))

@[simp] theorem collapse_collapse (j : Json) : j.collapse.collapse = j.collapse :=
  collapse_of_canonical j.canonical_collapse

theorem collapse_eq_null {j : Json} : j.collapse = .null ↔ j = .null := by
  cases j with
  | array items => simp [collapse_array]
  | object members => simp [collapse]
  | _ => exact Iff.rfl

theorem distinct_collapse (j : Json) : j.collapse.Distinct :=
  j.canonical_collapse.distinct

theorem nestingMembers_place (name : String) (j : Json) (members : List (String × Json)) {n : Nat}
    (hj : j.nesting ≤ n) (h : nestingMembers members ≤ n) : nestingMembers (Entries.place name j members) ≤ n := by
  induction members with
  | nil => exact nestingMembers_le.mpr (by simpa [Entries.place] using hj)
  | cons held rest ih =>
    rw [nestingMembers, Nat.max_le] at h
    rw [Entries.place]
    split
    · exact Nat.max_le.mpr ⟨hj, Nat.max_le.mpr h⟩
    · split
      · exact Nat.max_le.mpr ⟨h.1, ih h.2⟩
      · exact Nat.max_le.mpr ⟨hj, h.2⟩

theorem nesting_collapse {j : Json} : ∀ {n : Nat}, j.nesting ≤ n → j.collapse.nesting ≤ n := by
  induction j using Json.induction with
  | null | bool | number | string => exact fun h => h
  | array items ih =>
    intro n h
    obtain ⟨n, rfl, inner⟩ := exists_of_nesting_array_le h
    rw [collapse_array, nesting_array_le]
    intro k hk
    obtain ⟨j, hj, rfl⟩ := List.mem_map.mp hk
    exact ih j hj (inner j hj)
  | object members ih =>
    intro n h
    obtain ⟨n, rfl, inner⟩ := exists_of_nesting_object_le h
    have place : ∀ rest placed : List (String × Json), nestingMembers placed ≤ n →
        (∀ m ∈ rest, m.2.collapse.nesting ≤ n) → nestingMembers (collapseMembers placed rest) ≤ n := by
      intro rest
      induction rest with
      | nil => exact fun placed hp _ => hp
      | cons m rest again =>
        intro placed hp hr
        rw [collapseMembers]
        exact again _ (nestingMembers_place m.1 _ placed (hr m List.mem_cons_self) hp) fun k hk =>
          hr k (List.mem_cons_of_mem _ hk)
    rw [collapse, nesting]
    exact Nat.succ_le_succ (place members [] (Nat.zero_le n) fun m hm => ih m hm (inner m hm))

end Json
end SpanSearch
