/-! Named entries in ascending order of their names, each name once. -/

namespace SpanSearch
namespace Entries

variable {α : Type}

/-- The names of the entries ascend. -/
def Ascending (entries : List (String × α)) : Prop :=
  entries.Pairwise fun a b => a.1 < b.1

instance (entries : List (String × α)) : Decidable (Ascending entries) :=
  inferInstanceAs (Decidable (List.Pairwise _ entries))

/-- Puts an entry in its place; an entry of the same name gives way. -/
def place (name : String) (value : α) : List (String × α) → List (String × α)
  | [] => [(name, value)]
  | (other, held) :: rest =>
    if name < other then (name, value) :: (other, held) :: rest
    else if other < name then (other, held) :: place name value rest
    else (other, value) :: rest

/-- The entries in their places, the last one of a name kept. -/
def ofList (entries : List (String × α)) : List (String × α) :=
  entries.foldl (fun placed (name, value) => place name value placed) []

theorem mem_place {name : String} {value : α} {entries : List (String × α)} {e : String × α}
    (h : e ∈ place name value entries) : e.1 = name ∨ ∃ d ∈ entries, e.1 = d.1 := by
  induction entries with
  | nil => simp [place] at h; exact .inl (by rw [h])
  | cons held rest ih =>
    rw [place] at h
    split at h
    · rcases List.mem_cons.mp h with rfl | h
      · exact .inl rfl
      · exact .inr ⟨e, h, rfl⟩
    · split at h
      · rcases List.mem_cons.mp h with rfl | h
        · exact .inr ⟨held, List.mem_cons_self, rfl⟩
        · rcases ih h with same | ⟨d, hd, same⟩
          · exact .inl same
          · exact .inr ⟨d, List.mem_cons_of_mem held hd, same⟩
      · rcases List.mem_cons.mp h with rfl | h
        · exact .inr ⟨held, List.mem_cons_self, rfl⟩
        · exact .inr ⟨e, List.mem_cons_of_mem held h, rfl⟩

theorem ascending_place {name : String} {value : α} {entries : List (String × α)}
    (h : Ascending entries) : Ascending (place name value entries) := by
  induction entries with
  | nil => exact List.pairwise_singleton _ _
  | cons held rest ih =>
    obtain ⟨above, tail⟩ := List.pairwise_cons.mp h
    rw [place]
    split
    · next lower =>
      refine List.pairwise_cons.mpr ⟨fun e he => ?_, h⟩
      rcases List.mem_cons.mp he with rfl | he
      · exact lower
      · exact String.lt_trans lower (above e he)
    · split
      · next higher =>
        refine List.pairwise_cons.mpr ⟨fun e he => ?_, ih tail⟩
        rcases mem_place he with same | ⟨d, hd, same⟩
        · rw [same]; exact higher
        · rw [same]; exact above d hd
      · exact List.pairwise_cons.mpr ⟨above, tail⟩

theorem lookup_cons_eq_ite (e : String × α) (rest : List (String × α)) (key : String) :
    (e :: rest).lookup key = if key = e.1 then some e.2 else rest.lookup key := by
  obtain ⟨name, value⟩ := e
  by_cases h : key = name
  · simp only [List.lookup_cons, h, beq_self_eq_true, ↓reduceIte]
  · simp only [List.lookup_cons, beq_eq_false_iff_ne.mpr h, h, ↓reduceIte]

/-- An entry that is put in its place is found under its name, and all others as before. -/
theorem lookup_place (name key : String) (value : α) (entries : List (String × α)) :
    (place name value entries).lookup key = if key = name then some value else entries.lookup key := by
  induction entries with
  | nil => exact lookup_cons_eq_ite (name, value) [] key
  | cons held rest ih =>
    rw [place]
    split
    · exact lookup_cons_eq_ite (name, value) (held :: rest) key
    · split
      · next higher =>
        simp only [lookup_cons_eq_ite, ih]
        by_cases h : key = held.1
        · have differ : held.1 ≠ name := fun same => String.lt_irrefl name (same ▸ higher)
          simp only [h, differ, ↓reduceIte]
        · simp only [h, ↓reduceIte]
      · next notLower notHigher =>
        have same : held.1 = name := String.le_antisymm notLower notHigher
        simp only [lookup_cons_eq_ite, same]
        split <;> rfl

theorem ascending_ofList (entries : List (String × α)) : Ascending (ofList entries) := by
  suffices h : ∀ placed : List (String × α), Ascending placed →
      Ascending (entries.foldl (fun placed (name, value) => place name value placed) placed) from
    h [] List.Pairwise.nil
  induction entries with
  | nil => exact fun _ h => h
  | cons e rest ih => exact fun _ h => ih _ (ascending_place h)

end Entries
end SpanSearch
