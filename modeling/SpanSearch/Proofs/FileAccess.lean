import SpanSearch.CommandLine.Access

/-! Worlds with files. A program reads and replaces files; a world tells what is found in each of its states, and
    when one of its files can be replaced so that it is found afterwards. Files in memory are such a world. -/

namespace SpanSearch

/-- A world in which the file at a path is kept: reading leaves it as it is, and where the file can be replaced,
it is found with its new text and can be replaced again. -/
structure World (σ : Type) where
  access : Access (StateM σ)
  found : σ → String → Found
  path : String
  replaceable : σ → Prop
  read : ∀ (other : String) (w : σ), (access.read other).run w = (found w other, w)
  write : ∀ (text : String) (w : σ), replaceable w → ∃ w', (access.write path text).run w = (true, w') ∧
    replaceable w' ∧ found w' path = .text text

/-- The file of a world is replaced as a whole or not at all: it holds the new text, or nothing has happened. -/
structure World.Whole {σ : Type} (world : World σ) : Prop where
  written : ∀ {text : String} {w w' : σ}, (world.access.write world.path text).run w = (true, w') →
    world.found w' world.path = .text text
  refused : ∀ {text : String} {w w' : σ}, (world.access.write world.path text).run w = (false, w') → w' = w

namespace Files
variable {f g : Files} {path text : String}

/-- Files of which each directory is one in others, too. -/
def Within (f g : Files) : Prop :=
  ∀ path, f.isDirectory path → g.isDirectory path

theorem Within.step? (h : f.Within g) {place place' : List String} {name : String}
    (stepped : f.step? place name = some place') : g.step? place name = some place' := by
  rw [Files.step?] at stepped ⊢
  split at stepped
  · cases stepped
  · next here =>
    simp only [Bool.or_eq_true, Bool.not_eq_true', not_or, Bool.not_eq_false] at here
    rw [if_neg (by simp [h _ here.1, here.2])]
    exact stepped

theorem Within.foldlM (h : f.Within g) : ∀ {names place place' : List String},
    names.foldlM f.step? place = some place' → names.foldlM g.step? place = some place'
  | [], _, _, walked => walked
  | name :: rest, place, place', walked => by
    rw [List.foldlM_cons, Option.bind_eq_bind, Option.bind_eq_some_iff] at walked ⊢
    obtain ⟨between, stepped, walked⟩ := walked
    exact ⟨between, h.step? stepped, h.foldlM walked⟩

theorem Within.resolve? (h : f.Within g) {shortest : String} (resolved : f.resolve? path = some shortest) :
    g.resolve? path = some shortest := by
  rw [Files.resolve?] at resolved ⊢
  split at resolved
  · cases resolved
  · next fits =>
    obtain ⟨place, walked, same⟩ := Option.map_eq_some_iff.mp resolved
    rw [if_neg fits, h.foldlM walked, ← same, Option.map_some]

/-- The files after one of them has been replaced. -/
def put (f : Files) (shortest text : String) : Files :=
  { f with texts := (shortest, text) :: f.texts.filter (·.1 != shortest) }

theorem within_put (f : Files) (shortest text : String) : f.Within (f.put shortest text) := by
  intro path h
  simp only [isDirectory, put, Bool.or_eq_true, List.any_cons, List.any_eq_true] at h ⊢
  rcases h with listed | ⟨e, he, inside⟩
  · exact .inl listed
  · by_cases same : e.1 = shortest
    · exact .inr (.inl (same ▸ inside))
    · exact .inr (.inr ⟨e, List.mem_filter.mpr ⟨he, by simpa using same⟩, inside⟩)

theorem not_isDirectory_put {shortest : String} (h : f.isDirectory shortest = false) :
    (f.put shortest text).isDirectory shortest = false := by
  have longer : (shortest.toList ++ ['/']).isPrefixOf shortest.toList = false := by
    rw [← Bool.not_eq_true, List.isPrefixOf_iff_prefix]
    intro inside
    have length := inside.length_le
    rw [List.length_append, List.length_singleton] at length
    omega
  simp only [isDirectory, put, Bool.or_eq_false_iff, List.any_cons, longer, true_and, List.any_eq_false] at h ⊢
  exact ⟨h.1, fun e he => h.2 e (List.mem_filter.mp he).1⟩

/-- A path leads to a place where a file is or can be. -/
def Replaceable (path : String) (f : Files) : Prop :=
  ∃ shortest, f.resolve? path = some shortest ∧ f.isDirectory shortest = false

theorem replace?_eq {shortest : String} (resolved : f.resolve? path = some shortest)
    (file : f.isDirectory shortest = false) : f.replace? path text = some (f.put shortest text) := by
  rw [replace?, resolved, Option.bind_eq_bind, Option.bind_some, file]
  rfl

/-- A file that is replaced is found with its new text, and can be replaced again. -/
theorem Replaceable.replace? (h : Replaceable path f) (text : String) :
    ∃ g, f.replace? path text = some g ∧ Replaceable path g ∧ g.found path = .text text := by
  obtain ⟨shortest, resolved, file⟩ := h
  have resolved' := (within_put f shortest text).resolve? resolved
  refine ⟨_, replace?_eq resolved file, ⟨shortest, resolved', not_isDirectory_put file⟩, ?_⟩
  rw [found, resolved']
  simp only [put, List.lookup_cons_self]

/-- Files in memory, of which one is kept. -/
def world (path : String) : World Files where
  access := access .epoch
  found := found
  path := path
  replaceable := Replaceable path
  read _ _ := rfl
  write text f h := by
    obtain ⟨g, replaced, again, same⟩ := h.replace? text
    refine ⟨g, ?_, again, same⟩
    simp only [access, StateT.run_bind, StateT.run_get, pure_bind, replaced]
    rfl

theorem replaceable_of_replace? (replaced : f.replace? path text = some g) : Replaceable path f := by
  rw [replace?, Option.bind_eq_bind, Option.bind_eq_some_iff] at replaced
  obtain ⟨shortest, resolved, replaced⟩ := replaced
  cases directory : f.isDirectory shortest with
  | true => simp [directory] at replaced
  | false => exact ⟨shortest, resolved, directory⟩

theorem run_write (now : Instant) (f : Files) : ((access now).write path text).run f =
    match f.replace? path text with
    | some g => (true, g)
    | none => (false, f) := by
  simp only [access, StateT.run_bind, StateT.run_get, pure_bind]
  cases f.replace? path text <;> rfl

theorem whole_world (path : String) : (world path).Whole where
  written := by
    intro text f g written
    have written : ((access .epoch).write path text).run f = (true, g) := written
    rw [run_write] at written
    cases replaced : f.replace? path text with
    | none => rw [replaced] at written; cases written
    | some g' =>
      rw [replaced] at written
      cases written
      obtain ⟨h, same, -, found⟩ := (replaceable_of_replace? replaced).replace? text
      rw [replaced] at same
      cases same
      exact found
  refused := by
    intro text f g refused
    have refused : ((access .epoch).write path text).run f = (false, g) := refused
    rw [run_write] at refused
    cases replaced : f.replace? path text with
    | none => rw [replaced] at refused; cases refused; rfl
    | some g' => rw [replaced] at refused; cases refused

end Files
end SpanSearch
