import SpanSearch.Assembly

/-! The query that is assembled from filters, in closed form. Each filter adds to the body of the query on its
    own; the first enabled authored filter without a clause ends the assembly with its error. -/

namespace SpanSearch

/-! ### What a filter has to do with the query -/

namespace Filter

/-- Why an enabled authored filter has no clause. -/
def error? : Filter → Option CompileError
  | authored a => if a.disabled then none else match a.clause with
    | .error e => some e
    | .ok _ => none
  | synthesized _ => none

/-- If the filter is an enabled authored one, it has a clause. -/
def Compiles (f : Filter) : Prop :=
  ∀ a, f = authored a → a.disabled = false → ∃ c, a.clause = .ok c

/-- The clause of an enabled authored filter that is inverted, or of one that is not. -/
def clauseIf? (inverted : Bool) : Filter → Option Clause
  | authored a => if !a.disabled && a.inverted == inverted then a.clause.toOption else none
  | synthesized _ => none

/-- The fragment of an enabled synthesized filter. -/
def fragment? : Filter → Option BoolClause
  | authored _ => none
  | synthesized s => if s.disabled then none else some s.fragment

theorem error?_eq_some_iff {f : Filter} {e : CompileError} :
    f.error? = some e ↔ ∃ a, f = authored a ∧ a.disabled = false ∧ a.clause = .error e := by
  cases f with
  | synthesized s => simp [error?]
  | authored a =>
    rw [error?]
    constructor
    · intro h
      split at h
      · cases h
      · next enabled =>
        split at h
        · next e' failed => exact ⟨a, rfl, by simpa using enabled, failed.trans (congrArg _ (Option.some.inj h))⟩
        · cases h
    · rintro ⟨_, same, enabled, failed⟩
      cases same
      rw [enabled, failed]
      rfl

theorem error?_eq_none_iff {f : Filter} : f.error? = none ↔ f.Compiles := by
  constructor
  · intro h a same enabled
    cases compiled : a.clause with
    | ok c => exact ⟨c, rfl⟩
    | error e =>
      rw [error?_eq_some_iff.mpr ⟨a, same, enabled, compiled⟩] at h
      cases h
  · intro h
    cases failed : f.error? with
    | none => rfl
    | some e =>
      obtain ⟨a, same, enabled, failed⟩ := error?_eq_some_iff.mp failed
      obtain ⟨c, compiled⟩ := h a same enabled
      rw [failed] at compiled
      cases compiled

/-- The error of the first enabled authored filter that has no clause. -/
def firstError? (filters : List Filter) : Option CompileError :=
  filters.findSome? (·.error?)

theorem firstError?_eq_none_iff {filters : List Filter} : firstError? filters = none ↔ ∀ f ∈ filters, f.Compiles := by
  rw [firstError?, List.findSome?_eq_none_iff]
  exact forall₂_congr fun f _ => error?_eq_none_iff

theorem firstError?_eq_some_iff {filters : List Filter} {e : CompileError} : firstError? filters = some e ↔
    ∃ before a after, filters = before ++ authored a :: after ∧ (∀ f ∈ before, f.Compiles) ∧
      a.disabled = false ∧ a.clause = .error e := by
  rw [firstError?, List.findSome?_eq_some_iff]
  constructor
  · rintro ⟨before, f, after, same, failed, earlier⟩
    obtain ⟨a, rfl, enabled, failed⟩ := error?_eq_some_iff.mp failed
    exact ⟨before, a, after, same, fun g hg => error?_eq_none_iff.mp (earlier g hg), enabled, failed⟩
  · rintro ⟨before, a, after, same, earlier, enabled, failed⟩
    exact ⟨before, _, after, same, error?_eq_some_iff.mpr ⟨a, rfl, enabled, failed⟩,
      fun g hg => error?_eq_none_iff.mpr (earlier g hg)⟩

end Filter

/-! ### One filter -/

/-- The body of a query with what a filter adds to it. -/
def BoolClause.plus (policy : MergePolicy) (body : BoolClause) (f : Filter) : BoolClause where
  must := body.must ++ (f.clauseIf? false).toList
  filter := body.filter
  should := body.should ++ f.fragment?.toList.flatMap (·.should)
  mustNot := body.mustNot ++ (f.clauseIf? true).toList
  minimum := f.fragment?.toList.foldl (fun minimum fragment => policy.merge minimum fragment.minimum) body.minimum

namespace Draft
variable {config : Config} {d : Draft} {f : Filter}

theorem add_of_error {e : CompileError} (h : f.error? = some e) : d.add config f = .error e := by
  obtain ⟨a, rfl, enabled, failed⟩ := Filter.error?_eq_some_iff.mp h
  simp [add, Filter.compile, Filter.disabled, enabled, failed, Except.map]

/-- A disabled filter adds nothing. -/
theorem add_of_disabled (h : f.disabled = true) : d.add config f = .ok ⟨d.body.plus config.minimumMerge f, d.notices⟩ := by
  have same : d.body.plus config.minimumMerge f = d.body := by
    cases d.body
    cases f <;> simp_all [BoolClause.plus, Filter.clauseIf?, Filter.fragment?, Filter.disabled]
  rw [same]
  simp [add, Filter.compile, h, Except.map]

/-- A filter that compiles is added to the body. -/
theorem add_of_compiles (h : f.Compiles) :
    ∃ notices, d.add config f = .ok ⟨d.body.plus config.minimumMerge f, notices⟩ := by
  cases disabled : f.disabled with
  | true => exact ⟨d.notices, add_of_disabled disabled⟩
  | false =>
    cases f with
    | authored a =>
      have enabled : a.disabled = false := disabled
      obtain ⟨c, compiled⟩ := h a rfl enabled
      refine ⟨d.notices, ?_⟩
      cases inverted : a.inverted <;>
        simp [add, Filter.compile, disabled, compiled, enabled, inverted, AuthoredFilter.branch, Except.map,
          Except.toOption, BoolClause.plus, BoolClause.addMust, BoolClause.addMustNot, Filter.clauseIf?,
          Filter.fragment?]
    | synthesized s =>
      have enabled : s.disabled = false := disabled
      refine ⟨(d.addFragment config.minimumMerge s.label s.fragment).notices, ?_⟩
      simp [add, Filter.compile, disabled, enabled, addFragment, Except.map, BoolClause.plus, Filter.clauseIf?,
        Filter.fragment?, Filter.label]

end Draft

/-! ### All filters -/

/-- Filters one after another add their clauses list by list, and their minima are merged. -/
theorem BoolClause.foldl_plus (policy : MergePolicy) : ∀ (filters : List Filter) (body : BoolClause),
    filters.foldl (BoolClause.plus policy) body =
      { must := body.must ++ filters.filterMap (·.clauseIf? false)
        filter := body.filter
        should := body.should ++ (filters.filterMap (·.fragment?)).flatMap (·.should)
        mustNot := body.mustNot ++ filters.filterMap (·.clauseIf? true)
        minimum := (filters.filterMap (·.fragment?)).foldl
          (fun minimum fragment => policy.merge minimum fragment.minimum) body.minimum }
  | [], body => by
    cases body
    simp
  | f :: rest, body => by
    rw [List.foldl_cons, foldl_plus policy rest]
    cases must : f.clauseIf? false <;> cases mustNot : f.clauseIf? true <;> cases fragment : f.fragment? <;>
      simp [BoolClause.plus, must, mustNot, fragment]

namespace Draft

/-- The assembly ends with the first error, and otherwise with all filters in the body. -/
theorem addAll_eq (config : Config) : ∀ (filters : List Filter) (d : Draft),
    (d.addAll config filters).2 = Filter.firstError? filters ∧
      ((∀ f ∈ filters, f.Compiles) →
        (d.addAll config filters).1.body = filters.foldl (BoolClause.plus config.minimumMerge) d.body)
  | [], d => ⟨rfl, fun _ => rfl⟩
  | f :: rest, d => by
    rw [addAll, Filter.firstError?, List.findSome?_cons, List.foldl_cons]
    cases failed : f.error? with
    | some e =>
      rw [add_of_error failed]
      refine ⟨rfl, fun compiles => ?_⟩
      rw [Filter.error?_eq_none_iff.mpr (compiles f List.mem_cons_self)] at failed
      cases failed
    | none =>
      obtain ⟨notices, added⟩ := @add_of_compiles config d f (Filter.error?_eq_none_iff.mp failed)
      obtain ⟨error, body⟩ := addAll_eq config rest ⟨d.body.plus config.minimumMerge f, notices⟩
      rw [added]
      exact ⟨error, fun compiles => body fun g hg => compiles g (List.mem_cons_of_mem f hg)⟩

end Draft

/-! ### Clauses of authored filters -/

/-- The operator that a negated one negates, and any other one itself. -/
def Operator.positive : Operator → Operator
  | absent => present
  | notEqual => equal
  | notBetween => between
  | operator => operator

/-- A clause has the form of the positive operator, and holds a value of the kind that the form needs. -/
def AuthoredFilter.Gives (a : AuthoredFilter) (c : Clause) : Prop :=
  match a.operator.positive with
  | .present => c = .present a.field
  | .equal => ∃ v, a.value = some (.scalar v) ∧ c = .term a.field (.plain v)
  | .between => ∃ r, a.value = some (.range r) ∧ c = .range a.field r.bounds
  | _ => False

theorem AuthoredFilter.clause_eq_ok_iff (a : AuthoredFilter) (c : Clause) : a.clause = .ok c ↔ a.Gives c := by
  obtain ⟨field, operator, value, inverted, disabled⟩ := a
  cases operator with
  | present | absent => simp [clause, Gives, Operator.positive, eq_comm]
  | equal | notEqual =>
    match value with
    | some (.scalar v) => simp [clause, Gives, Operator.positive, eq_comm]
    | none | some (.range _) => simp [clause, Gives, Operator.positive]
  | between | notBetween =>
    match value with
    | some (.range r) => simp [clause, Gives, Operator.positive, eq_comm]
    | none | some (.scalar _) => simp [clause, Gives, Operator.positive]
  | unknown name isUnknown => simp [clause, Gives, Operator.positive]

/-! ### The assembled query -/

namespace SearchQuery
variable (config : Config) (filters : List Filter) (text : String) (range : TimeRange)

/-- The body of the query of filters that all compile. -/
def assembledBody : BoolClause where
  must := range.clause config.fields.startTime :: (if text.isEmpty then [] else [.queryString text]) ++
    filters.filterMap (·.clauseIf? false)
  filter := []
  should := (filters.filterMap (·.fragment?)).flatMap (·.should)
  mustNot := filters.filterMap (·.clauseIf? true)
  minimum := (filters.filterMap (·.fragment?)).foldl
    (fun minimum fragment => config.minimumMerge.merge minimum fragment.minimum) none

/-- The first error decides, and without one the filters are all in the body. -/
theorem assemble_eq : (assemble config filters text range).1 =
    match Filter.firstError? filters with
    | some e => .error e
    | none => .ok ⟨.bool (assembledBody config filters text range)⟩ := by
  obtain ⟨error, body⟩ := Draft.addAll_eq config filters (Draft.start config text range)
  rw [assemble]
  split
  · next d added =>
    rw [added] at error body
    have same : d.body = _ := body (Filter.firstError?_eq_none_iff.mp error.symm)
    rw [← error, same, BoolClause.foldl_plus, assembledBody, Draft.start]
    cases text.isEmpty <;> rfl
  · next d e added =>
    rw [added] at error
    rw [← error]

variable {config filters text range} in
theorem assemble_eq_ok_iff {q : SearchQuery} : (assemble config filters text range).1 = .ok q ↔
    (∀ f ∈ filters, f.Compiles) ∧ q = ⟨.bool (assembledBody config filters text range)⟩ := by
  rw [assemble_eq, ← Filter.firstError?_eq_none_iff]
  cases Filter.firstError? filters <;> simp [eq_comm]

/-- The assembly fails with the error of the first enabled authored filter that does not compile. If all of them
compile, it gives the query of the time range, the text and the clauses and fragments of the enabled filters, each
in its list in the order of the filters; the form of a clause depends on the positive operator alone. -/
theorem assemble_closed_form :
    (∀ e, (assemble config filters text range).1 = .error e ↔
      ∃ before a after, filters = before ++ .authored a :: after ∧ (∀ f ∈ before, f.Compiles) ∧
        a.disabled = false ∧ a.clause = .error e) ∧
    (∀ q, (assemble config filters text range).1 = .ok q ↔
      (∀ f ∈ filters, f.Compiles) ∧ q = ⟨.bool (assembledBody config filters text range)⟩) ∧
    ∀ a c, AuthoredFilter.clause a = .ok c ↔ a.Gives c := by
  refine ⟨fun e => ?_, fun q => assemble_eq_ok_iff, AuthoredFilter.clause_eq_ok_iff⟩
  rw [assemble_eq, ← Filter.firstError?_eq_some_iff]
  cases Filter.firstError? filters <;> simp

end SearchQuery
end SpanSearch
