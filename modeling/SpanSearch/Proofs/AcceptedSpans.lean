import SpanSearch.Percentile
import SpanSearch.Proofs.AssembledQuery

/-! Which spans a query accepts. A boolean clause is judged by the clauses in its lists and by how many of the
    optional ones are needed; all other clauses may be judged in any way. The assembled query accepts what all of
    its filters mean: the optional clauses of several percentile filters are one choice, of which one has to hold.
    Where ranges are judged by values, every accepted span starts within the time range. -/

namespace SpanSearch

/-- How a search judges a span: whether the span fits a clause that holds no other clauses, and how many of a number
of optional clauses an expression such as `75%` asks for. -/
structure Judgement where
  fits : Clause → Bool
  asked : String → Nat → Int

namespace Judgement

/-- How many of the optional clauses of a body a span needs. Without a minimum it is one if there is no other clause
to be fitted, and none otherwise. -/
def needed (j : Judgement) (body : BoolClause) : Int :=
  match body.minimum with
  | some (.count n) => n.toInt
  | some (.expression text) => j.asked text body.should.length
  | none => if body.must.isEmpty && body.filter.isEmpty && !body.should.isEmpty then 1 else 0

mutual

/-- Whether a span is accepted by a clause. -/
def accepts (j : Judgement) : Clause → Bool
  | .bool body => j.acceptsBody body
  | .term field value => j.fits (.term field value)
  | .range field bounds => j.fits (.range field bounds)
  | .present field => j.fits (.present field)
  | .queryString text => j.fits (.queryString text)
  | .other value => j.fits (.other value)

/-- A body takes all of its clauses that have to match, none of those that may not, and as many of the optional ones
as are needed. -/
def acceptsBody (j : Judgement) : BoolClause → Bool
  | ⟨must, filter, should, mustNot, minimum⟩ =>
    (j.verdicts must).all id && (j.verdicts filter).all id && !(j.verdicts mustNot).any id &&
      j.needed ⟨must, filter, should, mustNot, minimum⟩ ≤ (j.verdicts should).count true

/-- Each clause of a list judged. -/
def verdicts (j : Judgement) : List Clause → List Bool
  | [] => []
  | clause :: rest => j.accepts clause :: j.verdicts rest

end

variable {j : Judgement}

theorem verdicts_eq_map : ∀ clauses : List Clause, j.verdicts clauses = clauses.map j.accepts
  | [] => rfl
  | clause :: rest => by rw [verdicts, verdicts_eq_map rest, List.map_cons]

theorem accepts_bool {body : BoolClause} : j.accepts (.bool body) ↔
    (∀ c ∈ body.must, j.accepts c) ∧ (∀ c ∈ body.filter, j.accepts c) ∧ (∀ c ∈ body.mustNot, j.accepts c = false) ∧
      j.needed body ≤ body.should.countP j.accepts := by
  obtain ⟨must, filter, should, mustNot, minimum⟩ := body
  have count : (should.map j.accepts).count true = should.countP j.accepts := by
    rw [List.count, List.countP_map]
    exact List.countP_congr fun c _ => by simp
  rw [accepts, acceptsBody, verdicts_eq_map, verdicts_eq_map, verdicts_eq_map, verdicts_eq_map, count]
  simp [and_assoc]

theorem accepts_selection {fields : Fields} {input : PercentileInput} : j.accepts (input.clause fields) ↔
    j.accepts (.term fields.traceGroup (.explicit (.ofString input.traceGroup))) ∧
      j.accepts (.range fields.duration input.duration.bounds) := by
  rw [PercentileInput.clause, accepts_bool]
  simp [BoolClause.addMust, needed, EmptyCollection.emptyCollection, BoolClause.empty]

end Judgement

/-! ### What filters bring -/

namespace Filter
variable {filters : List Filter}

theorem mem_clausesIf {inverted : Bool} {c : Clause} : c ∈ filters.filterMap (·.clauseIf? inverted) ↔
    ∃ a, authored a ∈ filters ∧ a.disabled = false ∧ a.inverted = inverted ∧ a.clause = .ok c := by
  rw [List.mem_filterMap]
  constructor
  · rintro ⟨f, hf, brought⟩
    cases f with
    | synthesized s => cases brought
    | authored a =>
      rw [clauseIf?] at brought
      split at brought
      · next on =>
        obtain ⟨enabled, side⟩ : a.disabled = false ∧ a.inverted = inverted := by simpa using on
        cases clause : a.clause with
        | error e => rw [clause] at brought; cases brought
        | ok c' => rw [clause] at brought; cases brought; exact ⟨a, hf, enabled, side, clause⟩
      · cases brought
  · rintro ⟨a, ha, enabled, side, clause⟩
    refine ⟨authored a, ha, ?_⟩
    rw [clauseIf?, enabled, side, clause]
    simp [Except.toOption]

theorem forall_clausesIf {inverted : Bool} {P : Clause → Prop} (compiles : ∀ f ∈ filters, f.Compiles) :
    (∀ c ∈ filters.filterMap (·.clauseIf? inverted), P c) ↔
      ∀ a, authored a ∈ filters → a.disabled = false → a.inverted = inverted → ∃ c, a.clause = .ok c ∧ P c := by
  constructor
  · intro all a ha enabled side
    obtain ⟨c, clause⟩ := compiles _ ha a rfl enabled
    exact ⟨c, clause, all c (mem_clausesIf.mpr ⟨a, ha, enabled, side, clause⟩)⟩
  · intro all c hc
    obtain ⟨a, ha, enabled, side, clause⟩ := mem_clausesIf.mp hc
    obtain ⟨c', clause', holds⟩ := all a ha enabled side
    rw [clause] at clause'
    cases clause'
    exact holds

theorem mem_fragments {body : BoolClause} : body ∈ filters.filterMap (·.fragment?) ↔
    ∃ s, synthesized s ∈ filters ∧ s.disabled = false ∧ s.fragment = body := by
  rw [List.mem_filterMap]
  constructor
  · rintro ⟨f, hf, brought⟩
    cases f with
    | authored a => cases brought
    | synthesized s =>
      rw [fragment?] at brought
      split at brought
      · cases brought
      · next on => exact ⟨s, hf, by simpa using on, Option.some.inj brought⟩
  · rintro ⟨s, hs, enabled, rfl⟩
    refine ⟨synthesized s, hs, ?_⟩
    rw [fragment?, enabled]
    rfl

end Filter

/-- Every policy keeps a minimum of one that all fragments share. -/
theorem MergePolicy.foldl_merge_one (policy : MergePolicy) {minimum : Option MinimumMatch} :
    ∀ {fragments : List BoolClause}, (∀ f ∈ fragments, f.minimum = some (.count 1)) →
      minimum = none ∨ minimum = some (.count 1) →
      fragments.foldl (fun minimum fragment => policy.merge minimum fragment.minimum) minimum =
        if fragments = [] then minimum else some (.count 1)
  | [], _, _ => rfl
  | f :: rest, one, before => by
    have merged : policy.merge minimum f.minimum = some (.count 1) := by
      rw [one f List.mem_cons_self]
      rcases before with rfl | rfl <;> cases policy <;> rfl
    rw [List.foldl_cons, merged, policy.foldl_merge_one (fun g hg => one g (List.mem_cons_of_mem f hg)) (.inr rfl)]
    simp

namespace SearchQuery
variable {config : Config} {filters : List Filter} {text : String} {range : TimeRange}

/-- The assembled query accepts a span that fits the time range, the text, the clauses of the authored filters on
their sides, and as many of the clauses of all fragments as these need together. -/
theorem accepts_assembledBody {j : Judgement} : j.accepts (.bool (assembledBody config filters text range)) ↔
    j.accepts (range.clause config.fields.startTime) ∧
    (text ≠ "" → j.accepts (.queryString text)) ∧
    (∀ c ∈ filters.filterMap (·.clauseIf? false), j.accepts c) ∧
    (∀ c ∈ filters.filterMap (·.clauseIf? true), j.accepts c = false) ∧
    j.needed (assembledBody config filters text range) ≤
      ((filters.filterMap (·.fragment?)).flatMap (·.should)).countP j.accepts := by
  have texts : (∀ c ∈ (if text.isEmpty then [] else [Clause.queryString text]), j.accepts c) ↔
      (text ≠ "" → j.accepts (.queryString text)) := by
    cases empty : text.isEmpty with
    | true => simp [String.isEmpty_iff.mp empty]
    | false =>
      have given : text ≠ "" := fun same => by rw [same] at empty; cases empty
      simp [given]
  rw [Judgement.accepts_bool]
  simp only [assembledBody, List.cons_append, List.forall_mem_cons, List.forall_mem_append, List.not_mem_nil,
    false_implies, implies_true, texts, and_assoc, true_and]

/-- Where every fragment has a minimum of one, one clause of all of them together is needed. -/
theorem needed_assembledBody {j : Judgement}
    (one : ∀ body ∈ filters.filterMap (·.fragment?), body.minimum = some (.count 1)) :
    j.needed (assembledBody config filters text range) ≤
        ((filters.filterMap (·.fragment?)).flatMap (·.should)).countP j.accepts ↔
      (filters.filterMap (·.fragment?) ≠ [] →
        ∃ c ∈ (filters.filterMap (·.fragment?)).flatMap (·.should), j.accepts c) := by
  have minimum : (assembledBody config filters text range).minimum =
      if filters.filterMap (·.fragment?) = [] then none else some (.count 1) :=
    config.minimumMerge.foldl_merge_one one (.inl rfl)
  by_cases without : filters.filterMap (·.fragment?) = []
  · rw [if_pos without] at minimum
    have none : j.needed (assembledBody config filters text range) = 0 := by
      rw [Judgement.needed, minimum]
      rfl
    rw [none, without]
    simp
  · rw [if_neg without] at minimum
    have single : j.needed (assembledBody config filters text range) = 1 := by
      rw [Judgement.needed, minimum]
      rfl
    have positive : ∀ n : Nat, (1 : Int) ≤ n ↔ 0 < n := by omega
    rw [single, positive, List.countP_pos_iff, forall_prop_of_true without]

/-- What is sent as the query of percentile filters and authored ones accepts a span if the span fits the time range,
the text unless it is empty, the clause of every enabled authored filter that is not inverted, the clause of no
enabled one that is, and, unless no percentile filter is enabled, the trace group and the durations of a selection of
one of them. -/
theorem accepts_assemble_percentiles (j : Judgement) {q : SearchQuery}
    (assembled : (assemble config filters text range).1 = .ok q)
    (percentiles : ∀ s, .synthesized s ∈ filters → s.disabled = false →
      ∃ fields inputs condition, s = .ofSelections fields inputs condition) :
    j.accepts q.query ↔
      j.accepts (range.clause config.fields.startTime) ∧
      (text ≠ "" → j.accepts (.queryString text)) ∧
      (∀ a, .authored a ∈ filters → a.disabled = false → a.inverted = false →
        ∃ c, a.clause = .ok c ∧ j.accepts c) ∧
      (∀ a, .authored a ∈ filters → a.disabled = false → a.inverted = true →
        ∃ c, a.clause = .ok c ∧ j.accepts c = false) ∧
      ((∃ s, .synthesized s ∈ filters ∧ s.disabled = false) →
        ∃ fields inputs condition, .synthesized (.ofSelections fields inputs condition) ∈ filters ∧
          ∃ input ∈ inputs, j.accepts (.term fields.traceGroup (.explicit (.ofString input.traceGroup))) ∧
            j.accepts (.range fields.duration input.duration.bounds)) := by
  obtain ⟨compiles, rfl⟩ := assemble_eq_ok_iff.mp assembled
  have selections : ∀ body ∈ filters.filterMap (·.fragment?), ∃ fields inputs condition,
      .synthesized (.ofSelections fields inputs condition) ∈ filters ∧
        body = (SynthesizedFilter.ofSelections fields inputs condition).fragment := by
    intro body hb
    obtain ⟨s, hs, enabled, rfl⟩ := Filter.mem_fragments.mp hb
    obtain ⟨fields, inputs, condition, rfl⟩ := percentiles s hs enabled
    exact ⟨fields, inputs, condition, hs, rfl⟩
  have one : ∀ body ∈ filters.filterMap (·.fragment?), body.minimum = some (.count 1) := by
    intro body hb
    obtain ⟨fields, inputs, condition, -, rfl⟩ := selections body hb
    rfl
  rw [accepts_assembledBody, needed_assembledBody one, Filter.forall_clausesIf compiles,
    Filter.forall_clausesIf compiles]
  have enabled : filters.filterMap (·.fragment?) ≠ [] ↔ ∃ s, .synthesized s ∈ filters ∧ s.disabled = false := by
    constructor
    · intro some
      obtain ⟨body, hb⟩ := List.exists_mem_of_ne_nil _ some
      obtain ⟨s, hs, enabled, -⟩ := Filter.mem_fragments.mp hb
      exact ⟨s, hs, enabled⟩
    · rintro ⟨s, hs, enabled⟩
      exact List.ne_nil_of_mem (Filter.mem_fragments.mpr ⟨s, hs, enabled, rfl⟩)
  have selected : (∃ c ∈ (filters.filterMap (·.fragment?)).flatMap (·.should), j.accepts c) ↔
      ∃ fields inputs condition, .synthesized (.ofSelections fields inputs condition) ∈ filters ∧
        ∃ input ∈ inputs, j.accepts (PercentileInput.clause fields input) := by
    constructor
    · rintro ⟨c, hc, accepted⟩
      obtain ⟨body, hb, hc⟩ := List.mem_flatMap.mp hc
      obtain ⟨fields, inputs, condition, hs, rfl⟩ := selections body hb
      obtain ⟨input, hi, rfl⟩ := List.mem_map.mp hc
      exact ⟨fields, inputs, condition, hs, input, hi, accepted⟩
    · rintro ⟨fields, inputs, condition, hs, input, hi, accepted⟩
      have fragment := Filter.mem_fragments.mpr ⟨_, hs, rfl, rfl⟩
      exact ⟨_, List.mem_flatMap.mpr ⟨_, fragment, List.mem_map_of_mem hi⟩, accepted⟩
  simp only [enabled, selected, Judgement.accepts_selection]

/-- Of two percentile filters, one of them without selections, the other one decides, between authored filters that
are inverted and disabled. -/
theorem accepts_dispatch :
    let j : Judgement := ⟨fun c => match c with | .present _ => false | _ => true, fun _ n => n⟩
    let filters : List Filter := [
      .synthesized (.ofSelections {} [] ">= 95"),
      .authored { field := "status.code", operator := .present, inverted := true },
      .synthesized (.ofSelections {} [⟨"HTTP GET /dispatch", { lte := some (.ofInt 2000000) }⟩] "< 95"),
      .authored { field := "serviceName", operator := .ofName "matches", disabled := true }]
    ∃ q, (assemble { minimumMerge := .max } filters "error" ⟨"now-15m", "now"⟩).1 = .ok q ∧
      (∀ s, .synthesized s ∈ filters → s.disabled = false →
        ∃ fields inputs condition, s = .ofSelections fields inputs condition) ∧
      j.accepts q.query := by
  intro j filters
  have percentiles : ∀ s, .synthesized s ∈ filters → s.disabled = false →
      ∃ fields inputs condition, s = .ofSelections fields inputs condition := by
    intro s hs _
    simp only [filters, List.mem_cons, Filter.synthesized.injEq, reduceCtorEq, List.not_mem_nil, or_false,
      false_or] at hs
    rcases hs with rfl | rfl <;> exact ⟨_, _, _, rfl⟩
  have authored : ∀ a, .authored a ∈ filters → a = { field := "status.code", operator := .present, inverted := true } ∨
      a = { field := "serviceName", operator := .ofName "matches", disabled := true } := by
    intro a ha
    simpa only [filters, List.mem_cons, Filter.authored.injEq, reduceCtorEq, List.not_mem_nil, or_false,
      false_or] using ha
  refine ⟨_, rfl, percentiles, (accepts_assemble_percentiles j rfl percentiles).mpr
    ⟨rfl, fun _ => rfl, fun a ha enabled upright => ?_, fun a ha enabled _ => ?_, fun _ => ?_⟩⟩
  · rcases authored a ha with rfl | rfl
    · cases upright
    · cases enabled
  · rcases authored a ha with rfl | rfl
    · exact ⟨_, rfl, rfl⟩
    · cases enabled
  · exact ⟨{}, _, "< 95", List.mem_cons_of_mem _ (List.mem_cons_of_mem _ List.mem_cons_self), _,
      List.mem_singleton_self _, rfl, rfl⟩

end SearchQuery

/-! ### Values in ranges -/

/-- Ranges are judged by the value that a span has in a field, if it has one. -/
def Judgement.Compares (j : Judgement) (atMost below : Value → Value → Prop) (value : String → Option Value) : Prop :=
  ∀ field b, j.fits (.range field b) ↔ ∃ v ∈ value field, b.Admits atMost below v

/-- A span that an assembled query accepts starts within the time range. It has a value between the ends of a range
that an enabled filter holds just if that filter is not inverted. -/
theorem SearchQuery.within_of_accepts {config : Config} {filters : List Filter} {text : String} {range : TimeRange}
    {q : SearchQuery} {j : Judgement} {atMost below : Value → Value → Prop} {value : String → Option Value}
    (assembled : (assemble config filters text range).1 = .ok q) (compares : j.Compares atMost below value)
    (accepted : j.accepts q.query) :
    (∃ v ∈ value config.fields.startTime, atMost (.ofString range.start) v ∧ atMost v (.ofString range.finish)) ∧
    ∀ a r, .authored a ∈ filters → a.disabled = false → a.operator.positive = .between →
      a.value = some (.range r) → ((∃ v ∈ value a.field, r.Within atMost v) ↔ a.inverted = false) := by
  obtain ⟨compiles, rfl⟩ := assemble_eq_ok_iff.mp assembled
  obtain ⟨time, -, taken, refused, -⟩ := accepts_assembledBody.mp accepted
  rw [Filter.forall_clausesIf compiles] at taken refused
  have judged (field : String) (b : RangeBounds) :
      j.accepts (.range field b) ↔ ∃ v ∈ value field, b.Admits atMost below v := by
    rw [Judgement.accepts]
    exact compares field b
  constructor
  · obtain ⟨b, same, admits⟩ := range.exists_clause_eq config.fields.startTime
    rw [same, judged] at time
    obtain ⟨v, hv, within⟩ := time
    exact ⟨v, hv, (admits atMost below v).mp within⟩
  · intro a r ha enabled between held
    have clause : a.clause = .ok (.range a.field r.bounds) := by
      rw [a.clause_eq_ok_iff, AuthoredFilter.Gives, between]
      exact ⟨r, held, rfl⟩
    have within : j.accepts (.range a.field r.bounds) ↔ ∃ v ∈ value a.field, r.Within atMost v := by
      simp only [judged, RangeValue.admits_bounds_iff]
    rw [← within]
    cases side : a.inverted with
    | false =>
      obtain ⟨c, same, fits⟩ := taken a ha enabled side
      rw [clause] at same
      cases same
      exact iff_of_true fits rfl
    | true =>
      obtain ⟨c, same, misfits⟩ := refused a ha enabled side
      rw [clause] at same
      cases same
      exact iff_of_false (ne_true_of_eq_false misfits) (Ne.symm Bool.false_ne_true)

end SpanSearch
