import SpanSearch.Filter.Basic

/-! What a filter contributes to a query: nothing, a clause in one of two lists, or a fragment. -/

namespace SpanSearch

/-- Why a filter has no clause. -/
inductive CompileError where
  | unknownOperator (name : String)
  | expectedScalar (field : String) (operator : Operator)
  | expectedRange (field : String) (operator : Operator)
deriving DecidableEq

namespace CompileError

/-- The error as shown to the user. -/
def message : CompileError → String
  | unknownOperator name => s!"unknown filter operator: '{name}'"
  | expectedScalar field operator =>
    s!"filter on '{field}' with operator '{operator.name}' requires a single value"
  | expectedRange field operator =>
    s!"filter on '{field}' with operator '{operator.name}' requires a from/to range"

end CompileError

/-- The list of a boolean clause that an authored filter goes to. -/
inductive Branch where
  | must
  | mustNot
deriving DecidableEq

/-- What a filter contributes. -/
inductive Contribution where
  | nothing
  | clause (branch : Branch) (clause : Clause)
  | fragment (body : BoolClause)

namespace AuthoredFilter

/-- Only an inverted filter goes to the clauses that may not match. -/
def branch (f : AuthoredFilter) : Branch :=
  if f.inverted then .mustNot else .must

/-- The clause of a filter. A negated operator gives the clause of the operator that it negates. -/
def clause (f : AuthoredFilter) : Except CompileError Clause :=
  match f.operator with
  | .present | .absent => .ok (.present f.field)
  | .equal | .notEqual =>
    match f.value with
    | some (.scalar value) => .ok (.term f.field (.plain value))
    | _ => .error (.expectedScalar f.field f.operator)
  | .between | .notBetween =>
    match f.value with
    | some (.range r) => .ok (.range f.field r.bounds)
    | _ => .error (.expectedRange f.field f.operator)
  | .unknown name _ => .error (.unknownOperator name)

end AuthoredFilter

namespace Filter

/-- What the filter contributes to a query; a disabled one contributes nothing, whatever it holds. -/
def compile (f : Filter) : Except CompileError Contribution :=
  if f.disabled then .ok .nothing
  else match f with
    | authored a => a.clause.map (.clause a.branch)
    | synthesized s => .ok (.fragment s.fragment)

end Filter
end SpanSearch
