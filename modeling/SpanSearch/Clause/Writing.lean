import SpanSearch.Clause.Basic

/-! Clauses as documents. The four lists of a boolean clause are always written, empty or not, and a
bound or a minimum only if it is there. -/

namespace SpanSearch

/-- A count is written as a number and an expression as a string. -/
def MinimumMatch.json : MinimumMatch → Json
  | count n => .number (.whole (.ofInt64 n))
  | expression text => .string text

/-- An explicit value is an object with the single member `value`. -/
def TermValue.json : TermValue → Json
  | explicit value => .object [("value", value.json)]
  | plain value => value.json

/-- The bounds that are there. -/
def RangeBounds.json (b : RangeBounds) : Json :=
  .record [("gte", b.gte.map (·.json)), ("gt", b.gt.map (·.json)), ("lte", b.lte.map (·.json)),
    ("lt", b.lt.map (·.json))]

mutual

/-- A clause as an object whose only member is named for the form of the clause. -/
def Clause.json : Clause → Json
  | .bool body => .object [("bool", body.json)]
  | .term field value => .object [("term", .object [(field, value.json)])]
  | .range field bounds => .object [("range", .object [(field, bounds.json)])]
  | .present field => .object [("exists", .object [("field", .string field)])]
  | .queryString text => .object [("query_string", .object [("query", .string text)])]
  | .other value => value.json

/-- The body of a boolean clause. -/
def BoolClause.json : BoolClause → Json
  | ⟨must, filter, should, mustNot, minimum⟩ =>
    .record [("must", some (.array (Clause.jsonAll must))), ("filter", some (.array (Clause.jsonAll filter))),
      ("should", some (.array (Clause.jsonAll should))), ("must_not", some (.array (Clause.jsonAll mustNot))),
      ("minimum_should_match", minimum.map (·.json))]

/-- Each clause as a document. -/
def Clause.jsonAll : List Clause → List Json
  | [] => []
  | clause :: rest => clause.json :: Clause.jsonAll rest

end

/-- A query is the only member of an object. -/
def SearchQuery.json (q : SearchQuery) : Json :=
  .object [("query", q.query.json)]

end SpanSearch
