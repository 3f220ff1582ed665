import SpanSearch.Clause.Reading
import SpanSearch.Clause.Writing
import SpanSearch.Filter.Basic
import SpanSearch.Json.Printer

/-! The stored form of filters. Both kinds share one record; a synthesized filter is told by its query,
which has to be a boolean clause, and its condition stands where an authored filter has its value. -/

namespace SpanSearch

/-- Why a document is not read as a filter. -/
inductive FilterError where
  | unreadable
  | fragmentNotBool (label : String)
deriving DecidableEq

namespace FilterError

/-- The error as shown to the user. -/
def message : FilterError → String
  | unreadable => "not a stored filter"
  | fragmentNotBool label => s!"filter '{label}': query fragment must be a bool query"

end FilterError

namespace RangeValue

/-- The names of the two ends. -/
def names : List String :=
  ["from", "to"]

/-- The parts of a range that count when it is read from text. -/
def shape : Shape :=
  .ofNames names

/-- A range is a record of two strings. -/
def read? (j : Json) : Option RangeValue := do
  let members ← j.record? names
  some ⟨← Json.required Json.string? "from" members, ← Json.required Json.string? "to" members⟩

/-- A range as a document. -/
def json (r : RangeValue) : Json :=
  .object [("from", .string r.lower), ("to", .string r.upper)]

end RangeValue

namespace FilterValue

/-- What reads as a range is one, and anything else is a single value. -/
def read (j : Json) : FilterValue :=
  match RangeValue.read? j with
  | some r => .range r
  | none => .scalar (.ofJson j)

/-- The value as a document. -/
def json : FilterValue → Json
  | range r => r.json
  | scalar value => value.json

/-- The value as shown to the user: a string without quotes, and any other single value as a document. -/
def text : FilterValue → String
  | range r => s!"{r.lower} to {r.upper}"
  | scalar ⟨.string s, _⟩ => s
  | scalar value => value.json.text

end FilterValue

/-- The record that both kinds of filters are stored as. -/
structure StoredFilter where
  field : String
  operator : String
  value : Option FilterValue
  inverted : Bool
  disabled : Bool
  query : Option SearchQuery

namespace StoredFilter

/-- The names of the members, in their order. -/
def names : List String :=
  ["field", "operator", "value", "inverted", "disabled", "DSL"]

/-- Every member may be absent. -/
def read? (j : Json) : Option StoredFilter := do
  let members ← j.record? names
  some {
    field := ← Json.withDefault "" Json.string? "field" members
    operator := ← Json.withDefault "" Json.string? "operator" members
    value := ← Json.optional (some ∘ FilterValue.read) "value" members
    inverted := ← Json.withDefault false Json.bool? "inverted" members
    disabled := ← Json.withDefault false Json.bool? "disabled" members
    query := ← Json.optional SearchQuery.read? "DSL" members }

/-- The record as a document. -/
def json (s : StoredFilter) : Json :=
  .record [("field", some (.string s.field)), ("operator", some (.string s.operator)),
    ("value", s.value.map (·.json)), ("inverted", some (.bool s.inverted)),
    ("disabled", some (.bool s.disabled)), ("DSL", s.query.map (·.json))]

/-- The filter that a record stands for. -/
def filter (s : StoredFilter) : Except FilterError Filter :=
  match s.query with
  | some ⟨.bool fragment⟩ =>
    .ok (.synthesized ⟨s.field, (s.value.map (·.text)).getD "", fragment, s.disabled⟩)
  | some _ => .error (.fragmentNotBool s.field)
  | none => .ok (.authored ⟨s.field, .ofName s.operator, s.value, s.inverted, s.disabled⟩)

end StoredFilter

namespace Filter

/-- The record that a filter is stored as. -/
def stored : Filter → StoredFilter
  | authored f => ⟨f.field, f.operator.name, f.value, f.inverted, f.disabled, none⟩
  | synthesized f =>
    ⟨f.label, "", some (.scalar (.ofString f.condition)), false, f.disabled, some ⟨.bool f.fragment⟩⟩

/-- The filter that a document stands for. -/
def read (j : Json) : Except FilterError Filter :=
  match StoredFilter.read? j with
  | some s => s.filter
  | none => .error .unreadable

/-- The filter as a document. -/
def json (f : Filter) : Json :=
  f.stored.json

/-- The parts of a stored filter that count when it is read from text. -/
def shape : Shape :=
  .record [("field", .everything), ("operator", .everything), ("value", .everything),
    ("inverted", .everything), ("disabled", .everything), ("DSL", SearchQuery.shape)]

/-- The filter that a text stands for. -/
def ofText (text : String) : Except FilterError Filter :=
  Json.readText .unreadable shape read text

end Filter
end SpanSearch
