import SpanSearch.Clause.Basic
import SpanSearch.Json.Record
import SpanSearch.Json.Reader

/-! Reading clauses from documents. Every document reads as a clause: an object with a single member
reads as one of the known forms if that member has its name and fits it, and all else is kept. -/

namespace SpanSearch

/-- A count is a signed 64-bit whole number; any string is an expression. -/
def MinimumMatch.read? (j : Json) : Option MinimumMatch :=
  match j.int64? with
  | some n => some (.count n)
  | none => j.string?.map .expression

/-- A record with the single member `value` is explicit, and anything else is the value itself. -/
def TermValue.read (j : Json) : TermValue :=
  match (j.closedRecord? ["value"]).bind (Json.required (some ∘ Value.ofJson) "value") with
  | some value => .explicit value
  | none => .plain (.ofJson j)

namespace RangeBounds

/-- The names of the bounds, in their order. -/
def names : List String :=
  ["gte", "gt", "lte", "lt"]

/-- Bounds are a record without other members. -/
def read? (j : Json) : Option RangeBounds := do
  let members ← j.closedRecord? names
  let bound (name : String) : Option (Option Value) := Json.optional (some ∘ Value.ofJson) name members
  some ⟨← bound "gte", ← bound "gt", ← bound "lte", ← bound "lt"⟩

end RangeBounds

/-- A value given under the name of the only field it applies to. -/
def fieldValue? {α : Type} (read : Json → Option α) (j : Json) : Option (String × α) := do
  let (field, inner) ← j.onlyMember?
  (read inner).map (field, ·)

/-- A string that is the only member of a record. -/
def onlyString? (name : String) (j : Json) : Option String := do
  Json.required Json.string? name (← j.closedRecord? [name])

namespace BoolClause

/-- The names of the members, in their order. -/
def names : List String :=
  ["must", "filter", "should", "must_not", "minimum_should_match"]

/-- The parts of a body that count when it is read from text. -/
def shape : Shape :=
  .ofNames names

/-- The body made of lists that have been read; a list that is absent is empty, and one that could
not be read spoils the body. -/
def ofLists? (lists : List (String × Option (List Clause))) (members : List (String × Json)) :
    Option BoolClause := do
  let clauses (name : String) : Option (List Clause) := (lists.lookup name).getD (some [])
  some ⟨← clauses "must", ← clauses "filter", ← clauses "should", ← clauses "must_not",
    ← Json.optional MinimumMatch.read? "minimum_should_match" members⟩

end BoolClause

namespace Clause

/-- The clause of a known form other than the boolean one, if the content fits it. -/
def leaf? (form : String) (content : Json) : Option Clause :=
  match form with
  | "term" => (fieldValue? (some ∘ TermValue.read) content).map fun (field, value) => .term field value
  | "range" => (fieldValue? RangeBounds.read? content).map fun (field, bounds) => .range field bounds
  | "exists" => (onlyString? "field" content).map .present
  | "query_string" => (onlyString? "query" content).map .queryString
  | _ => none

mutual

/-- The clause that a document is. -/
def read : Json → Clause
  | .object [(form, content)] =>
    let known := if form == "bool" then (readBool? content).map .bool else leaf? form content
    known.getD (.other (.ofJson (.object [(form, content)])))
  | j => .other (.ofJson j)

/-- The body of a boolean clause; members that are not part of it are passed over. -/
def readBool? : Json → Option BoolClause
  | .object members => do
    BoolClause.ofLists? (readMembers members) (← (Json.object members).record? BoolClause.names)
  | .array items => do
    let members ← (Json.array items).record? BoolClause.names
    BoolClause.ofLists? (BoolClause.names.zip (readItems items)) members
  | _ => none

/-- What each member holds as a list of clauses. -/
def readMembers : List (String × Json) → List (String × Option (List Clause))
  | [] => []
  | (name, j) :: rest => (name, readList? j) :: readMembers rest

/-- What each item holds as a list of clauses. -/
def readItems : List Json → List (Option (List Clause))
  | [] => []
  | j :: rest => readList? j :: readItems rest

/-- The clauses of an array. -/
def readList? : Json → Option (List Clause)
  | .array items => some (readAll items)
  | _ => none

/-- The clause that each document is. -/
def readAll : List Json → List Clause
  | [] => []
  | j :: rest => read j :: readAll rest

end

/-- The clause that a text stands for. -/
def ofText? (text : String) : Option Clause :=
  Json.readText? .everything (some ∘ read) text

end Clause

namespace SearchQuery

/-- The names of the members, of which there is one. -/
def names : List String :=
  ["query"]

/-- A record with the member `query`, and perhaps others. -/
def read? (j : Json) : Option SearchQuery := do
  (Json.required (some ∘ Clause.read) "query" (← j.record? names)).map .mk

/-- The parts of a query that count when it is read from text. -/
def shape : Shape :=
  .ofNames names

/-- The query that a text stands for. -/
def ofText? (text : String) : Option SearchQuery :=
  Json.readText? shape read? text

end SearchQuery
end SpanSearch
