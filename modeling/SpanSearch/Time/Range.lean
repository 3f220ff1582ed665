import SpanSearch.Clause.Basic
import SpanSearch.Json.Reader
import SpanSearch.Json.Record
import SpanSearch.Notice
import SpanSearch.Time.Expression
import SpanSearch.Time.Interval

/-! The time range of a search: two time expressions as entered, the clause they give, and the interval
that suits the span between them. -/

namespace SpanSearch

/-- The start and the end of a time range, as entered. -/
structure TimeRange where
  start : String
  finish : String
deriving DecidableEq, Inhabited

namespace TimeRange

/-- Where the range starts unless something else is said. -/
def defaultStart : String := "now-1y"

/-- Where the range ends unless something else is said. -/
def defaultFinish : String := "now"

/-- The last year. -/
def standard : TimeRange :=
  ⟨defaultStart, defaultFinish⟩

/-- The clause that a field lies in the range. The expressions are passed on as they are. -/
def clause (r : TimeRange) (field : String) : Clause :=
  .range field { gte := some (.ofString r.start), lte := some (.ofString r.finish) }

/-- The clause is on the field alone, and admits what lies between both ends; no end of a time range is open. -/
theorem exists_clause_eq (r : TimeRange) (field : String) : ∃ b, r.clause field = .range field b ∧
    ∀ (atMost below : Value → Value → Prop) (v : Value),
      b.Admits atMost below v ↔ atMost (.ofString r.start) v ∧ atMost v (.ofString r.finish) := by
  refine ⟨_, rfl, fun atMost below v => ⟨fun admits => ⟨admits.gte _ rfl, admits.lte _ rfl⟩, ?_⟩⟩
  rintro ⟨start, finish⟩
  exact ⟨fun w hw => Option.some.inj hw ▸ start, nofun, fun w hw => Option.some.inj hw ▸ finish, nofun⟩

/-- The instants of both ends; the start is looked at first. -/
def resolve (r : TimeRange) (now : Instant) : Except TimeError (Instant × Instant) := do
  let start ← Instant.resolve r.start now
  let finish ← Instant.resolve r.finish now
  .ok (start, finish)

/-- The smallest interval that suits the range, and what is worth telling about it. An end that is empty or does
not resolve leaves the span unknown, and the latter is told. -/
def interval (r : TimeRange) (now : Instant) : Interval × List Notice :=
  if r.start.isEmpty || r.finish.isEmpty then (.calendarMinute, [])
  else
    match r.resolve now with
    | .ok (start, finish) => (.forSeconds (finish.seconds - start.seconds), [])
    | .error e => (.calendarMinute, [.unresolved r.start r.finish e])

/-- The names of the members, in their order. -/
def names : List String :=
  ["startTime", "endTime"]

/-- The parts of a range that count when it is read from text. -/
def shape : Shape :=
  .ofNames names

/-- A record of two strings. -/
def read? (j : Json) : Option TimeRange := do
  let members ← j.record? names
  some ⟨← Json.required Json.string? "startTime" members, ← Json.required Json.string? "endTime" members⟩

/-- The range as a document. -/
def json (r : TimeRange) : Json :=
  .object [("startTime", .string r.start), ("endTime", .string r.finish)]

end TimeRange
end SpanSearch
