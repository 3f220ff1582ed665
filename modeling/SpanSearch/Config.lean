import SpanSearch.Clause.MinimumMerge
import SpanSearch.Json.Record
import SpanSearch.Json.Written

/-! Settings: the index that is searched, the names of the fields of a span, and the merge policy.
Whatever a configuration leaves out has a default. -/

namespace SpanSearch

/-- The names of the fields of a span that queries refer to. -/
structure Fields where
  startTime : String := "startTime"
  endTime : String := "endTime"
  traceGroup : String := "name"
  traceGroupKeyword : String := "name.value.keyword"
  duration : String := "durationInNanos"
  serviceName : String := "resource.attributes.service.name"
  parentSpanId : String := "parentSpanId"
  statusCode : String := "status.code"
deriving DecidableEq, Inhabited

/-- The settings. -/
structure Config where
  index : String := "apm-spans-1"
  fields : Fields := {}
  minimumMerge : MergePolicy := .last
deriving DecidableEq, Inhabited

namespace MergePolicy

/-- The name of a policy. -/
def name : MergePolicy → String
  | last => "last"
  | max => "max"

/-- The policy of a name. -/
def ofName? (name : String) : Option MergePolicy :=
  [last, max].find? (·.name == name)

@[simp] theorem ofName?_name (policy : MergePolicy) : ofName? policy.name = some policy := by
  cases policy <;> rfl

/-- A policy is its name, alone or as the only member of an object with the value `null`. -/
def read? : Json → Option MergePolicy
  | .string name => ofName? name
  | .object [(name, .null)] => ofName? name
  | _ => none

/-- The policy as a document. -/
def json (policy : MergePolicy) : Json :=
  .string policy.name

end MergePolicy

namespace Fields

/-- The names under which the fields are configured, in their order. -/
def names : List String :=
  ["start_time", "end_time", "trace_group", "trace_group_keyword", "duration", "service_name",
    "parent_span_id", "status_code"]

/-- Reads the fields by a way to read a string given its default and the name of its member. -/
def readBy {m : Type → Type} [Monad m] (string : String → String → m String) : m Fields := do
  let default : Fields := {}
  return {
    startTime := ← string default.startTime "start_time"
    endTime := ← string default.endTime "end_time"
    traceGroup := ← string default.traceGroup "trace_group"
    traceGroupKeyword := ← string default.traceGroupKeyword "trace_group_keyword"
    duration := ← string default.duration "duration"
    serviceName := ← string default.serviceName "service_name"
    parentSpanId := ← string default.parentSpanId "parent_span_id"
    statusCode := ← string default.statusCode "status_code" }

/-- Every field may be absent. -/
def read? (j : Json) : Option Fields := do
  let members ← j.record? names
  readBy fun default name => Json.withDefault default Json.string? name members

/-- The fields as a document. -/
def json (f : Fields) : Json :=
  .object (names.zip ([f.startTime, f.endTime, f.traceGroup, f.traceGroupKeyword, f.duration,
    f.serviceName, f.parentSpanId, f.statusCode].map .string))

/-- The parts of the fields that count when they are read from text. -/
def shape : Shape :=
  .ofNames names

end Fields

namespace Config

/-- The names of the members, in their order. -/
def names : List String :=
  ["index", "fields", "minimum_should_match"]

/-- Every member may be absent. -/
def read? (j : Json) : Option Config := do
  let default : Config := {}
  let members ← j.record? names
  some {
    index := ← Json.withDefault default.index Json.string? "index" members
    fields := ← Json.withDefault default.fields Fields.read? "fields" members
    minimumMerge := ← Json.withDefault default.minimumMerge MergePolicy.read? "minimum_should_match" members }

/-- The settings as a document. -/
def json (c : Config) : Json :=
  .object [("index", .string c.index), ("fields", c.fields.json),
    ("minimum_should_match", c.minimumMerge.json)]

/-- The parts of the settings that count when they are read from text. -/
def shape : Shape :=
  .record [("index", .everything), ("fields", Fields.shape), ("minimum_should_match", .everything)]

end Config
end SpanSearch
