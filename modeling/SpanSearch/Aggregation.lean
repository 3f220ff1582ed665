import SpanSearch.Clause.Writing
import SpanSearch.Entries

/-! Aggregations and the requests that carry them. -/

namespace SpanSearch

/-- The four scripts of a scripted metric. -/
structure ScriptedMetric where
  initScript : String
  mapScript : String
  combineScript : String
  reduceScript : String

/-- What an aggregation computes. -/
inductive AggregationKind where
  | terms (field : String)
  | filter (query : Clause)
  | scriptedMetric (scripts : ScriptedMetric)
  | bucketScript (paths : List (String × String)) (script : String)

/-- An aggregation, with named aggregations of each of its buckets in ascending order of their names. -/
inductive Aggregation where
  | mk (kind : AggregationKind) (subs : List (String × Aggregation))

namespace AggregationKind

/-- A computation from buckets that are named for use in a script. -/
def ofPaths (paths : List (String × String)) (script : String) : AggregationKind :=
  bucketScript (Entries.ofList paths) script

/-- The kind as a member of an object, named for it. -/
def member : AggregationKind → String × Json
  | terms field => ("terms", .object [("field", .string field)])
  | filter query => ("filter", query.json)
  | scriptedMetric s => ("scripted_metric", .object [("init_script", .string s.initScript),
      ("map_script", .string s.mapScript), ("combine_script", .string s.combineScript),
      ("reduce_script", .string s.reduceScript)])
  | bucketScript paths script => ("bucket_script", .object
      [("buckets_path", .object (paths.map fun (name, path) => (name, .string path))),
        ("script", .string script)])

end AggregationKind

namespace Aggregation

/-- An aggregation without others in its buckets. -/
def ofKind (kind : AggregationKind) : Aggregation :=
  ⟨kind, []⟩

/-- Adds an aggregation of each bucket; one of the same name gives way. -/
def sub (a : Aggregation) (name : String) (inner : Aggregation) : Aggregation :=
  match a with
  | ⟨kind, subs⟩ => ⟨kind, Entries.place name inner subs⟩

mutual

/-- An aggregation as a document; the member for its buckets is only there if they have any. -/
def json : Aggregation → Json
  | ⟨kind, []⟩ => .object [kind.member]
  | ⟨kind, first :: rest⟩ => .object [kind.member, ("aggs", .object (jsonAll (first :: rest)))]

/-- Each aggregation as a member. -/
def jsonAll : List (String × Aggregation) → List (String × Json)
  | [] => []
  | (name, a) :: rest => (name, a.json) :: jsonAll rest

end
end Aggregation

/-- A search with aggregations. -/
structure SearchBody where
  size : Option Whole
  query : Clause
  aggregations : List (String × Aggregation)

namespace SearchBody

/-- The search as a document. -/
def json (b : SearchBody) : Json :=
  .record [("size", b.size.map fun n => .number (.whole n)),
    ("query", some b.query.json), ("aggs", some (.object (Aggregation.jsonAll b.aggregations)))]

end SearchBody

/-- A search that is sent to an index. -/
structure IndexedSearch where
  index : String
  size : Whole
  search : SearchBody

namespace IndexedSearch

/-- The request as a document. -/
def json (s : IndexedSearch) : Json :=
  .object [("index", .string s.index), ("size", .number (.whole s.size)),
    ("query", s.search.json)]

end IndexedSearch
end SpanSearch
