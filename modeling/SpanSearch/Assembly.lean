import SpanSearch.Config
import SpanSearch.Filter.Compiling
import SpanSearch.Notice
import SpanSearch.Time.Range

/-! The query of a search: one boolean clause made of the time range, the text and the filters. -/

namespace SpanSearch

/-- A query in the making, and what was worth telling about it. -/
structure Draft where
  body : BoolClause
  notices : List Notice := []

namespace Draft

/-- The clauses that come first: the time range, then the text unless it is empty. -/
def start (config : Config) (text : String) (range : TimeRange) : Draft :=
  let body := (∅ : BoolClause).addMust (range.clause config.fields.startTime)
  ⟨if text.isEmpty then body else body.addMust (.queryString text), []⟩

/-- Adds a fragment: its optional clauses, and its minimum as the policy says. Nothing else of a
fragment counts. -/
def addFragment (policy : MergePolicy) (label : String) (fragment : BoolClause) (d : Draft) : Draft :=
  let minimum := policy.merge d.body.minimum fragment.minimum
  { body := { d.body with should := d.body.should ++ fragment.should, minimum }
    notices :=
      if d.body.minimum.isSome && d.body.minimum != minimum then
        d.notices ++ [.minimumReplaced label d.body.minimum minimum]
      else d.notices }

/-- Adds what a filter contributes. -/
def add (config : Config) (d : Draft) (f : Filter) : Except CompileError Draft :=
  f.compile.map fun
    | .nothing => d
    | .fragment body => d.addFragment config.minimumMerge f.label body
    | .clause .must clause => { d with body := d.body.addMust clause }
    | .clause .mustNot clause => { d with body := d.body.addMustNot clause }

/-- Adds the filters one after another, up to the first one that does not compile. -/
def addAll (config : Config) (d : Draft) : List Filter → Draft × Option CompileError
  | [] => (d, none)
  | f :: rest =>
    match d.add config f with
    | .ok d => addAll config d rest
    | .error e => (d, some e)

end Draft

namespace SearchQuery

/-- The query of a time range, a text and filters, or the error of the first filter that does not
compile; and what was worth telling up to there. -/
def assemble (config : Config) (filters : List Filter) (text : String) (range : TimeRange) :
    Except CompileError SearchQuery × List Notice :=
  match (Draft.start config text range).addAll config filters with
  | (d, none) => (.ok ⟨.bool d.body⟩, d.notices)
  | (d, some e) => (.error e, d.notices)

end SearchQuery
end SpanSearch
