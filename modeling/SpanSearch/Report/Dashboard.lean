import SpanSearch.Report.Measures

/-! The reports on trace groups: latencies of all of them, and errors of one. -/

namespace SpanSearch
namespace Report

/-- Buckets by trace group. -/
def traceGroups (fields : Fields) : Aggregation :=
  .ofKind (.terms fields.traceGroupKeyword)

/-- The total and average latency of the spans without a parent, by trace group. -/
def dashboard (config : Config) : IndexedSearch :=
  { index := config.index
    size := .zero
    search :=
      { size := none
        query := .bool ((∅ : BoolClause).addMustNot (.present config.fields.parentSpanId))
        aggregations := [(bucketsName, (traceGroups config.fields)
          |>.sub totalLatencyName (totalLatency config.fields)
          |>.sub averageLatencyName averageLatency)] } }

/-- The number of errors in one trace group, and their rate. -/
def errors (config : Config) (traceGroup : String) : IndexedSearch :=
  { index := config.index
    size := .zero
    search :=
      { size := none
        query := .bool ((∅ : BoolClause).addMust
          (.term config.fields.traceGroupKeyword (.plain (.ofString traceGroup))))
        aggregations := [(bucketsName, (traceGroups config.fields)
          |>.sub errorCountName
            (errorCount (.range config.fields.statusCode { gt := some (.ofString "0") }))
          |>.sub errorRateName errorRate)] } }

end Report
end SpanSearch
