import SpanSearch.Aggregation
import SpanSearch.Config

/-! The measures that reports take of each bucket of spans. -/

namespace SpanSearch
namespace Report

/-- The name of the buckets. -/
def bucketsName : String := "trace_group"

/-- The name of the total latency. -/
def totalLatencyName : String := "total_latency"

/-- The name of the average latency. -/
def averageLatencyName : String := "average_latency"

/-- The name of the number of errors. -/
def errorCountName : String := "error_count"

/-- The name of the error rate. -/
def errorRateName : String := "error_rate"

/-- The path to the number of spans in a bucket. -/
def countPath : String := "_count"

/-- The time of a field in milliseconds, in a script. -/
def scriptMillis (field : String) : String :=
  s!"doc['{field}'].value.toInstant().toEpochMilli()"

/-- The sum of the latencies, from the start to the end of each span, in milliseconds. -/
def totalLatency (fields : Fields) : Aggregation :=
  .ofKind (.scriptedMetric
    { initScript := "state.latencies = [];"
      mapScript :=
        s!"state.latencies.add({scriptMillis fields.endTime} - {scriptMillis fields.startTime});"
      combineScript := "double sumLatency = 0; " ++
        "for (t in state.latencies) \x7b sumLatency += t; \x7d return sumLatency;"
      reduceScript := "double sumLatency = 0; " ++
        "for (a in states) \x7b if (a != null) \x7b sumLatency += a; \x7d \x7d return sumLatency;" })

/-- The total latency divided by the number of spans. -/
def averageLatency : Aggregation :=
  .ofKind (.ofPaths [("count", countPath), ("latency", totalLatencyName ++ ".value")]
    "params.latency / params.count")

/-- The percentage of spans that count as errors. -/
def errorRate : Aggregation :=
  .ofKind (.ofPaths [("total", countPath), ("errors", errorCountName ++ "." ++ countPath)]
    "params.errors / params.total * 100")

/-- The spans that fit a clause, counted. -/
def errorCount (clause : Clause) : Aggregation :=
  .ofKind (.filter clause)

end Report
end SpanSearch
