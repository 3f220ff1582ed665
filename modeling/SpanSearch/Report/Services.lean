import SpanSearch.Report.Measures

/-! The report on services: latencies and errors, of all of them or of one. -/

namespace SpanSearch
namespace Report

/-- The latencies and errors by service, of one service if it has a name. -/
def services (config : Config) (service : Option String) : SearchBody :=
  { size := some .zero
    query := .bool <| match service.filter (!·.isEmpty) with
      | some name => (∅ : BoolClause).addMust (.term config.fields.serviceName (.plain (.ofString name)))
      | none => ∅
    aggregations := [(bucketsName, Aggregation.ofKind (.terms config.fields.serviceName)
      |>.sub errorCountName (errorCount (.present config.fields.statusCode))
      |>.sub totalLatencyName (totalLatency config.fields)
      |>.sub errorRateName errorRate
      |>.sub averageLatencyName averageLatency)] }

end Report
end SpanSearch
