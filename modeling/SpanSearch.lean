import SpanSearch.Main
import SpanSearch.Proofs.Documents
import SpanSearch.Proofs.Literals
import SpanSearch.Proofs.DocumentText
import SpanSearch.Proofs.Records
import SpanSearch.Proofs.ClauseReading
import SpanSearch.Proofs.TextReading
import SpanSearch.Proofs.CanonicalClauses
import SpanSearch.Proofs.ClauseNesting
import SpanSearch.Proofs.CanonicalFilters
import SpanSearch.Proofs.SessionRuns
import SpanSearch.Proofs.AssembledQuery
import SpanSearch.Proofs.AcceptedSpans
import SpanSearch.Proofs.MergedMinima
import SpanSearch.Proofs.ReorderedFilters
import SpanSearch.Proofs.CommandFilters
import SpanSearch.Proofs.FileAccess
import SpanSearch.Proofs.CommandRuns
import SpanSearch.Proofs.DateMath
import SpanSearch.Proofs.RewrittenClauses
import SpanSearch.Proofs.KeptEntries
import SpanSearch.Proofs.SharedStore
import SpanSearch.Proofs.Calendar
import SpanSearch.Proofs.Instants
import SpanSearch.Proofs.RoundingDown
import SpanSearch.Proofs.MonthSteps
import SpanSearch.Proofs.FragmentReading
import SpanSearch.Proofs.FixedSteps
import SpanSearch.Proofs.SpelledTimes
import SpanSearch.Proofs.SuitableIntervals
import SpanSearch.Proofs.AbsoluteForms
import SpanSearch.Proofs.OffsetTimes
import SpanSearch.Proofs.ExactSteps
import SpanSearch.Proofs.ExactTicks
import SpanSearch.Proofs.FiniteProducts
import SpanSearch.Proofs.PercentileReading
