import SpanSearch.Binary64.Layout

/-! Units of duration, and a change shown against a benchmark. -/

namespace SpanSearch
namespace Units

/-- The nanoseconds of a millisecond. -/
def nanosPerMilli : Double :=
  ⟨false, 0x412E848000000000, by decide⟩

/-- Nanoseconds in milliseconds; what is not finite counts as zero. -/
def nanosToMillis : Binary64 → Binary64
  | .finite x => .ofDivision x nanosPerMilli
  | _ => .finite (.zero false)

/-- Milliseconds in nanoseconds; what is not finite counts as zero. -/
def millisToNanos : Binary64 → Binary64
  | .finite x => .ofProduct x nanosPerMilli
  | _ => .finite (.zero false)

end Units

/-- The direction of a change. -/
inductive Trend where
  | flat
  | up
  | down
deriving DecidableEq

namespace Trend

/-- The sign that stands for a direction. -/
def arrow : Trend → Char
  | flat => '-'
  | up => '▴'
  | down => '▾'

/-- The color of a direction. An increase, of latency or of errors, is bad. -/
def color : Trend → String
  | flat => "#9ea8a9"
  | up => "#c23f25"
  | down => "#3f7e23"

end Trend

/-- A change against a benchmark, in percent. -/
structure Benchmark where
  percent : Double
deriving DecidableEq

namespace Benchmark

/-- The change of a number of percent, if that is finite. -/
def ofPercent? (percent : Binary64) : Option Benchmark :=
  percent.finite?.map .mk

/-- Only zero is flat. -/
def trend (b : Benchmark) : Trend :=
  if b.percent.isZero then .flat
  else if b.percent.negative then .down
  else .up

/-- Numbers are shown without an exponent, and whole ones without a fraction. -/
def layout : Layout where
  positional := none
  wholeFraction := false
  tie := .up

/-- The change as shown: its size, and its direction as an arrow. -/
def text (b : Benchmark) : String :=
  String.ofList (layout.text b.percent.abs ++ ['%', ' ', b.trend.arrow])

end Benchmark
end SpanSearch
