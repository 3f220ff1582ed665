import SpanSearch.CommandLine.Run
import Std.Time.DateTime.Timestamp

/-! The program: commands on the files of the computer. -/

namespace SpanSearch

/-- The current time. -/
def currentTime : IO Instant := do
  let now ← Std.Time.Timestamp.now
  return (Instant.ofSum? 0 0 now.toNanosecondsSinceUnixEpoch.val).getD .epoch

/-- What is found at a path of the computer. -/
def readFound (path : String) : IO Found := do
  try
    match String.fromUTF8? (← IO.FS.readBinFile path) with
    | some text => return .text text
    | none => return .bytes
  catch
    | .noFileOrDirectory .. | .invalidArgument .. => return .nothing
    | .inappropriateType _ 20 _ => return .nothing
    | _ => return .unreadable

/-- Access to the files and the clock of the computer. -/
def computer : Access IO where
  read := readFound
  write path text := do
    try
      IO.FS.writeBinFile path text.toUTF8
      return true
    catch _ => return false
  now := currentTime

end SpanSearch

/-- Runs the program; paths that the arguments do not give are those of the environment. -/
def main (arguments : List String) : IO UInt32 := do
  let configDefault ← IO.getEnv "TRACE_ANALYTICS_CONFIG"
  let stateDefault := (← IO.getEnv "TRACE_ANALYTICS_STATE").getD "state.json"
  let outcome ← SpanSearch.runArguments SpanSearch.computer configDefault stateDefault arguments
  IO.print outcome.output
  if let some e := outcome.error then IO.eprintln e.message
  return outcome.exitCode.toUInt32
