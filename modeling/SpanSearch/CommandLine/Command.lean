import SpanSearch.CommandLine.Arguments
import SpanSearch.Filter.Operator
import SpanSearch.Percentile
import SpanSearch.Time.Absolute

/-! The commands, and how they are spelled on the command line. -/

namespace SpanSearch

/-- What to do. -/
inductive Command where
  | query
  | interval (now : Option Instant)
  | ticks (least greatest : Binary64) (count : Option Nat)
  | dashboard
  | errorRate (traceGroup : String)
  | services (name : Option String)
  | setQuery (text : String)
  | setTime (start finish : String)
  | addFilter (field : String) (operator : Operator) (value upper : Option String)
      (inverted disabled : Bool)
  | addPercentileFilter (condition : PercentileCondition) (percentiles : List (String × Double))
  | clearFilters

/-- A command, and where and how to carry it out. -/
structure Invocation where
  config : Option String
  state : String
  pretty : Bool
  command : Command

/-- What the arguments ask for. -/
inductive Request where
  | version
  | invocation (i : Invocation)

namespace Command

/-- Whole numbers that are not negative, of 64 bits, perhaps with a plus. -/
def count? (text : String) : Option Nat :=
  let digits := match text.toList with
    | '+' :: rest => rest
    | text => text
  match spanDigits digits with
  | (values@(_ :: _), []) =>
    let n := Decimal.digitsFrom 0 values
    if n < 2 ^ 64 then some n else none
  | _ => none

/-- An offset from UTC in seconds: a letter or `UTC` for none, or a sign, hours and minutes with any
colons and blanks between them. -/
def offset (text : List Char) : Option (Int × List Char) :=
  match text with
  | 'Z' :: rest => some (0, rest)
  | 'z' :: rest => some (0, rest)
  | '+' :: rest => hoursMinutes 1 rest
  | '-' :: rest => hoursMinutes (-1) rest
  | '−' :: rest => hoursMinutes (-1) rest
  | _ => if (text.take 3).map Char.toLower == ['u', 't', 'c'] then some (0, text.drop 3) else none
where
  /-- The hours and minutes after a sign, together less than a day. -/
  hoursMinutes (sign : Int) (text : List Char) : Option (Int × List Char) := do
    let (hours, text) ← Absolute.fixedNumber 2 text
    let (minutes, text) ← Absolute.fixedNumber 2 (text.dropWhile fun c => c == ':' || isBlank c)
    if hours < 24 && minutes < 60 then some (sign * (3600 * hours + 60 * minutes), text) else none

/-- A time with its offset, where blanks may stand between the parts. -/
def instant? (text : String) : Option Instant := do
  let (year, text) ← Absolute.year text.toList
  let text ← Absolute.mark '-' (dropBlanks text)
  let (month, text) ← Absolute.number 2 text
  let text ← Absolute.mark '-' (dropBlanks text)
  let (day, text) ← Absolute.number 2 text
  let text ← (Absolute.mark 'T' text <|> Absolute.mark 't' text <|> Absolute.mark ' ' text)
  let (hour, text) ← Absolute.number 2 text
  let text ← Absolute.mark ':' (dropBlanks text)
  let (minute, text) ← Absolute.number 2 text
  let text ← Absolute.mark ':' (dropBlanks text)
  let (second, text) ← Absolute.number 2 text
  let (nanos, text) ← Absolute.fraction text
  let (ahead, text) ← offset (dropBlanks text)
  if (dropBlanks text).isEmpty then
    ({ year, month, day, hour, minute, second, nanos } : ClockTime).instant? ahead
  else none

/-- A trace group and its percentile in milliseconds, with an equals sign between them. -/
def groupPercentile? (text : String) : Option (String × Double) :=
  let reversed := text.toList.reverse
  match reversed.dropWhile (· != '=') with
  | '=' :: group => do
    let millis ← Binary64.ofText? (trimBlanks (reversed.takeWhile (· != '=')).reverse)
    some (String.ofList group.reverse, ← millis.finite?)
  | _ => none

/-- Reads the value of an option, if the option is given. -/
def optional? {α : Type} (read : String → Option α) (value : Option String) : Option (Option α) :=
  match value with
  | none => some none
  | some text => (read text).map some

/-- The command of a name and the arguments after it. -/
def ofArguments? (name : String) (arguments : List String) : Option Command := do
  let scan (g : ArgumentRules) := Arguments.scan g {} arguments
  match name with
  | "query" => (scan {}).map fun _ => query
  | "interval" =>
    let a ← scan { options := ["now"] }
    some (interval (← optional? instant? (a.option? "now")))
  | "ticks" =>
    let a ← scan { options := ["num-ticks"], most := some 2 }
    match a.positional with
    | [least, greatest] => some (ticks (← Binary64.ofText? least.toList)
        (← Binary64.ofText? greatest.toList) (← optional? count? (a.option? "num-ticks")))
    | _ => none
  | "dashboard" => (scan {}).map fun _ => dashboard
  | "error-rate" =>
    match (← scan { most := some 1 }).positional with
    | [traceGroup] => some (errorRate traceGroup)
    | _ => none
  | "services" => some (services (← scan { most := some 1 }).positional.head?)
  | "set-query" =>
    match (← scan { most := some 1 }).positional with
    | [text] => some (setQuery text)
    | _ => none
  | "set-time" =>
    match (← scan { most := some 2 }).positional with
    | [start, finish] => some (setTime start finish)
    | _ => none
  | "add-filter" =>
    let a ← scan { options := ["to"], flags := ["inverted", "disabled"], most := some 3 }
    match a.positional with
    | field :: operator :: value => some (addFilter field (.ofName operator) value.head? (a.option? "to")
        (a.flag "inverted") (a.flag "disabled"))
    | _ => none
  | "add-percentile-filter" =>
    let a ← scan { options := ["condition"], most := none }
    let condition ← (a.option? "condition").bind PercentileCondition.ofText?
    if a.positional.isEmpty then none
    else some (addPercentileFilter condition (← a.positional.mapM groupPercentile?))
  | "clear-filters" => (scan {}).map fun _ => clearFilters
  | _ => none

end Command

namespace Request

/-- The paths and the flag that come before the name of a command. -/
structure Globals where
  config : Option String := none
  state : Option String := none
  pretty : Bool := false

/-- Takes a path that is not empty, unless there is one already. -/
def takePath (held : Option String) (path : String) : Option (Option String) :=
  if held.isSome || path.isEmpty then none else some (some path)

/-- Whether an argument asks for the version: by its name, or by a letter, after which anything may follow. -/
def asksVersion (argument : String) : Bool :=
  argument == "--version" || ['-', 'V'].isPrefixOf argument.toList

/-- Reads the arguments up to the name of a command, and the command. The paths that are not given are
those of the environment. -/
def scan (configDefault : Option String) (stateDefault : String) (g : Globals) : List String → Option Request
  | [] => none
  | "--pretty" :: rest =>
    if g.pretty then none else scan configDefault stateDefault { g with pretty := true } rest
  | argument :: rest =>
    if asksVersion argument then some .version
    else match Arguments.long? argument with
    | some ("config", some path) => do
      scan configDefault stateDefault { g with config := ← takePath g.config path } rest
    | some ("state", some path) => do
      scan configDefault stateDefault { g with state := ← takePath g.state path } rest
    | some (name, none) =>
      match rest with
      | path :: rest =>
        if Arguments.isDashed path then none
        else if name == "config" then do
          scan configDefault stateDefault { g with config := ← takePath g.config path } rest
        else if name == "state" then do
          scan configDefault stateDefault { g with state := ← takePath g.state path } rest
        else none
      | [] => none
    | some _ => none
    | none => do
      let command ← Command.ofArguments? argument rest
      some (.invocation ⟨g.config <|> configDefault, g.state.getD stateDefault, g.pretty, command⟩)

end Request
end SpanSearch
