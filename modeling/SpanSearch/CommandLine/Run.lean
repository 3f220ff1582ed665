import SpanSearch.Axis
import SpanSearch.CommandLine.Access
import SpanSearch.CommandLine.Command
import SpanSearch.CommandLine.Settings
import SpanSearch.Report.Dashboard
import SpanSearch.Report.Services
import SpanSearch.Session

/-! Carrying out commands: the settings are read first, then the stored session, and a session that has
changed is stored again. -/

namespace SpanSearch

/-- Why a command failed. -/
inductive RunError where
  | readConfig (path : String)
  | parseConfig (path : String)
  | readState
  | parseState
  | writeState
  | compile (error : CompileError)
deriving DecidableEq

namespace RunError

/-- The error as shown to the user. -/
def message : RunError → String
  | readConfig path => s!"failed to read file: {path}"
  | parseConfig path => s!"failed to deserialize config: {path}"
  | readState => "failed to read state"
  | parseState => "failed to deserialize state"
  | writeState => "failed to write state"
  | compile error => s!"invalid filter: {error.message}"

end RunError

namespace Command

/-- The greatest number of ticks that are printed. The limit is the program's own: an axis has none, and its ticks go on
without end if the step is lost in rounding. -/
def mostTicks : Nat := 2 ^ 22

/-- The ticks as a document. -/
def ticksJson (least greatest : Binary64) (count : Option Nat) : Json :=
  .array (((Ticks.ofBinary64 least greatest count).values mostTicks).map fun tick =>
    DurationFilter.numberJson (.ofFloat tick))

/-- The filter of a command, if it compiles. With an upper bound it is a range, whose lower bound may be left out. -/
def filterOf (field : String) (operator : Operator) (value upper : Option String)
    (inverted disabled : Bool) : Except CompileError AuthoredFilter :=
  let entered := match value, upper with
    | lower, some upper => some (.range ⟨lower.getD unboundedMark.toString, upper⟩)
    | some value, none => some (.scalar (.ofString value))
    | none, none => none
  let filter : AuthoredFilter := { field, operator, value := entered, inverted, disabled }
  filter.clause.map fun _ => filter

/-- What a command does with the session. -/
inductive Effect where
  /-- Prints a document. -/
  | print (document : Json)
  /-- Prints a word as it is. -/
  | say (word : String)
  /-- Changes the session and stores it. -/
  | change (changes : List Session.Change)

/-- What a command does, given the time and the settings and the session. -/
def effect (config : Config) (session : Session) (now : Instant) : Command → Except CompileError Effect
  | query => (session.query config).1.map fun q => .print q.json
  | interval given => .ok (.say (session.range.interval (given.getD now)).1.token)
  | ticks least greatest count => .ok (.print (ticksJson least greatest count))
  | dashboard => .ok (.print (Report.dashboard config).json)
  | errorRate traceGroup => .ok (.print (Report.errors config traceGroup).json)
  | services name => .ok (.print (Report.services config name).json)
  | setQuery text => .ok (.change [.text text])
  | setTime start finish => .ok (.change [.start start, .finish finish])
  | addFilter field operator value upper inverted disabled =>
    (filterOf field operator value upper inverted disabled).map fun f => .change [.addFilter (.authored f)]
  | addPercentileFilter condition percentiles =>
    .ok (.change [.addFilter (.synthesized (.ofPercentiles config.fields condition
      (percentiles.map fun (group, millis) => (group, .finite millis))))])
  | clearFilters => .ok (.change [.filters []])

end Command

/-- Changes a session one change after another, and saves each. -/
def Session.changeAll (session : Session) (store : Store) (changes : List Session.Change) :
    Session × Store :=
  changes.foldl (fun (session, store) c => session.change store c) (session, store)

namespace Invocation

variable {m : Type → Type} [Monad m]

/-- The settings in a file, or the standard ones. -/
def readConfig (access : Access m) : Option String → ExceptT RunError m Config
  | none => return {}
  | some path => do
    match ← access.read path with
    | .text text =>
      match Config.ofText? text with
      | some config => return config
      | none => throw (.parseConfig path)
    | .bytes => throw (.parseConfig path)
    | .nothing | .unreadable => throw (.readConfig path)

/-- The store in a file; without a file it is empty. -/
def readStore (access : Access m) (path : String) : ExceptT RunError m Store := do
  match ← access.read path with
  | .nothing => return default
  | .unreadable => throw .readState
  | .bytes => throw .parseState
  | .text text =>
    match (Json.ofText? text).bind Store.read? with
    | some store => return store
    | none => throw .parseState

/-- Carries out a command and returns what it prints. -/
def run (access : Access m) (i : Invocation) : ExceptT RunError m String := do
  let config ← readConfig access i.config
  let store ← readStore access i.state
  let session := (Session.load store).1
  match i.command.effect config session (← access.now) with
  | .error e => throw (.compile e)
  | .ok (.print document) => return (if i.pretty then document.prettyText else document.text) ++ "\n"
  | .ok (.say word) => return word ++ "\n"
  | .ok (.change changes) =>
    let (_, store) := session.changeAll store changes
    if ← access.write i.state store.json.prettyText then return ""
    else throw .writeState

end Invocation

/-- What a run of the program leaves: its exit code, what it printed, and its error. -/
structure Outcome where
  exitCode : Nat
  output : String := ""
  error : Option RunError := none

/-- The version as printed. -/
def versionText : String := "trace-analytics-cli 0.1.0\n"

/-- Runs the program on arguments; the paths that they do not give are those of the environment. -/
def runArguments {m : Type → Type} [Monad m] (access : Access m) (configDefault : Option String)
    (stateDefault : String) (arguments : List String) : m Outcome := do
  match Request.scan configDefault stateDefault {} arguments with
  | none => return { exitCode := 2 }
  | some .version => return { exitCode := 0, output := versionText }
  | some (.invocation i) =>
    match ← (i.run access).run with
    | .ok output => return { exitCode := 0, output }
    | .error e => return { exitCode := 1, error := some e }

end SpanSearch
