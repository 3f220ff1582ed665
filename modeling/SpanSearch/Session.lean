import SpanSearch.Assembly
import SpanSearch.Json.Reader

/-! The search of a user, kept in a store of strings under four keys and read back from there. -/

namespace SpanSearch

/-- Strings by their keys, in ascending order of the keys. -/
structure Store where
  entries : List (String × String) := []
  ascending : Entries.Ascending entries := by decide
deriving DecidableEq

namespace Store

instance : Inhabited Store := ⟨{}⟩

/-- The string of a key. -/
def get? (s : Store) (key : String) : Option String :=
  s.entries.lookup key

/-- The store with a string under a key. -/
def set (s : Store) (key value : String) : Store :=
  ⟨Entries.place key value s.entries, Entries.ascending_place s.ascending⟩

@[simp] theorem get?_set (s : Store) (key other value : String) :
    (s.set key value).get? other = if other = key then some value else s.get? other :=
  Entries.lookup_place key other value s.entries

/-- The store with these entries, the last one of a key kept. -/
def ofList (entries : List (String × String)) : Store :=
  ⟨Entries.ofList entries, Entries.ascending_ofList entries⟩

/-- The store as a document. -/
def json (s : Store) : Json :=
  .object (s.entries.map fun (key, value) => (key, .string value))

/-- The store that an object of strings is, the last string of a key kept. -/
def read? : Json → Option Store
  | .object members => do
    let entries ← members.mapM fun (key, j) => j.string?.map (key, ·)
    some (ofList entries)
  | _ => none

end Store

/-- The search of a user: a text, filters and a time range. -/
structure Session where
  text : String := ""
  filters : List Filter := []
  range : TimeRange := .standard

namespace Session

instance : Inhabited Session := ⟨{}⟩

instance : BEq Session where
  beq a b := a.text == b.text && a.filters == b.filters && a.range == b.range

/-- The key of the text. -/
def textKey : String := "TraceAnalyticsQuery"

/-- The key of the filters. -/
def filtersKey : String := "TraceAnalyticsFilters"

/-- The key of the start of the time range. -/
def startKey : String := "TraceAnalyticsStartTime"

/-- The key of the end of the time range. -/
def finishKey : String := "TraceAnalyticsEndTime"

/-- The filters as the text of a list. -/
def filtersText (filters : List Filter) : String :=
  (Json.array (filters.map (·.json))).text

/-- The filters among the entries of a list from a position on; the other entries are left out and told of. -/
def readEntries (position : Nat) : List Json → List Filter × List Notice
  | [] => ([], [])
  | entry :: rest =>
    let (filters, notices) := readEntries (position + 1) rest
    match Filter.read (Value.ofJson entry).json with
    | .ok f => (f :: filters, notices)
    | .error e => (filters, .filterIgnored position e :: notices)

/-- The filters that a text lists. Each entry is read as a free-form value first. -/
def readFilters (text : String) : List Filter × List Notice :=
  match Json.ofText? text with
  | some (.array entries) => readEntries 0 entries
  | _ => ([], [.filtersIgnored])

/-- The string of a key, unless it is empty. -/
def nonEmpty? (store : Store) (key : String) : Option String :=
  (store.get? key).filter (!·.isEmpty)

/-- The session in a store; what is missing or empty has its default. -/
def load (store : Store) : Session × List Notice :=
  let (filters, notices) := match nonEmpty? store filtersKey with
    | some text => readFilters text
    | none => ([], [])
  ({ text := (nonEmpty? store textKey).getD ""
     filters
     range := ⟨(nonEmpty? store startKey).getD TimeRange.defaultStart,
       (nonEmpty? store finishKey).getD TimeRange.defaultFinish⟩ }, notices)

/-- A change to a session. -/
inductive Change where
  | text (text : String)
  | filters (filters : List Filter)
  | addFilter (filter : Filter)
  | start (expression : String)
  | finish (expression : String)

/-- The session after a change. -/
def apply (s : Session) : Change → Session
  | .text text => { s with text }
  | .filters filters => { s with filters }
  | .addFilter filter => { s with filters := s.filters ++ [filter] }
  | .start expression => { s with range := { s.range with start := expression } }
  | .finish expression => { s with range := { s.range with finish := expression } }

/-- The key that a change is saved under. -/
def Change.key : Change → String
  | .text _ => textKey
  | .filters _ | .addFilter _ => filtersKey
  | .start _ => startKey
  | .finish _ => finishKey

/-- The string of a session that a change has to save. -/
def saved (s : Session) : Change → String
  | .text _ => s.text
  | .filters _ | .addFilter _ => filtersText s.filters
  | .start _ => s.range.start
  | .finish _ => s.range.finish

/-- Changes a session and saves what has changed. -/
def change (s : Session) (store : Store) (c : Change) : Session × Store :=
  let s := s.apply c
  (s, store.set c.key (s.saved c))

/-- The session with one of its filters switched off or on, which is not saved. -/
def setDisabled? (s : Session) (position : Nat) (disabled : Bool) : Option Session := do
  let f ← s.filters[position]?
  some { s with filters := s.filters.set position (f.setDisabled disabled) }

/-- The query of the session, and what is worth telling about it. -/
def query (s : Session) (config : Config) : Except CompileError SearchQuery × List Notice :=
  SearchQuery.assemble config s.filters s.text s.range

end Session
end SpanSearch
