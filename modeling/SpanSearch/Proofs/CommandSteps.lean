import SpanSearch.Proofs.CommandFilters
import SpanSearch.Proofs.FileAccess

/-! What a command leaves behind. The state file is read back as the store that was written to it, so a command
    fails or prints without touching the file, or leaves it with the changed session. -/

namespace SpanSearch

/-! ### The state file -/

theorem Entries.foldl_place {α : Type} : ∀ (rest placed : List (String × α)), Ascending (placed ++ rest) →
    rest.foldl (fun placed e => place e.1 e.2 placed) placed = placed ++ rest
  | [], placed, _ => (List.append_nil placed).symm
  | e :: rest, placed, ascending => by
    have last : ∀ d ∈ placed, d.1 < e.1 := fun d hd =>
      (List.pairwise_append.mp ascending).2.2 d hd e List.mem_cons_self
    rw [List.append_cons] at ascending ⊢
    rw [List.foldl_cons, Json.place_last e.2 last]
    exact foldl_place rest _ ascending

namespace Store

theorem mapM_string? : ∀ entries : List (String × String),
    (entries.map fun e => (e.1, Json.string e.2)).mapM (fun m => m.2.string?.map (m.1, ·)) = some entries
  | [] => rfl
  | e :: rest => by
    rw [List.map_cons, List.mapM_cons, mapM_string? rest]
    rfl

theorem read?_json (s : Store) : read? s.json = some s := by
  have members := mapM_string? s.entries
  have same : ofList s.entries = s := by
    obtain ⟨entries, ascending⟩ := s
    have placed : Entries.ofList entries = entries := Entries.foldl_place entries [] ascending
    simp only [ofList, placed]
  simp only [read?, json, Option.bind_eq_bind]
  exact (congrArg (Option.bind · fun entries => some (ofList entries)) members).trans (congrArg some same)

/-- A store is read back from the text of its file. -/
theorem ofText?_prettyText (s : Store) : (Json.ofText? s.json.prettyText).bind read? = some s := by
  have lossless : s.json.Lossless := by
    rw [json, Json.lossless_object, List.forall_mem_map]
    exact fun e _ => Json.lossless_string e.2
  have nested : s.json.nesting ≤ 127 := by
    rw [json, Json.nesting_object_le, List.forall_mem_map]
    exact fun e _ => Nat.zero_le _
  rw [Json.ofText?_prettyText lossless nested, Option.bind_some, read?_json]

end Store

/-- The store in what is found at a path. -/
def Found.store : Found → Except RunError Store
  | .nothing => .ok default
  | .unreadable => .error .readState
  | .bytes => .error .parseState
  | .text content =>
    match (Json.ofText? content).bind Store.read? with
    | some store => .ok store
    | none => .error .parseState

theorem Found.store_prettyText (s : Store) : (Found.text s.json.prettyText).store = .ok s := by
  simp only [store, s.ofText?_prettyText]

/-! ### One command -/

section Steps
variable {σ ε α β : Type} {w w' : σ} {a : α}

theorem run_lift_bind {x : StateM σ α} (h : x.run w = (a, w')) (f : α → ExceptT ε (StateM σ) β) :
    ((liftM x : ExceptT ε (StateM σ) α) >>= f).run.run w = (f a).run.run w' := by
  have step : ((liftM x : ExceptT ε (StateM σ) α) >>= f).run.run w =
      match x.run w with
      | (a, w') => (f a).run.run w' := rfl
  rw [step, h]

theorem run_ok_bind {x : ExceptT ε (StateM σ) α} (h : x.run.run w = (.ok a, w'))
    (f : α → ExceptT ε (StateM σ) β) : (x >>= f).run.run w = (f a).run.run w' := by
  rw [ExceptT.run_bind, StateT.run_bind, h]
  rfl

theorem run_error_bind {x : ExceptT ε (StateM σ) α} {e : ε} (h : x.run.run w = (.error e, w'))
    (f : α → ExceptT ε (StateM σ) β) : (x >>= f).run.run w = (.error e, w') := by
  rw [ExceptT.run_bind, StateT.run_bind, h]
  rfl

end Steps

/-- What a user enters: the arguments, and the paths that the environment gives. -/
structure CommandLine where
  configDefault : Option String
  stateDefault : String
  arguments : List String

/-- What a command line asks for. -/
def CommandLine.request (line : CommandLine) : Option Request :=
  Request.scan line.configDefault line.stateDefault {} line.arguments

namespace World
variable {σ : Type} (world : World σ)

/-- The access to a world at a time. -/
def accessAt (time : Instant) : Access (StateM σ) :=
  { world.access with now := return time }

/-- What a run of the program on a command line leaves, and the world after it. -/
def run (time : Instant) (line : CommandLine) (w : σ) : Outcome × σ :=
  Id.run ((runArguments (world.accessAt time) line.configDefault line.stateDefault line.arguments).run w)

/-- A command line asks for a command on the file of the world, with settings that can be read. -/
structure Asks (w : σ) (line : CommandLine) (i : Invocation) (config : Config) : Prop where
  request : line.request = some (.invocation i)
  state : i.state = world.path
  settings : (Invocation.readConfig world.access i.config).run.run w = (.ok config, w)

variable {world} {w w' : σ} {time : Instant} {line : CommandLine} {i : Invocation} {config : Config} {store : Store}

theorem readStore_run (w : σ) :
    (Invocation.readStore world.access world.path).run.run w = ((world.found w world.path).store, w) := by
  rw [Invocation.readStore, run_lift_bind (world.read world.path w)]
  cases world.found w world.path with
  | text content =>
    simp only [Found.store]
    cases (Json.ofText? content).bind Store.read? <;> rfl
  | _ => rfl

theorem run_of_ok {output : String} (request : line.request = some (.invocation i))
    (h : (i.run (world.accessAt time)).run.run w = (.ok output, w')) :
    world.run time line w = ({ exitCode := 0, output }, w') := by
  rw [CommandLine.request] at request
  rw [run, runArguments, request]
  simp only [StateT.run_bind, h]
  rfl

theorem run_of_error {e : RunError} (request : line.request = some (.invocation i))
    (h : (i.run (world.accessAt time)).run.run w = (.error e, w')) :
    world.run time line w = ({ exitCode := 1, error := some e }, w') := by
  rw [CommandLine.request] at request
  rw [run, runArguments, request]
  simp only [StateT.run_bind, h]
  rfl

theorem run_idle (time : Instant) (none : ∀ i, line.request ≠ some (.invocation i)) : (world.run time line w).2 = w := by
  simp only [CommandLine.request] at none
  rw [run, runArguments]
  split
  · rfl
  · rfl
  · next i request => exact absurd request (none i)

/-- Where the settings and the store can be read, a run does what the command does with the session. -/
theorem run_effect (time : Instant) (state : i.state = world.path)
    (settings : (Invocation.readConfig world.access i.config).run.run w = (.ok config, w))
    (held : (world.found w world.path).store = .ok store) :
    (i.run (world.accessAt time)).run.run w =
      match i.command.effect config (Session.load store).1 time with
      | .error e => (.error (.compile e), w)
      | .ok (.print document) => (.ok ((if i.pretty then document.prettyText else document.text) ++ "\n"), w)
      | .ok (.say word) => (.ok (word ++ "\n"), w)
      | .ok (.change changes) =>
        let stored := ((Session.load store).1.changeAll store changes).2
        let (written, w') := (world.access.write world.path stored.json.prettyText).run w
        (if written then .ok "" else .error .writeState, w') := by
  have settings : (Invocation.readConfig (world.accessAt time) i.config).run.run w = (.ok config, w) := settings
  have read : (Invocation.readStore (world.accessAt time) i.state).run.run w = (.ok store, w) := by
    rw [state, ← held]
    exact readStore_run w
  have now : (world.accessAt time).now.run w = (time, w) := rfl
  have start : (i.run (world.accessAt time)).run.run w = _ :=
    (run_ok_bind settings _).trans ((run_ok_bind read _).trans (run_lift_bind now _))
  rw [start]
  cases i.command.effect config (Session.load store).1 time with
  | error e => rfl
  | ok effect =>
    cases effect with
    | print | say => rfl
    | change changes =>
      rw [state]
      cases written : (world.access.write world.path
        ((Session.load store).1.changeAll store changes).2.json.prettyText).run w with
      | mk done w' =>
        simp only [written]
        exact (run_lift_bind written _).trans (by cases done <;> rfl)

/-- What a run of a command leaves: an error or an output changes nothing, and a change is stored. -/
theorem run_asked (time : Instant) (asks : world.Asks w line i config) (held : (world.found w world.path).store = .ok store)
    (replaceable : world.replaceable w) :
    match i.command.effect config (Session.load store).1 time with
    | .error e => world.run time line w = ({ exitCode := 1, error := some (.compile e) }, w)
    | .ok (.change changes) => ∃ w', world.run time line w = ({ exitCode := 0 }, w') ∧ world.replaceable w' ∧
        (world.found w' world.path).store = .ok ((Session.load store).1.changeAll store changes).2
    | .ok _ => ∃ output, world.run time line w = ({ exitCode := 0, output }, w) := by
  have start := run_effect time asks.state asks.settings held
  cases effect : i.command.effect config (Session.load store).1 time with
  | error e =>
    rw [effect] at start
    exact run_of_error asks.request start
  | ok effect' =>
    rw [effect] at start
    cases effect' with
    | print | say => exact ⟨_, run_of_ok asks.request start⟩
    | change changes =>
      obtain ⟨w', written, replaceable', found⟩ := world.write
        ((Session.load store).1.changeAll store changes).2.json.prettyText w replaceable
      simp only [written] at start
      refine ⟨w', run_of_ok asks.request start, replaceable', ?_⟩
      rw [found, Found.store_prettyText]

end World
end SpanSearch
