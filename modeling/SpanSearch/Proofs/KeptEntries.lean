import SpanSearch.Proofs.CommandSteps

/-! What commands keep. A command that fails or only prints leaves everything as it was. A command that changes the
    session replaces the state file by one in which all entries but its own are as they were, whatever they hold. -/

namespace SpanSearch

/-! ### Keys of commands -/

namespace Command

/-- The keys of the entries that a command sets. -/
def keys : Command → List String
  | query | interval _ | ticks .. | dashboard | errorRate _ | services _ => []
  | setQuery _ => [Session.textKey]
  | setTime .. => [Session.startKey, Session.finishKey]
  | addFilter .. | addPercentileFilter .. | clearFilters => [Session.filtersKey]

variable {command : Command} {config : Config} {session : Session} {time : Instant}

/-- A command that succeeds changes the session just if it sets entries, and saves no others. -/
theorem keys_of_effect {effect : Effect} (h : command.effect config session time = .ok effect) :
    match effect with
    | .change changes => command.keys ≠ [] ∧ changes.map (·.key) = command.keys
    | .print _ | .say _ => command.keys = [] := by
  cases command with
  | query =>
    rw [Command.effect] at h
    cases assembled : (session.query config).1 with
    | error e => rw [assembled] at h; cases h
    | ok q => rw [assembled] at h; cases h; rfl
  | addFilter field operator value upper inverted disabled =>
    rw [Command.effect] at h
    cases built : filterOf field operator value upper inverted disabled with
    | error e => rw [built] at h; cases h
    | ok f => rw [built] at h; cases h; exact ⟨nofun, rfl⟩
  | interval | ticks | dashboard | errorRate | services => cases h; rfl
  | setQuery | setTime | addPercentileFilter | clearFilters => cases h; exact ⟨nofun, rfl⟩

end Command

/-! ### One run -/

namespace World
variable {σ : Type} {world : World σ}

theorem readConfig_run (path : Option String) (w : σ) :
    ∃ result, (Invocation.readConfig world.access path).run.run w = (result, w) := by
  cases path with
  | none => exact ⟨_, rfl⟩
  | some path =>
    rw [Invocation.readConfig, run_lift_bind (world.read path w)]
    cases world.found w path with
    | text content =>
      simp only
      cases Config.ofText? content <;> exact ⟨_, rfl⟩
    | _ => exact ⟨_, rfl⟩

/-- The file can be read in both of two states of a world, and holds the same under all but some keys. -/
def AgreeExcept (world : World σ) (keys : List String) (w w' : σ) : Prop :=
  ∃ before after, (world.found w world.path).store = .ok before ∧ (world.found w' world.path).store = .ok after ∧
    ∀ key ∉ keys, after.get? key = before.get? key

/-- What a run does: it ends in an error or prints and nothing has happened, or it sets the entries of its command. -/
theorem run_cases (whole : world.Whole) (time : Instant) {line : CommandLine} {i : Invocation}
    (request : line.request = some (.invocation i)) (state : i.state = world.path) (w : σ) :
    (∃ e, world.run time line w = ({ exitCode := 1, error := some e }, w)) ∨
    (i.command.keys = [] ∧ ∃ output, world.run time line w = ({ exitCode := 0, output }, w)) ∨
    (i.command.keys ≠ [] ∧ ∃ output w', world.run time line w = ({ exitCode := 0, output }, w') ∧
      world.AgreeExcept i.command.keys w w') := by
  obtain ⟨result, settings⟩ := @readConfig_run _ world i.config w
  have settings' : (Invocation.readConfig (world.accessAt time) i.config).run.run w = (result, w) := settings
  have read : (Invocation.readStore (world.accessAt time) i.state).run.run w =
      ((world.found w world.path).store, w) := by
    rw [state]
    exact readStore_run w
  -- The settings are read first, then the store, and both before anything is written.
  cases result with
  | error e => exact .inl ⟨e, run_of_error request (run_error_bind settings' _)⟩
  | ok config =>
    cases held : (world.found w world.path).store with
    | error e =>
      rw [held] at read
      exact .inl ⟨e, run_of_error request ((run_ok_bind settings' _).trans (run_error_bind read _))⟩
    | ok store =>
      have done := run_effect time state settings held
      cases effect : i.command.effect config (Session.load store).1 time with
      | error e =>
        rw [effect] at done
        exact .inl ⟨_, run_of_error request done⟩
      | ok effect' =>
        rw [effect] at done
        have keys := Command.keys_of_effect effect
        cases effect' with
        | print | say => exact .inr (.inl ⟨keys, _, run_of_ok request done⟩)
        | change changes =>
          obtain ⟨some, keys⟩ := keys
          cases written : (world.access.write world.path
            ((Session.load store).1.changeAll store changes).2.json.prettyText).run w with
          | mk success w' =>
            simp only [written] at done
            cases success with
            | false =>
              rw [whole.refused written] at done
              exact .inl ⟨_, run_of_error request done⟩
            | true =>
              have after : (world.found w' world.path).store = .ok ((Session.load store).1.changeAll store changes).2 := by
                rw [whole.written written, Found.store_prettyText]
              refine .inr (.inr ⟨some, _, w', run_of_ok request done, store, _, held, after, fun key other => ?_⟩)
              refine Session.get?_changeAll_of_ne changes _ store fun c hc same => other ?_
              rw [← keys, same]
              exact List.mem_map_of_mem hc

/-- A program that does not succeed leaves everything as it was, and so does one whose command only prints. A command
that sets entries and succeeds leaves all others as they were, under whichever keys, and whatever they hold. -/
theorem run_keeps_entries (whole : world.Whole) (time : Instant) (line : CommandLine) (w : σ)
    (state : ∀ i, line.request = some (.invocation i) → i.state = world.path) :
    ((world.run time line w).1.exitCode ≠ 0 → (world.run time line w).2 = w) ∧
    ∀ i, line.request = some (.invocation i) →
      (i.command.keys = [] → (world.run time line w).2 = w) ∧
      (i.command.keys ≠ [] → (world.run time line w).1.exitCode = 0 →
        world.AgreeExcept i.command.keys w (world.run time line w).2) := by
  constructor
  · intro failed
    by_cases asked : ∃ i, line.request = some (.invocation i)
    · obtain ⟨i, request⟩ := asked
      rcases run_cases whole time request (state i request) w with ⟨e, ran⟩ | ⟨-, output, ran⟩ | ⟨-, output, w', ran, -⟩
      · rw [ran]
      · rw [ran]
      · rw [ran] at failed
        exact absurd rfl failed
    · exact run_idle time (not_exists.mp asked)
  · intro i request
    rcases run_cases whole time request (state i request) w with
      ⟨e, ran⟩ | ⟨none, output, ran⟩ | ⟨some, output, w', ran, agree⟩
    · rw [ran]
      exact ⟨fun _ => rfl, fun _ success => absurd success (Nat.succ_ne_zero 0)⟩
    · rw [ran]
      exact ⟨fun _ => rfl, fun some => absurd none some⟩
    · rw [ran]
      exact ⟨fun none => absurd none some, fun _ _ => agree⟩

end World

/-! ### Files in memory -/

namespace Files

/-- A text is set beside an entry of another program and a list of filters that cannot be read. -/
theorem run_keeps_entries_unread :
    let store := Store.ofList [("theme", "dark"), (Session.filtersKey, "[oops")]
    let f : Files := ⟨["/"], [("/state.json", store.json.prettyText)]⟩
    let world := world "state.json"
    let line := CommandLine.mk none "state.json" ["set-query", "slow"]
    ∃ after, (world.found (world.run .epoch line f).2 "state.json").store = .ok after ∧
      after.get? "theme" = some "dark" ∧ after.get? Session.filtersKey = some "[oops" := by
  intro store f world line
  let i : Invocation := ⟨none, "state.json", false, .setQuery "slow"⟩
  have asks : world.Asks f line i {} := ⟨rfl, rfl, rfl⟩
  have found : world.found f "state.json" = .text store.json.prettyText := rfl
  have held : (world.found f world.path).store = .ok store :=
    (congrArg Found.store found).trans (Found.store_prettyText store)
  have success : (world.run .epoch line f).1.exitCode = 0 := by
    obtain ⟨w', ran, -⟩ := World.run_asked .epoch asks held ⟨"/state.json", rfl, rfl⟩
    rw [ran]
  have state : ∀ i, line.request = some (.invocation i) → i.state = world.path := by
    intro j request
    obtain rfl : i = j := by simpa [asks.request] using request
    rfl
  obtain ⟨before, after, read, read', kept⟩ :=
    ((World.run_keeps_entries (whole_world "state.json") .epoch line f state).2 i asks.request).2 nofun success
  obtain rfl : store = before := Except.ok.inj (held.symm.trans read)
  refine ⟨after, read', ?_, ?_⟩
  · rw [kept _ (by decide)]
    rfl
  · rw [kept _ (by decide)]
    rfl

end Files
end SpanSearch
