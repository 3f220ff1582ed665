import SpanSearch.Proofs.CommandSteps

/-! Commands that are run one after another on one state file. The file always loads, and holds what the commands
    have asked for: the filters since they were last cleared, the last text, and the last times. -/

namespace SpanSearch

/-! ### What is remembered of past commands -/

/-- A command that has been run, and the settings that it was run with. -/
structure PastCommand where
  config : Config
  command : Command

namespace PastCommand

/-- The filter that a command builds, if it succeeds in building one. -/
def built? (p : PastCommand) : Option Filter :=
  match p.command with
  | .addFilter field operator value upper inverted disabled =>
    match Command.filterOf field operator value upper inverted disabled with
    | .ok f => some (.authored f)
    | .error _ => none
  | .addPercentileFilter condition percentiles => some (.synthesized (.ofPercentiles p.config.fields condition
      (percentiles.map fun (group, millis) => (group, .finite millis))))
  | _ => none

/-- The filter that stays of a command: the one that it builds, without bounds that are not finite. -/
def kept? (p : PastCommand) : Option Filter :=
  match p.command with
  | .addPercentileFilter condition percentiles => some (.synthesized (.ofFinitePercentiles p.config.fields condition
      (percentiles.map fun (group, millis) => (group, .finite millis))))
  | _ => p.built?

/-- Whether a command clears the filters. -/
def clears (p : PastCommand) : Bool :=
  match p.command with
  | .clearFilters => true
  | _ => false

/-- The text that a command sets. -/
def text? (p : PastCommand) : Option String :=
  match p.command with
  | .setQuery text => some text
  | _ => none

/-- The times that a command sets. -/
def times? (p : PastCommand) : Option TimeRange :=
  match p.command with
  | .setTime start finish => some ⟨start, finish⟩
  | _ => none

/-- A command succeeds unless it enters a filter that does not compile. -/
def Succeeds (p : PastCommand) : Prop :=
  match p.command with
  | .addFilter field operator value upper inverted disabled =>
    ∃ f, Command.filterOf field operator value upper inverted disabled = .ok f
  | _ => True

end PastCommand

namespace Session

/-- The session that past commands, oldest first, have asked for: the last text, the filters since the last time
they were cleared, and the last times with the default in place of an empty one. -/
def recalled (history : List PastCommand) : Session :=
  asLoaded
    { text := (history.reverse.findSome? (·.text?)).getD ""
      filters := (history.reverse.takeWhile (!·.clears)).reverse.filterMap (·.kept?)
      range := (history.reverse.findSome? (·.times?)).getD ⟨"", ""⟩ }

/-- The session after one more command. -/
def after (s : Session) (p : PastCommand) : Session :=
  asLoaded
    { text := p.text?.getD s.text
      filters := if p.clears then [] else p.kept?.elim s.filters (s.filters ++ [·])
      range := p.times?.getD s.range }

theorem recalled_append (history : List PastCommand) (p : PastCommand) :
    recalled (history ++ [p]) = (recalled history).after p := by
  have filters : ((history ++ [p]).reverse.takeWhile (!·.clears)).reverse.filterMap (·.kept?) =
      if p.clears then [] else p.kept?.elim (recalled history).filters ((recalled history).filters ++ [·]) := by
    rw [List.reverse_append, List.reverse_singleton, List.singleton_append, List.takeWhile_cons]
    cases p.clears with
    | true => rfl
    | false =>
      rw [Bool.not_false, if_pos rfl, List.reverse_cons, List.filterMap_append]
      cases kept : p.kept? <;> simp [recalled, asLoaded, kept]
  rw [recalled, after, filters, asLoaded, asLoaded]
  simp only [List.reverse_append, List.reverse_singleton, List.singleton_append, List.findSome?_cons]
  cases p.times? <;> cases p.text? <;> simp [recalled, asLoaded]

theorem after_eq_self {s : Session} {p : PastCommand} (same : s.asLoaded = s) (text : p.text? = none)
    (clears : p.clears = false) (kept : p.kept? = none) (times : p.times? = none) : s.after p = s := by
  rw [after, text, clears, kept, times]
  exact same

/-! ### One command -/

section Effect
variable {s : Session} {store : Store} {p : PastCommand}

theorem compiles_of_filterOf {field : String} {operator : Operator} {value upper : Option String}
    {inverted disabled : Bool} {f : AuthoredFilter}
    (h : Command.filterOf field operator value upper inverted disabled = .ok f) : (Filter.authored f).Compiles := by
  intro a same _
  cases same
  exact (Command.filterOf_cases h).1

theorem query_ok (config : Config) (compiles : ∀ f ∈ s.filters, f.Compiles) : ∃ q, (s.query config).1 = .ok q := by
  rw [Session.query, SearchQuery.assemble_eq, Filter.firstError?_eq_none_iff.mpr compiles]
  exact ⟨_, rfl⟩

/-- On filters that compile, only a filter that is entered can make a command fail. -/
theorem effect_ok_iff (time : Instant) (compiles : ∀ f ∈ s.filters, f.Compiles) :
    (∃ effect, p.command.effect p.config s time = .ok effect) ↔ p.Succeeds := by
  obtain ⟨config, command⟩ := p
  cases command with
  | query =>
    obtain ⟨q, assembled⟩ := query_ok config compiles
    exact iff_of_true ⟨.print q.json, by rw [Command.effect, assembled, Except.map]⟩ trivial
  | addFilter field operator value upper inverted disabled =>
    simp only [Command.effect, PastCommand.Succeeds]
    cases Command.filterOf field operator value upper inverted disabled with
    | error e => exact iff_of_false (by simp [Except.map]) (by simp)
    | ok f => exact iff_of_true ⟨_, rfl⟩ ⟨f, rfl⟩
  | _ => exact iff_of_true ⟨_, rfl⟩ trivial

/-- A command leaves the session as it is, or changes it so that the store holds what it asked for. -/
theorem effect_spec (time : Instant) (saved : Saved s store) (same : s.asLoaded = s)
    (compiles : ∀ f ∈ s.filters, f.Compiles) (lossless : ∀ f, p.built? = some f → f.json.Lossless) :
    match p.command.effect p.config s time with
    | .ok (.change changes) => (load (s.changeAll store changes).2).1 = s.after p ∧
        ∀ f ∈ (s.after p).filters, f.Storable ∧ f.Compiles
    | _ => s.after p = s := by
  have kept : ∀ f ∈ s.filters, f.Storable ∧ f.Compiles := fun f hf => ⟨saved.storable f hf, compiles f hf⟩
  obtain ⟨config, command⟩ := p
  cases command with
  | query =>
    obtain ⟨q, assembled⟩ := query_ok config compiles
    simp only [Command.effect, assembled, Except.map]
    exact after_eq_self same rfl rfl rfl rfl
  | interval | ticks | dashboard | errorRate | services => exact after_eq_self same rfl rfl rfl rfl
  | setQuery text => exact ⟨(@Saved.change s store (.text text) saved (List.forall_mem_nil _)).loaded, kept⟩
  | setTime start finish =>
    exact ⟨(@Saved.changeAll [.start start, .finish finish] s store saved (List.forall_mem_nil _)).loaded, kept⟩
  | addFilter field operator value upper inverted disabled =>
    cases built : Command.filterOf field operator value upper inverted disabled with
    | error e =>
      have none : PastCommand.kept? ⟨config, .addFilter field operator value upper inverted disabled⟩ = none := by
        simp only [PastCommand.kept?, PastCommand.built?, built]
      simp only [Command.effect, built, Except.map]
      exact after_eq_self same rfl rfl none rfl
    | ok f =>
      have storable := Command.storable_of_filterOf built
      have change := @Saved.change s store (.addFilter (.authored f)) saved (List.forall_mem_singleton.mpr storable)
      have after : s.after ⟨config, .addFilter field operator value upper inverted disabled⟩ =
          (s.apply (.addFilter (.authored f))).asLoaded := by
        simp only [Session.after, PastCommand.kept?, PastCommand.built?, built]
        rfl
      simp only [Command.effect, built, Except.map]
      rw [after]
      refine ⟨change.loaded, List.forall_mem_append.mpr ⟨kept, List.forall_mem_singleton.mpr ⟨storable, ?_⟩⟩⟩
      exact compiles_of_filterOf built
  | addPercentileFilter condition percentiles =>
    -- The filter that is built need not be storable: what is kept of it is what is read back.
    obtain ⟨listable, reread, storable⟩ := Filter.listable_ofPercentiles (lossless _ rfl)
    have rereadAll : s.filters.map (·.reread) = s.filters := congrArg filters (reread_of_storable saved.storable)
    have change := @Saved.load_change s store (.addFilter _) saved (List.forall_mem_singleton.mpr listable)
    refine ⟨change.trans ?_, ?_⟩
    · simp only [Session.reread, apply, List.map_append, List.map_singleton, rereadAll, reread]
      rfl
    · exact List.forall_mem_append.mpr ⟨kept, List.forall_mem_singleton.mpr ⟨storable, fun a h => by cases h⟩⟩
  | clearFilters =>
    exact ⟨(@Saved.change s store (.filters []) saved (List.forall_mem_nil _)).loaded, List.forall_mem_nil _⟩

end Effect

end Session

/-! ### Runs -/

namespace World
variable {σ : Type} {world : World σ} {w w' : σ} {line : CommandLine} {i : Invocation} {config : Config}
  {history : List PastCommand}

/-- Command lines that are run one after another, from a world without the file. In between the world may change
as it likes, as long as it keeps the file as it is and lets it be replaced. -/
inductive Runs (world : World σ) : σ → List PastCommand → Prop
  | start {w : σ} : world.replaceable w → world.found w world.path = .nothing → Runs world w []
  | elsewhere {w w' : σ} {history : List PastCommand} : Runs world w history → world.replaceable w' →
      world.found w' world.path = world.found w world.path → Runs world w' history
  | idle {w : σ} {history : List PastCommand} (time : Instant) {line : CommandLine} : Runs world w history →
      (∀ i, line.request ≠ some (.invocation i)) → Runs world (world.run time line w).2 history
  | command {w : σ} {history : List PastCommand} (time : Instant) {line : CommandLine} {i : Invocation}
      {config : Config} : Runs world w history → world.Asks w line i config →
      Runs world (world.run time line w).2 (history ++ [⟨config, i.command⟩])

/-- A world whose file holds a session: it can be replaced, and the session is loaded from it. The filters of the
session can be stored as they are, and compile. -/
structure Holds (world : World σ) (w : σ) (s : Session) : Prop where
  replaceable : world.replaceable w
  loads : ∃ store, (world.found w world.path).store = .ok store ∧ (Session.load store).1 = s
  filters : ∀ f ∈ s.filters, f.Storable ∧ f.Compiles

/-- On a world that holds a session, a command fails only if it enters a filter that does not compile. -/
theorem Holds.exitCode_eq_zero_iff {s : Session} (h : world.Holds w s) (time : Instant)
    (asks : world.Asks w line i config) :
    (world.run time line w).1.exitCode = 0 ↔ PastCommand.Succeeds ⟨config, i.command⟩ := by
  obtain ⟨store, held, rfl⟩ := h.loads
  have asked := run_asked time asks held h.replaceable
  rw [← Session.effect_ok_iff time fun f hf => (h.filters f hf).2]
  cases result : i.command.effect config (Session.load store).1 time with
  | error e =>
    simp only [result] at asked
    rw [asked]
    exact iff_of_false nofun nofun
  | ok result' =>
    refine iff_of_true ?_ ⟨_, rfl⟩
    cases result' with
    | change changes =>
      simp only [result] at asked
      obtain ⟨w', asked, _⟩ := asked
      rw [asked]
    | print | say =>
      simp only [result] at asked
      obtain ⟨output, asked⟩ := asked
      rw [asked]

/-- A command on a world that holds a session leaves the session that it asks for. -/
theorem Holds.run {s : Session} (h : world.Holds w s) (time : Instant) (asks : world.Asks w line i config)
    (lossless : ∀ f, PastCommand.built? ⟨config, i.command⟩ = some f → f.json.Lossless) :
    world.Holds (world.run time line w).2 (s.after ⟨config, i.command⟩) := by
  obtain ⟨store, held, rfl⟩ := h.loads
  have same := Session.asLoaded_load store
  have saved : Session.Saved (Session.load store).1 store := ⟨same.symm, fun f hf => (h.filters f hf).1⟩
  have effect := Session.effect_spec time saved same (fun f hf => (h.filters f hf).2) lossless
  have asked := run_asked time asks held h.replaceable
  simp only at effect
  cases result : i.command.effect config (Session.load store).1 time with
  | error e =>
    simp only [result] at effect asked
    rw [asked, effect]
    exact h
  | ok result' =>
    cases result' with
    | change changes =>
      simp only [result] at effect asked
      obtain ⟨w', asked, replaceable, found⟩ := asked
      rw [asked]
      exact ⟨replaceable, ⟨_, found, effect.1⟩, effect.2⟩
    | print | say =>
      simp only [result] at effect asked
      obtain ⟨output, asked⟩ := asked
      rw [asked, effect]
      exact h

/-- After any run the world holds what the commands have asked for. -/
theorem Runs.holds (runs : world.Runs w history)
    (lossless : ∀ p ∈ history, ∀ f, p.built? = some f → f.json.Lossless) :
    world.Holds w (Session.recalled history) := by
  induction runs with
  | start replaceable nothing =>
    refine ⟨replaceable, ⟨default, ?_, rfl⟩, List.forall_mem_nil _⟩
    rw [nothing, Found.store]
  | elsewhere _ replaceable same ih =>
    obtain ⟨_, loads, filters⟩ := ih lossless
    exact ⟨replaceable, same ▸ loads, filters⟩
  | idle time _ none ih =>
    rw [run_idle time none]
    exact ih lossless
  | command time _ asks ih =>
    obtain ⟨earlier, last⟩ := List.forall_mem_append.mp lossless
    rw [Session.recalled_append]
    exact (ih earlier).run time asks (last _ (List.mem_singleton_self _))

/-- Commands are run one after another, from a world without the file, and the numbers of the filters that they
build are read back from their text. Then the file can be read, and what is loaded from it is what the commands have
asked for. The next command fails only if it enters a filter that does not compile; a query never fails. -/
theorem loads_recalled_of_runs (runs : world.Runs w history)
    (lossless : ∀ p ∈ history, ∀ f, p.built? = some f → f.json.Lossless) :
    (∃ store, (Invocation.readStore world.access world.path).run.run w = (.ok store, w) ∧
        (Session.load store).1 = Session.recalled history) ∧
      ∀ (time : Instant) (line : CommandLine) (i : Invocation) (config : Config), world.Asks w line i config →
        ((world.run time line w).1.exitCode = 0 ↔ PastCommand.Succeeds ⟨config, i.command⟩) ∧
          (i.command = .query → (world.run time line w).1.exitCode = 0) := by
  have holds := runs.holds lossless
  constructor
  · obtain ⟨store, held, loaded⟩ := holds.loads
    exact ⟨store, held ▸ readStore_run w, loaded⟩
  · intro time line i config asks
    have exitCode := holds.exitCode_eq_zero_iff time asks
    refine ⟨exitCode, fun query => exitCode.mpr ?_⟩
    rw [PastCommand.Succeeds, query]
    trivial

/-- A filter that is entered into files in memory. -/
theorem loads_recalled_of_added_filter :
    let world := Files.world "state.json"
    let line := CommandLine.mk none "state.json" ["add-filter", "price", "is", "5"]
    let w := (world.run .epoch line ⟨["/"], []⟩).2
    ∃ store, (Invocation.readStore world.access "state.json").run.run w = (.ok store, w) ∧
      (Session.load store).1 =
        { filters := [.authored ⟨"price", .equal, some (.scalar (.ofString "5")), false, false⟩] } := by
  intro world line w
  let command : Command := .addFilter "price" .equal (some "5") none false false
  have start : (Files.world "state.json").Runs ⟨["/"], []⟩ [] := .start ⟨"/state.json", rfl, rfl⟩ (by rfl)
  have asks : world.Asks ⟨["/"], []⟩ line ⟨none, "state.json", false, command⟩ {} := ⟨rfl, rfl, rfl⟩
  have lossless : ∀ p ∈ [] ++ [PastCommand.mk {} command], ∀ f, p.built? = some f → f.json.Lossless := by
    rw [List.nil_append, List.forall_mem_singleton]
    rintro f ⟨⟩
    exact (@Command.storable_of_filterOf "price" .equal (some "5") none false false _ rfl).lossless
  obtain ⟨⟨store, read, loaded⟩, _⟩ := loads_recalled_of_runs (start.command .epoch asks) lossless
  exact ⟨store, read, loaded⟩
end World
end SpanSearch
