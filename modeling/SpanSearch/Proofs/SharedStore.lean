import Mathlib.Logic.Function.Basic
import SpanSearch.Proofs.Records
import SpanSearch.Session

/-! Clients that share a store. Each of them has a session of its own, which it loads from the store at any time and
    saves change by change. Every entry comes from the last change that was saved under its key, whoever made it. The
    filters are saved as their client has them, so those that others have saved since it loaded are lost. -/

namespace SpanSearch

/-! ### Stores -/

namespace Store

theorem mem_entries_iff (s : Store) (e : String × String) : e ∈ s.entries ↔ s.get? e.1 = some e.2 :=
  (Json.lookup_eq_some_iff (Json.nodup_of_ascending s.ascending)).symm

theorem ext_get? {s t : Store} (same : ∀ key, s.get? key = t.get? key) : s = t := by
  have members : ∀ e, e ∈ s.entries ↔ e ∈ t.entries := fun e => by
    rw [mem_entries_iff, mem_entries_iff, same]
  have nodup (s : Store) : s.entries.Nodup := by
    refine List.Pairwise.imp ?_ s.ascending
    rintro a _ lower rfl
    exact String.lt_irrefl _ lower
  -- Ascending entries stand in one order only, so it is enough that they are the same ones.
  have entries : s.entries = t.entries := by
    refine List.Perm.eq_of_pairwise (fun a b _ _ lower higher => ?_) s.ascending t.ascending
      ((List.perm_ext_iff_of_nodup (nodup s) (nodup t)).mpr members)
    exact absurd (String.lt_trans lower higher) (String.lt_irrefl _)
  cases s
  cases t
  simpa using entries

theorem set_comm (s : Store) {key other : String} (differ : key ≠ other) (value held : String) :
    (s.set key value).set other held = (s.set other held).set key value := by
  refine ext_get? fun name => ?_
  simp only [get?_set]
  by_cases first : name = key
  · simp [first, differ]
  · simp [first]

end Store

/-! ### Calls -/

namespace Session

/-- What a client does with its session and the store. -/
inductive Action where
  | load
  | change (c : Change)

namespace Action

/-- The action saves under a key. -/
def Saves (key : String) : Action → Prop
  | load => False
  | change c => c.key = key

/-- The action puts other filters in the place of those that its client has. -/
def Replaces : Action → Prop
  | load | change (.filters _) => True
  | change _ => False

/-- The filters that the action adds to those that its client has. -/
def added : Action → List Filter
  | change (.addFilter f) => [f]
  | _ => []

end Action

/-- One client does something. -/
structure Call (ι : Type) where
  client : ι
  action : Action

/-- A store, and the sessions of the clients that share it. -/
structure Shared (ι : Type) where
  store : Store
  sessions : ι → Session

namespace Shared
variable {ι : Type} [DecidableEq ι]

/-- A call changes the session of its client alone, and saves what it changes. -/
def step (s : Shared ι) (call : Call ι) : Shared ι :=
  match call.action with
  | .load => { s with sessions := Function.update s.sessions call.client (load s.store).1 }
  | .change c =>
    let (session, store) := (s.sessions call.client).change s.store c
    ⟨store, Function.update s.sessions call.client session⟩

def run (s : Shared ι) (calls : List (Call ι)) : Shared ι :=
  calls.foldl step s

/-- The filters that a client adds in some calls. -/
def added (client : ι) (calls : List (Call ι)) : List Filter :=
  (calls.filter (·.client = client)).flatMap (·.action.added)

variable {s : Shared ι} {client : ι} {call : Call ι} {calls : List (Call ι)} {c d : Change} {key : String}

theorem run_append (before after : List (Call ι)) : s.run (before ++ after) = (s.run before).run after :=
  List.foldl_append

theorem run_cons (call : Call ι) (after : List (Call ι)) : s.run (call :: after) = (s.step call).run after :=
  rfl

/-! ### Entries -/

theorem step_change : s.step ⟨client, .change c⟩ =
    ⟨s.store.set c.key (((s.sessions client).apply c).saved c),
      Function.update s.sessions client ((s.sessions client).apply c)⟩ :=
  rfl

theorem session_step_change : (s.step ⟨client, .change c⟩).sessions client = (s.sessions client).apply c :=
  Function.update_self ..

theorem get?_step_change : (s.step ⟨client, .change c⟩).store.get? key =
    if key = c.key then some (((s.sessions client).apply c).saved c) else s.store.get? key := by
  rw [step_change, Store.get?_set]

theorem get?_step_of_not_saves (other : ¬call.action.Saves key) : (s.step call).store.get? key = s.store.get? key := by
  obtain ⟨client, action⟩ := call
  cases action with
  | load => rfl
  | change c => rw [get?_step_change, if_neg fun same => other same.symm]

theorem get?_run_of_not_saves : ∀ {calls : List (Call ι)} {s : Shared ι},
    (∀ call ∈ calls, ¬call.action.Saves key) → (s.run calls).store.get? key = s.store.get? key
  | [], _, _ => rfl
  | call :: rest, s, others => by
    obtain ⟨here, tail⟩ := List.forall_mem_cons.mp others
    rw [run_cons, get?_run_of_not_saves tail, get?_step_of_not_saves here]

theorem session_run_change (before : List (Call ι)) :
    (s.run (before ++ [⟨client, .change c⟩])).sessions client = ((s.run before).sessions client).apply c := by
  rw [run_append]
  exact session_step_change

theorem get?_run_last {before after : List (Call ι)} (last : ∀ call ∈ after, ¬call.action.Saves c.key) :
    (s.run (before ++ ⟨client, .change c⟩ :: after)).store.get? c.key =
      some (((s.run (before ++ [⟨client, .change c⟩])).sessions client).saved c) := by
  rw [run_append, run_cons, get?_run_of_not_saves last, get?_step_change, if_pos rfl, session_run_change]

/-- A change saves the string that it is given, or the text of the filters that its client has then. -/
theorem saved_apply (session : Session) (c : Change) : (session.apply c).saved c = match c with
    | .text given | .start given | .finish given => given
    | .filters _ | .addFilter _ => filtersText (session.apply c).filters := by
  cases c <;> rfl

/-! ### Filters -/

theorem added_cons (call : Call ι) (rest : List (Call ι)) :
    added client (call :: rest) = (if call.client = client then call.action.added else []) ++ added client rest := by
  by_cases own : call.client = client <;> simp [added, own]

theorem sessions_step_of_ne {call : Call ι} (other : call.client ≠ client) :
    (s.step call).sessions client = s.sessions client := by
  obtain ⟨i, action⟩ := call
  cases action <;> exact Function.update_of_ne other.symm _ _

theorem filters_step_of_keeps (keeps : call.client = client → ¬call.action.Replaces) :
    ((s.step call).sessions client).filters =
      (s.sessions client).filters ++ if call.client = client then call.action.added else [] := by
  by_cases own : call.client = client
  · obtain ⟨i, action⟩ := call
    obtain rfl : i = client := own
    rw [if_pos rfl]
    cases action with
    | load => exact absurd trivial (keeps rfl)
    | change c =>
      rw [session_step_change]
      cases c with
      | filters given => exact absurd trivial (keeps rfl)
      | addFilter f => rfl
      | text | start | finish => exact (List.append_nil _).symm
  · rw [if_neg own, sessions_step_of_ne own, List.append_nil]

theorem filters_run_of_keeps : ∀ {calls : List (Call ι)} {s : Shared ι},
    (∀ call ∈ calls, call.client = client → ¬call.action.Replaces) →
    ((s.run calls).sessions client).filters = (s.sessions client).filters ++ added client calls
  | [], s, _ => (List.append_nil _).symm
  | call :: rest, s, keep => by
    obtain ⟨here, tail⟩ := List.forall_mem_cons.mp keep
    rw [run_cons, filters_run_of_keeps tail, filters_step_of_keeps here, added_cons, List.append_assoc]

/-! ### Order of calls -/

theorem step_comm {i j : ι} (clients : i ≠ j) (keys : c.key ≠ d.key) :
    (s.step ⟨i, .change c⟩).step ⟨j, .change d⟩ = (s.step ⟨j, .change d⟩).step ⟨i, .change c⟩ := by
  simp only [step_change, Function.update_of_ne clients, Function.update_of_ne clients.symm,
    Store.set_comm s.store keys, Function.update_comm clients]

/-- Clients share a store, and any of them loads, replaces and adds at any time. An entry that no call has set is as it
was at the start, and any other one is what the last call that set it has saved: the string that it was given, or the
text of the filters that its client had then. A client has the filters that it last loaded or replaced, or had at the
start, and those that it has added since. So a call changes no entry but its own, and calls of two clients that set
different entries can be swapped. -/
theorem entries_of_calls (start : Shared ι) (calls : List (Call ι)) :
    (∀ key, (∀ call ∈ calls, ¬call.action.Saves key) → (start.run calls).store.get? key = start.store.get? key) ∧
    (∀ before client c after, calls = before ++ ⟨client, .change c⟩ :: after →
      (∀ call ∈ after, ¬call.action.Saves c.key) →
      (start.run calls).store.get? c.key = some (match c with
        | .text given | .start given | .finish given => given
        | .filters _ | .addFilter _ =>
          filtersText ((start.run (before ++ [⟨client, .change c⟩])).sessions client).filters)) ∧
    (∀ client, (∀ call ∈ calls, call.client = client → ¬call.action.Replaces) →
      ((start.run calls).sessions client).filters = (start.sessions client).filters ++ added client calls) ∧
    (∀ before client after, calls = before ++ ⟨client, .load⟩ :: after →
      (∀ call ∈ after, call.client = client → ¬call.action.Replaces) →
      ((start.run calls).sessions client).filters =
        (load (start.run before).store).1.filters ++ added client after) ∧
    (∀ before client given after, calls = before ++ ⟨client, .change (.filters given)⟩ :: after →
      (∀ call ∈ after, call.client = client → ¬call.action.Replaces) →
      ((start.run calls).sessions client).filters = given ++ added client after) ∧
    (∀ client c key, key ≠ c.key →
      (start.run (calls ++ [⟨client, .change c⟩])).store.get? key = (start.run calls).store.get? key) ∧
    ∀ i j c d later, i ≠ j → c.key ≠ d.key →
      start.run (calls ++ ⟨i, .change c⟩ :: ⟨j, .change d⟩ :: later) =
        start.run (calls ++ ⟨j, .change d⟩ :: ⟨i, .change c⟩ :: later) := by
  refine ⟨fun key => get?_run_of_not_saves, ?_, fun client => filters_run_of_keeps, ?_, ?_, ?_, ?_⟩
  · rintro before client c after rfl last
    rw [get?_run_last last, session_run_change, saved_apply]
  · rintro before client after rfl keep
    rw [run_append, run_cons, filters_run_of_keeps keep]
    congr 2
    exact Function.update_self ..
  · rintro before client given after rfl keep
    rw [run_append, run_cons, filters_run_of_keeps keep, session_step_change]
    rfl
  · intro client c key other
    rw [run_append, run_cons]
    exact get?_step_change.trans (if_neg other)
  · intro i j c d later clients keys
    rw [run_append, run_append, run_cons, run_cons, run_cons, run_cons, step_comm clients keys]

/-- Two clients load an empty store, and each adds a filter: the one that was saved first is lost. -/
theorem entries_of_calls_lost :
    let given (field : String) : Filter := .authored { field, operator := .present }
    let start : Shared Bool := ⟨default, fun _ => {}⟩
    let calls : List (Call Bool) := [⟨true, .load⟩, ⟨false, .load⟩, ⟨true, .change (.addFilter (given "a"))⟩,
      ⟨false, .change (.addFilter (given "b"))⟩]
    (start.run calls).store.get? filtersKey = some (filtersText [given "b"]) := by
  intro given start calls
  obtain ⟨-, last, -, loaded, -⟩ := entries_of_calls start calls
  have held : ((start.run calls).sessions false).filters = [given "b"] := by
    refine loaded [⟨true, .load⟩] false _ rfl ?_
    simp [Action.Replaces]
  rw [← held]
  exact last (calls.take 3) false (.addFilter (given "b")) [] rfl nofun

end Shared
end Session
end SpanSearch
