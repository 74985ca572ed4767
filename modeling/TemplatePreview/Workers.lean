import Mathlib.Logic.Relation
import Mathlib.Logic.Function.Basic
import Mathlib.Data.List.Basic

/-! Tasks that call services, running in any number of processes and interleaved
in any order. A task is a program of calls; each call is answered by a shared
service, atomically. A contract of a program is read off its own calls and
answers, and holds in every run of the whole system when the service keeps the
shared invariant. -/
namespace TemplatePreview.Workers

/-- A program that makes calls and goes on with each possible answer. -/
inductive Program (Call : Type) (Answer : Call → Type) (Result : Type) where
  | done (result : Result)
  | ask (call : Call) (next : Answer call → Program Call Answer Result)

variable {Call : Type} {Answer : Call → Type}

/-- One call and its answer. -/
abbrev Event (Call : Type) (Answer : Call → Type) : Type := (call : Call) × Answer call

namespace Program

def bind (program : Program Call Answer α) (next : α → Program Call Answer β) : Program Call Answer β :=
  match program with
  | .done result => next result
  | .ask call rest => .ask call fun answer => (rest answer).bind next

instance : Monad (Program Call Answer) where
  pure := .done
  bind := bind

/-- A single call. -/
def request (call : Call) : Program Call Answer (Answer call) := .ask call .done

/-- The program finishes with this history of calls and this result. -/
inductive Finishes : Program Call Answer α → List (Event Call Answer) → α → Prop where
  | done : Finishes (.done result) [] result
  | ask {call : Call} {answer : Answer call} {next : Answer call → Program Call Answer α}
      (rest : Finishes (next answer) history result) :
      Finishes (.ask call next) (⟨call, answer⟩ :: history) result

section Finishing
variable {program : Program Call Answer α} {next : α → Program Call Answer β}
  {earlier history : List (Event Call Answer)} {middle : α}

@[simp] theorem finishes_pure {result value : α} :
    (pure value : Program Call Answer α).Finishes history result ↔ history = [] ∧ result = value := by
  constructor
  · intro finishes
    cases finishes
    exact ⟨rfl, rfl⟩
  · rintro ⟨rfl, rfl⟩
    exact .done

theorem bind_assoc (program : Program Call Answer α) (next : α → Program Call Answer β)
    (last : β → Program Call Answer γ) :
    program >>= next >>= last = program >>= fun value => next value >>= last := by
  induction program with
  | done result => rfl
  | ask call rest ih => exact congrArg (Program.ask call) (funext ih)

/-- After its first part a program finishes as its second part does. -/
theorem finishes_bind_iff {result : β} (obtained : program.Finishes earlier middle) :
    (program >>= next).Finishes (earlier ++ history) result ↔ (next middle).Finishes history result := by
  induction obtained with
  | done => exact Iff.rfl
  | ask rest ih =>
    refine Iff.trans ⟨fun finishes => ?_, .ask⟩ ih
    cases finishes with
    | ask later => exact later

/-- A single call is the first of the history. -/
theorem finishes_request_iff {call : Call} {next : Answer call → Program Call Answer β} {result : β} :
    (request call >>= next).Finishes history result ↔
      ∃ answer later, history = ⟨call, answer⟩ :: later ∧ (next answer).Finishes later result := by
  constructor
  · intro finishes
    cases finishes with
    | ask rest => exact ⟨_, _, rfl, rest⟩
  · rintro ⟨answer, later, rfl, rest⟩
    exact .ask rest

/-- Changing only the result changes no call. -/
theorem finishes_map_iff {change : α → β} {result : β} :
    (program >>= fun value => pure (change value)).Finishes history result ↔
      ∃ value, program.Finishes history value ∧ result = change value := by
  induction program generalizing history with
  | done value =>
    constructor
    · intro finishes
      obtain ⟨rfl, same⟩ := finishes_pure.mp finishes
      exact ⟨value, .done, same⟩
    · rintro ⟨_, ⟨⟩, rfl⟩
      exact .done
  | ask call rest ih =>
    constructor
    · intro finishes
      cases finishes with
      | ask later =>
        obtain ⟨value, ended, same⟩ := (ih _).mp later
        exact ⟨value, .ask ended, same⟩
    · rintro ⟨value, finishes, same⟩
      cases finishes with
      | ask later => exact .ask ((ih _).mpr ⟨value, later, same⟩)

end Finishing

end Program

/-! ## Contracts -/

/-- What a program may ask after a history, what it may rely on in an answer, and
what it must have established when it finishes. -/
structure Contract (Call : Type) (Answer : Call → Type) where
  asks : List (Event Call Answer) → Call → Prop
  relies : (call : Call) → Answer call → Prop

/-- The program keeps to the contract from a history on and finishes with the
postcondition. -/
def Contract.Keeps (contract : Contract Call Answer) (post : List (Event Call Answer) → α → Prop)
    (history : List (Event Call Answer)) : Program Call Answer α → Prop
  | .done result => post history result
  | .ask call next => contract.asks history call ∧
      ∀ answer, contract.relies call answer → contract.Keeps post (history ++ [⟨call, answer⟩]) (next answer)

/-- A history each of whose calls the contract allowed and each of whose answers
was as it relies on. -/
inductive Contract.Respects (contract : Contract Call Answer) : List (Event Call Answer) → Prop where
  | nil : contract.Respects []
  | snoc {call : Call} {answer : Answer call} (earlier : contract.Respects history)
      (asked : contract.asks history call) (relied : contract.relies call answer) :
      contract.Respects (history ++ [⟨call, answer⟩])

namespace Contract
variable {contract : Contract Call Answer}

/-- Every call of a history was allowed after the calls before it, and answered as
the contract relies on. -/
theorem Respects.of_mem {event : Event Call Answer} (respects : contract.Respects history)
    (member : event ∈ history) :
    ∃ earlier later, history = earlier ++ event :: later ∧ contract.asks earlier event.1 ∧
      contract.relies event.1 event.2 := by
  induction respects with
  | nil => cases member
  | @snoc before call answer earlier asked relied ih =>
    rcases List.mem_append.mp member with inside | last
    · obtain ⟨first, later, rfl, permitted, answered⟩ := ih inside
      exact ⟨first, later ++ [⟨call, answer⟩], by simp, permitted, answered⟩
    · cases List.mem_singleton.mp last
      exact ⟨before, [], rfl, asked, relied⟩

/-- Sequencing: the rest keeps the contract from wherever the first part ends. -/
theorem keeps_bind {post : List (Event Call Answer) → β → Prop} {next : α → Program Call Answer β}
    (program : Program Call Answer α) {history : List (Event Call Answer)}
    (keeps : contract.Keeps (fun later result => contract.Keeps post later (next result)) history program) :
    contract.Keeps post history (program >>= next) := by
  induction program generalizing history with
  | done result => exact keeps
  | ask call rest ih => exact ⟨keeps.1, fun answer relied => ih answer (keeps.2 answer relied)⟩

/-- A single call: it must be allowed, and the rest must cope with every answer. -/
theorem keeps_request {post : List (Event Call Answer) → β → Prop} {call : Call}
    {next : Answer call → Program Call Answer β} {history : List (Event Call Answer)}
    (asked : contract.asks history call)
    (rest : ∀ answer, contract.relies call answer →
      contract.Keeps post (history ++ [⟨call, answer⟩]) (next answer)) :
    contract.Keeps post history (Program.request call >>= next) := ⟨asked, rest⟩

/-- A finished run that was answered as the contract relies on has the
postcondition. -/
theorem keeps_finishes {post : List (Event Call Answer) → α → Prop} {program : Program Call Answer α}
    (finishes : program.Finishes later result) {history : List (Event Call Answer)}
    (keeps : contract.Keeps post history program)
    (relied : ∀ event ∈ later, contract.relies event.1 event.2) : post (history ++ later) result := by
  induction finishes generalizing history with
  | done => simpa [Keeps] using keeps
  | @ask tail final call answer next rest ih =>
    have step := ih (keeps.2 answer (relied ⟨call, answer⟩ (by simp)))
      fun event member => relied event (by simp [member])
    simpa using step

end Contract

/-! ## Systems of tasks -/

/-- Calls change the shared state and are answered; the shared state may also
change by itself. -/
structure Service (Shared Process Call : Type) (Answer : Call → Type) where
  answers : Shared → Process → (call : Call) → Answer call → Shared → Prop
  drifts : Shared → Shared → Prop

/-- A job that was started in a process, and what remains of its program. -/
structure Task (Job Process Call : Type) (Answer : Call → Type) (Result : Type) where
  job : Job
  process : Process
  remaining : Program Call Answer Result

/-- One entry of the log of all calls. -/
structure Entry (TaskId Process Call : Type) (Answer : Call → Type) where
  task : TaskId
  process : Process
  event : Event Call Answer

structure State (Shared TaskId Job Process Call : Type) (Answer : Call → Type) (Result : Type) where
  shared : Shared
  tasks : TaskId → Option (Task Job Process Call Answer Result)
  log : List (Entry TaskId Process Call Answer)

variable {Shared TaskId Job Process Result : Type} [DecidableEq TaskId]

/-- The calls of one task, in order. -/
def history (task : TaskId) (log : List (Entry TaskId Process Call Answer)) : List (Event Call Answer) :=
  log.filterMap fun entry => if entry.task = task then some entry.event else none

theorem history_snoc_self (task : TaskId) (log : List (Entry TaskId Process Call Answer))
    (process : Process) (event : Event Call Answer) :
    history task (log ++ [⟨task, process, event⟩]) = history task log ++ [event] := by
  simp [history]

theorem history_snoc_ne (different : other ≠ task) (log : List (Entry TaskId Process Call Answer))
    (process : Process) (event : Event Call Answer) :
    history task (log ++ [⟨other, process, event⟩]) = history task log := by
  simp [history, different]

theorem mem_history {task : TaskId} {log : List (Entry TaskId Process Call Answer)}
    {event : Event Call Answer} :
    event ∈ history task log ↔ ∃ process, ⟨task, process, event⟩ ∈ log := by
  simp only [history, List.mem_filterMap, Option.ite_none_right_eq_some, Option.some.injEq]
  constructor
  · rintro ⟨⟨_, process, _⟩, member, rfl, rfl⟩
    exact ⟨process, member⟩
  · rintro ⟨process, member⟩
    exact ⟨⟨task, process, event⟩, member, rfl, rfl⟩

/-- One step of the system: a job starts in a process, a running task makes its
next call, or the shared state drifts. -/
inductive Step (service : Service Shared Process Call Answer) (program : Job → Program Call Answer Result)
    (admits : Job → Process → Prop) :
    State Shared TaskId Job Process Call Answer Result →
    State Shared TaskId Job Process Call Answer Result → Prop where
  | start {task : TaskId} {job : Job} {process : Process}
      (free : state.tasks task = none) (admitted : admits job process) :
      Step service program admits state
        { state with tasks := Function.update state.tasks task (some ⟨job, process, program job⟩) }
  | ask {task : TaskId} {job : Job} {process : Process} {call : Call} {answer : Answer call}
      {next : Answer call → Program Call Answer Result} {after : Shared}
      (running : state.tasks task = some ⟨job, process, .ask call next⟩)
      (answered : service.answers state.shared process call answer after) :
      Step service program admits state
        { shared := after
          tasks := Function.update state.tasks task (some ⟨job, process, next answer⟩)
          log := state.log ++ [⟨task, process, call, answer⟩] }
  | drift {after : Shared} (moved : service.drifts state.shared after) :
      Step service program admits state { state with shared := after }

/-- No task has started. -/
def State.initial (shared : Shared) : State Shared TaskId Job Process Call Answer Result :=
  ⟨shared, fun _ => none, []⟩

/-- The states of all runs from a shared state. -/
def Reachable (service : Service Shared Process Call Answer) (program : Job → Program Call Answer Result)
    (admits : Job → Process → Prop) (shared : Shared)
    (state : State Shared TaskId Job Process Call Answer Result) : Prop :=
  Relation.ReflTransGen (Step service program admits) (State.initial shared) state

/-- A program that is not interrupted: its calls are answered one after another. -/
inductive Uninterrupted (service : Service Shared Process Call Answer) (process : Process) :
    Shared → Program Call Answer Result → List (Event Call Answer) → Shared → Result → Prop where
  | done {shared : Shared} {result : Result} : Uninterrupted service process shared (.done result) [] shared result
  | ask {shared middle after : Shared} {call : Call} {answer : Answer call}
      {next : Answer call → Program Call Answer Result} {later : List (Event Call Answer)} {result : Result}
      (answered : service.answers shared process call answer middle)
      (rest : Uninterrupted service process middle (next answer) later after result) :
      Uninterrupted service process shared (.ask call next) (⟨call, answer⟩ :: later) after result

private theorem uninterrupted_rest {service : Service Shared Process Call Answer}
    {program : Job → Program Call Answer Result} {admits : Job → Process → Prop} {initial : Shared}
    {task : TaskId} {job : Job} {process : Process} {shared after : Shared}
    {remaining : Program Call Answer Result} {later : List (Event Call Answer)} {result : Result}
    (uninterrupted : Uninterrupted service process shared remaining later after result)
    {tasks : TaskId → Option (Task Job Process Call Answer Result)} {log : List (Entry TaskId Process Call Answer)}
    (reachable : Reachable service program admits initial
      ⟨shared, Function.update tasks task (some ⟨job, process, remaining⟩), log⟩) :
    Reachable service program admits initial
      ⟨after, Function.update tasks task (some ⟨job, process, .done result⟩),
        log ++ later.map (⟨task, process, ·⟩)⟩ := by
  induction uninterrupted generalizing log with
  | done => simpa using reachable
  | @ask shared middle after call answer next later result answered _ ih =>
    have step : Step service program admits
        ⟨shared, Function.update tasks task (some ⟨job, process, .ask call next⟩), log⟩ _ :=
      .ask (Function.update_self ..) answered
    have continued := reachable.tail step
    simp only [Function.update_idem] at continued
    simpa using ih continued

/-- A job may be started and run without interruption from any state. -/
theorem Reachable.run {service : Service Shared Process Call Answer}
    {program : Job → Program Call Answer Result} {admits : Job → Process → Prop} {initial after : Shared}
    {state : State Shared TaskId Job Process Call Answer Result} (task : TaskId) {job : Job} (process : Process)
    {later : List (Event Call Answer)} {result : Result}
    (reachable : Reachable service program admits initial state) (free : state.tasks task = none)
    (admitted : admits job process)
    (uninterrupted : Uninterrupted service process state.shared (program job) later after result) :
    Reachable service program admits initial
      ⟨after, Function.update state.tasks task (some ⟨job, process, .done result⟩),
        state.log ++ later.map (⟨task, process, ·⟩)⟩ :=
  uninterrupted_rest uninterrupted (reachable.tail (.start free admitted))

/-- A contract for every job, and an invariant of the shared state and the log
that the service keeps while calls respect their contracts. -/
structure Verified (service : Service Shared Process Call Answer)
    (program : Job → Program Call Answer Result) (admits : Job → Process → Prop)
    (contract : Job → Contract Call Answer) (post : Job → List (Event Call Answer) → Result → Prop)
    (invariant : Shared → List (Entry TaskId Process Call Answer) → Prop) : Prop where
  programs : ∀ job process, admits job process → (contract job).Keeps (post job) [] (program job)
  calls : ∀ shared log task job process call answer after, invariant shared log →
    (∀ entry ∈ log, entry.task = task → entry.process = process) →
    (contract job).asks (history task log) call →
    service.answers shared process call answer after →
    (contract job).relies call answer ∧ invariant after (log ++ [⟨task, process, call, answer⟩])
  drifts : ∀ shared log after, invariant shared log → service.drifts shared after → invariant after log

/-- Every task has respected its contract and keeps to it from its own history on. -/
def Tasks (contract : Job → Contract Call Answer) (post : Job → List (Event Call Answer) → Result → Prop)
    (state : State Shared TaskId Job Process Call Answer Result) : Prop :=
  ∀ task running, state.tasks task = some running →
    (contract running.job).Respects (history task state.log) ∧
    (contract running.job).Keeps (post running.job) (history task state.log) running.remaining

/-- Every call was made by a task that was started, in its process. -/
def Placed (state : State Shared TaskId Job Process Call Answer Result) : Prop :=
  ∀ entry ∈ state.log, ∃ running, state.tasks entry.task = some running ∧ running.process = entry.process

/-- The history of a task that never started is empty. -/
theorem fresh_history {state : State Shared TaskId Job Process Call Answer Result} (placed : Placed state)
    {task : TaskId} (free : state.tasks task = none) : history task state.log = [] := by
  apply List.eq_nil_iff_forall_not_mem.mpr
  intro event member
  obtain ⟨process, inLog⟩ := mem_history.mp member
  obtain ⟨running, started, _⟩ := placed _ inLog
  rw [free] at started
  cases started

theorem placed_step {service : Service Shared Process Call Answer}
    {program : Job → Program Call Answer Result} {admits : Job → Process → Prop}
    {before after : State Shared TaskId Job Process Call Answer Result}
    (placed : Placed before) (step : Step service program admits before after) : Placed after := by
  cases step with
  | @start task job process free admitted =>
    intro entry member
    obtain ⟨running, started, same⟩ := placed entry member
    have other : entry.task ≠ task := by
      rintro rfl
      rw [free] at started
      cases started
    exact ⟨running, (Function.update_of_ne other ..).trans started, same⟩
  | @ask task job process call answer next shared running answered =>
    intro entry member
    by_cases same : entry.task = task
    · refine ⟨⟨job, process, next answer⟩, by simp [same], ?_⟩
      rcases List.mem_append.mp member with inside | last
      · obtain ⟨running', started, placedIn⟩ := placed entry inside
        rw [same, running] at started
        cases started
        exact placedIn
      · cases List.mem_singleton.mp last
        rfl
    · rcases List.mem_append.mp member with inside | last
      · obtain ⟨running', started, placedIn⟩ := placed entry inside
        exact ⟨running', (Function.update_of_ne same ..).trans started, placedIn⟩
      · cases List.mem_singleton.mp last
        exact absurd rfl same
  | drift moved => exact placed

/-- A step keeps the invariant and every task's contract. -/
theorem verified_step {service : Service Shared Process Call Answer}
    {program : Job → Program Call Answer Result} {admits : Job → Process → Prop}
    {contract : Job → Contract Call Answer} {post : Job → List (Event Call Answer) → Result → Prop}
    {invariant : Shared → List (Entry TaskId Process Call Answer) → Prop}
    (verified : Verified service program admits contract post invariant)
    {before after : State Shared TaskId Job Process Call Answer Result}
    (holds : invariant before.shared before.log) (tasks : Tasks contract post before)
    (placed : Placed before) (step : Step service program admits before after) :
    invariant after.shared after.log ∧ Tasks contract post after := by
  cases step with
  | @start task job process free admitted =>
    refine ⟨holds, fun other running found => ?_⟩
    by_cases same : other = task
    · subst same
      simp only [Function.update_self, Option.some.injEq] at found
      subst found
      simp only [fresh_history placed free]
      exact ⟨.nil, verified.programs job process admitted⟩
    · simp only [Function.update_of_ne same] at found
      exact tasks other running found
  | @ask task job process call answer next shared running answered =>
    obtain ⟨respects, keeps⟩ := tasks task _ running
    have single : ∀ entry ∈ before.log, entry.task = task → entry.process = process := by
      rintro entry member rfl
      obtain ⟨running', started, placedIn⟩ := placed entry member
      rw [running] at started
      cases started
      exact placedIn.symm
    obtain ⟨relied, kept⟩ := verified.calls _ _ task job process call answer shared holds single keeps.1 answered
    refine ⟨kept, fun other found same => ?_⟩
    by_cases eq : other = task
    · subst eq
      simp only [Function.update_self, Option.some.injEq] at same
      subst same
      simp only [history_snoc_self]
      exact ⟨.snoc respects keeps.1 relied, keeps.2 answer relied⟩
    · simp only [Function.update_of_ne eq] at same
      simp only [history_snoc_ne (Ne.symm eq)]
      exact tasks other found same
  | drift moved => exact ⟨verified.drifts _ _ _ holds moved, tasks⟩

/-- In every reachable state the invariant holds, every call was made in the
process of its task, and every task keeps to its contract from its own history
on. -/
theorem verified_reachable {service : Service Shared Process Call Answer}
    {program : Job → Program Call Answer Result} {admits : Job → Process → Prop}
    {contract : Job → Contract Call Answer} {post : Job → List (Event Call Answer) → Result → Prop}
    {invariant : Shared → List (Entry TaskId Process Call Answer) → Prop}
    (verified : Verified service program admits contract post invariant)
    {shared : Shared} (initial : invariant shared [])
    {state : State Shared TaskId Job Process Call Answer Result}
    (reachable : Reachable service program admits shared state) :
    invariant state.shared state.log ∧ Tasks contract post state ∧ Placed state := by
  induction reachable with
  | refl => exact ⟨initial, fun _ _ found => (by cases found), fun _ member => (by cases member)⟩
  | tail _ step ih =>
    obtain ⟨holds, tasks, placed⟩ := ih
    obtain ⟨kept, keep⟩ := verified_step verified holds tasks placed step
    exact ⟨kept, keep, placed_step placed step⟩

end TemplatePreview.Workers
