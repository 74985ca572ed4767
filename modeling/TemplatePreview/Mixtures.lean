import TemplatePreview.Workers

/-! Several kinds of jobs on one service. Every kind has its own contract, and the
invariant has parts of its own: what is left to show of a kind and a part is that
calls which the one allows keep the other. -/
namespace TemplatePreview.Workers

variable {Call : Type} {Answer : Call → Type}

namespace Contract
variable {one other : Contract Call Answer}

/-- What two contracts both allow, relying on what either relies on. -/
def both (one other : Contract Call Answer) : Contract Call Answer where
  asks history call := one.asks history call ∧ other.asks history call
  relies call answer := one.relies call answer ∧ other.relies call answer

/-- A bound on the calls of a program, whatever they are answered. -/
def within (allowed : Call → Prop) : Contract Call Answer where
  asks _ call := allowed call
  relies _ _ := True

/-- A program that keeps to two contracts keeps to both at once. -/
theorem keeps_both {program : Program Call Answer α} {post otherPost : List (Event Call Answer) → α → Prop}
    {history : List (Event Call Answer)} (keeps : one.Keeps post history program)
    (otherKeeps : other.Keeps otherPost history program) :
    (one.both other).Keeps (fun later result => post later result ∧ otherPost later result) history program := by
  induction program generalizing history with
  | done result => exact ⟨keeps, otherKeeps⟩
  | ask call next ih =>
    exact ⟨⟨keeps.1, otherKeeps.1⟩, fun answer relied =>
      ih answer (keeps.2 answer relied.1) (otherKeeps.2 answer relied.2)⟩

/-- A weaker postcondition is kept as well. -/
theorem Keeps.mono {program : Program Call Answer α} {post weaker : List (Event Call Answer) → α → Prop}
    {history : List (Event Call Answer)} (keeps : one.Keeps post history program)
    (weakens : ∀ later result, post later result → weaker later result) : one.Keeps weaker history program := by
  induction program generalizing history with
  | done result => exact weakens _ _ keeps
  | ask call next ih => exact ⟨keeps.1, fun answer relied => ih answer (keeps.2 answer relied)⟩

end Contract

/-! ## Kinds of jobs -/

variable {Kind Part Shared TaskId Process : Type} {Job Result : Kind → Type} [DecidableEq TaskId]

/-- The program of a job of any kind. -/
def mixed (program : ∀ kind, Job kind → Program Call Answer (Result kind)) (job : (kind : Kind) × Job kind) :
    Program Call Answer ((kind : Kind) × Result kind) :=
  program job.1 job.2 >>= fun result => pure ⟨job.1, result⟩

/-- A job ends with a result of its kind. -/
def mixedPost (post : ∀ kind, Job kind → List (Event Call Answer) → Result kind → Prop)
    (job : (kind : Kind) × Job kind) (history : List (Event Call Answer)) (result : (kind : Kind) × Result kind) :
    Prop :=
  ∃ own, result = ⟨job.1, own⟩ ∧ post job.1 job.2 history own

/-- The answers to calls that a contract allows are as it relies on. -/
def Relied (service : Service Shared Process Call Answer) {Job : Type} (contract : Job → Contract Call Answer)
    (invariant : Shared → List (Entry TaskId Process Call Answer) → Prop) : Prop :=
  ∀ shared log task job process call answer after, invariant shared log →
    (∀ entry ∈ log, entry.task = task → entry.process = process) → (contract job).asks (history task log) call →
    service.answers shared process call answer after → (contract job).relies call answer

/-- Calls that a contract allows keep a part of the invariant. -/
def Preserves (service : Service Shared Process Call Answer) {Job : Type} (contract : Job → Contract Call Answer)
    (invariant part : Shared → List (Entry TaskId Process Call Answer) → Prop) : Prop :=
  ∀ shared log task job process call answer after, invariant shared log →
    (∀ entry ∈ log, entry.task = task → entry.process = process) → (contract job).asks (history task log) call →
    service.answers shared process call answer after → part after (log ++ [⟨task, process, call, answer⟩])

/-- All parts of an invariant. -/
def Parts (part : Part → Shared → List (Entry TaskId Process Call Answer) → Prop) (shared : Shared)
    (log : List (Entry TaskId Process Call Answer)) : Prop :=
  ∀ index, part index shared log

section Verification
variable {service : Service Shared Process Call Answer} {contract : ∀ kind, Job kind → Contract Call Answer}
  {program : ∀ kind, Job kind → Program Call Answer (Result kind)} {admits : ∀ kind, Job kind → Process → Prop}
  {post : ∀ kind, Job kind → List (Event Call Answer) → Result kind → Prop}
  {part : Part → Shared → List (Entry TaskId Process Call Answer) → Prop}

/-- Jobs of all kinds together are verified kind by kind and part by part. -/
theorem verified_mixture
    (programs : ∀ kind job process, admits kind job process →
      (contract kind job).Keeps (post kind job) [] (program kind job))
    (relied : ∀ kind, Relied service (contract kind) (Parts part))
    (kept : ∀ kind index, Preserves service (contract kind) (Parts part) (part index))
    (drifts : ∀ index shared log after, part index shared log → service.drifts shared after →
      part index after log) :
    Verified service (mixed program) (fun job => admits job.1 job.2) (fun job => contract job.1 job.2)
      (mixedPost post) (Parts part) where
  programs job process admitted := by
    refine Contract.keeps_bind _ ((programs job.1 job.2 process admitted).mono fun later result holds => ?_)
    exact ⟨result, rfl, holds⟩
  calls shared log task job process call answer after invariant single asked answered :=
    ⟨relied job.1 shared log task job.2 process call answer after invariant single asked answered, fun index =>
      kept job.1 index shared log task job.2 process call answer after invariant single asked answered⟩
  drifts shared log after invariant moved index := drifts index shared log after (invariant index) moved

/-- What a finished job of a mixture has established. -/
theorem post_of_finished {state : State Shared TaskId ((kind : Kind) × Job kind) Process Call Answer
      ((kind : Kind) × Result kind)}
    (tasks : Tasks (fun job => contract job.1 job.2) (mixedPost post) state) {task : TaskId} {kind : Kind}
    {job : Job kind} {process : Process} {result : (kind : Kind) × Result kind}
    (finished : state.tasks task = some ⟨⟨kind, job⟩, process, .done result⟩) :
    ∃ own, result = ⟨kind, own⟩ ∧ post kind job (history task state.log) own :=
  (tasks task _ finished).2

end Verification

omit [DecidableEq TaskId] in
/-- Sequencing: the rest runs where the first part has ended. -/
theorem Uninterrupted.bind {service : Service Shared Process Call Answer} {program : Program Call Answer α}
    {next : α → Program Call Answer β} {process : Process} {shared middle after : Shared}
    {earlier later : List (Event Call Answer)} {value : α} {result : β}
    (ran : Uninterrupted service process shared program earlier middle value)
    (rest : Uninterrupted service process middle (next value) later after result) :
    Uninterrupted service process shared (program >>= next) (earlier ++ later) after result := by
  induction ran with
  | done => exact rest
  | ask answered _ ih => exact .ask answered (ih rest)

omit [DecidableEq TaskId] in
/-- A change of the result does not change the run. -/
theorem Uninterrupted.map {service : Service Shared Process Call Answer} {program : Program Call Answer α}
    {process : Process} {shared after : Shared} {later : List (Event Call Answer)} {result : α} (convert : α → β)
    (ran : Uninterrupted service process shared program later after result) :
    Uninterrupted service process shared (program >>= fun own => pure (convert own)) later after
    (convert result) := by
  induction ran with
  | done => exact .done
  | ask answered rest ih => exact .ask answered ih

omit [DecidableEq TaskId] in
/-- Only the answers of a service matter to a task that is not interrupted. -/
theorem Uninterrupted.answering {service other : Service Shared Process Call Answer} {program : Program Call Answer α}
    {process : Process} {shared after : Shared} {later : List (Event Call Answer)} {result : α}
    (ran : Uninterrupted service process shared program later after result)
    (same : service.answers = other.answers) :
    Uninterrupted other process shared program later after result := by
  induction ran with
  | done => exact .done
  | ask answered rest ih => exact .ask (same ▸ answered) ih

omit [DecidableEq TaskId] in
/-- A job of a mixture runs as it does alone. -/
theorem Uninterrupted.mixed {service : Service Shared Process Call Answer}
    {program : ∀ kind, Job kind → Program Call Answer (Result kind)} {kind : Kind} {job : Job kind}
    {process : Process} {shared after : Shared} {later : List (Event Call Answer)} {result : Result kind}
    (ran : Uninterrupted service process shared (program kind job) later after result) :
    Uninterrupted service process shared (Workers.mixed program ⟨kind, job⟩) later after ⟨kind, result⟩ :=
  ran.map (Sigma.mk kind)

/-- A task that runs without interruption is a run of the system. -/
theorem Uninterrupted.steps {Job Result : Type} {service : Service Shared Process Call Answer}
    {program : Job → Program Call Answer Result} {admits : Job → Process → Prop} {process : Process}
    {shared after : Shared} {remaining : Program Call Answer Result} {later : List (Event Call Answer)}
    {result : Result} (ran : Uninterrupted service process shared remaining later after result) (task : TaskId)
    (job : Job) (tasks : TaskId → Option (Task Job Process Call Answer Result))
    (log : List (Entry TaskId Process Call Answer)) :
    Relation.ReflTransGen (Step service program admits)
      ⟨shared, Function.update tasks task (some ⟨job, process, remaining⟩), log⟩
      ⟨after, Function.update tasks task (some ⟨job, process, .done result⟩),
        log ++ later.map (⟨task, process, ·⟩)⟩ := by
  induction ran generalizing log with
  | done => simpa using Relation.ReflTransGen.refl
  | @ask shared middle after call answer next later result answered _ ih =>
    have step : Step service program admits
        ⟨shared, Function.update tasks task (some ⟨job, process, .ask call next⟩), log⟩ _ :=
      .ask (Function.update_self ..) answered
    rw [Function.update_idem] at step
    rw [List.map_cons, List.append_cons]
    exact .head step (ih _)

omit [DecidableEq TaskId] in
/-- A program is not stuck where calls that its contract allows are answered as it
relies on. -/
theorem Contract.Keeps.uninterrupted {service : Service Shared Process Call Answer} {process : Process}
    {contract : Contract Call Answer} {invariant : Shared → Prop}
    (answers : ∀ shared history call, invariant shared → contract.asks history call →
      ∃ answer after, service.answers shared process call answer after ∧ contract.relies call answer ∧
        invariant after)
    {program : Program Call Answer α} {post : List (Event Call Answer) → α → Prop}
    {earlier : List (Event Call Answer)}
    (keeps : contract.Keeps post earlier program) {shared : Shared} (holds : invariant shared) :
    ∃ later after result, Uninterrupted service process shared program later after result ∧
      post (earlier ++ later) result ∧ invariant after := by
  induction program generalizing earlier shared with
  | done result => exact ⟨[], shared, result, .done, by simpa [Contract.Keeps] using keeps, holds⟩
  | ask call next ih =>
    obtain ⟨answer, middle, answered, relied, kept⟩ := answers shared earlier call holds keeps.1
    obtain ⟨later, after, result, ran, ended, invariant⟩ := ih answer (keeps.2 answer relied) kept
    exact ⟨_, after, result, .ask answered ran, by simpa using ended, invariant⟩

/-- A job may be started in any state, and run without interruption. -/
theorem Uninterrupted.started {Job Result : Type} {service : Service Shared Process Call Answer}
    {program : Job → Program Call Answer Result} {admits : Job → Process → Prop} {process : Process} {job : Job}
    {state : State Shared TaskId Job Process Call Answer Result} {after : Shared} {later : List (Event Call Answer)}
    {result : Result} (ran : Uninterrupted service process state.shared (program job) later after result)
    {task : TaskId} (free : state.tasks task = none) (admitted : admits job process) :
    Relation.ReflTransGen (Step service program admits) state
      ⟨after, Function.update state.tasks task (some ⟨job, process, .done result⟩),
        state.log ++ later.map (⟨task, process, ·⟩)⟩ :=
  .head (.start free admitted) (ran.steps task job state.tasks state.log)

/-- What a task does by itself is in its own history only. -/
theorem history_run (task other : TaskId) (process : Process) (log : List (Entry TaskId Process Call Answer))
    (later : List (Event Call Answer)) :
    history task (log ++ later.map (⟨other, process, ·⟩)) =
      history task log ++ if other = task then later else [] := by
  induction later generalizing log with
  | nil => simp
  | cons event later ih =>
    rw [List.map_cons, List.append_cons, ih]
    by_cases same : other = task
    · subst same
      simp [history_snoc_self]
    · simp [history_snoc_ne same, same]

omit [DecidableEq TaskId] in
/-- A task makes all its calls in its process. -/
theorem Placed.single {Job Result : Type} {state : State Shared TaskId Job Process Call Answer Result}
    (placed : Placed state) {task : TaskId} {running : Task Job Process Call Answer Result}
    (started : state.tasks task = some running) :
    ∀ entry ∈ state.log, entry.task = task → entry.process = running.process := by
  rintro entry member rfl
  obtain ⟨other, found, same⟩ := placed entry member
  rw [started] at found
  cases found
  exact same.symm

/-- Every call of a log was allowed when its task made it. -/
theorem asked_of_logged {Job Result : Type} {state : State Shared TaskId Job Process Call Answer Result}
    {contract : Job → Contract Call Answer} {post : Job → List (Event Call Answer) → Result → Prop}
    (tasks : Tasks contract post state) (placed : Placed state) {entry : Entry TaskId Process Call Answer}
    (member : entry ∈ state.log) :
    ∃ running earlier later, state.tasks entry.task = some running ∧
      history entry.task state.log = earlier ++ entry.event :: later ∧
      (contract running.job).asks earlier entry.event.1 := by
  obtain ⟨running, started, _⟩ := placed entry member
  obtain ⟨earlier, later, same, asked, _⟩ :=
    (tasks entry.task running started).1.of_mem (mem_history.mpr ⟨entry.process, member⟩)
  exact ⟨running, earlier, later, started, same, asked⟩

section Histories
variable {Job Result : Type} {service : Service Shared Process Call Answer}
    {program : Job → Program Call Answer Result}
  {admits : Job → Process → Prop}

/-- Whatever a program is answered, it finishes with its history. -/
private theorem keeps_finishes_self {whole remaining : Program Call Answer Result}
    {history : List (Event Call Answer)}
    (finishing : ∀ later result, remaining.Finishes later result → whole.Finishes (history ++ later) result) :
    (Contract.within fun _ => True).Keeps whole.Finishes history remaining := by
  induction remaining generalizing history with
  | done result => simpa [Contract.Keeps] using finishing [] result .done
  | ask call next ih =>
    refine ⟨trivial, fun answer _ => ih answer fun later result ended => ?_⟩
    rw [List.append_assoc]
    exact finishing _ result (.ask ended)

/-- A finished task has finished with its history, and made all its calls in its process. -/
theorem finishes_of_finished {shared : Shared} {state : State Shared TaskId Job Process Call Answer Result}
    (reachable : Reachable service program admits shared state) {task : TaskId} {job : Job} {process : Process}
    {result : Result} (finished : state.tasks task = some ⟨job, process, .done result⟩) :
    (program job).Finishes (history task state.log) result := by
  have verified : Verified service program admits (fun _ => Contract.within fun _ => True)
      (fun job => (program job).Finishes) fun _ (_ : List (Entry TaskId Process Call Answer)) => True :=
    ⟨fun _ _ _ => keeps_finishes_self fun _ _ => id, fun _ _ _ _ _ _ _ _ _ _ _ _ => ⟨trivial, trivial⟩,
      fun _ _ _ _ _ => trivial⟩
  exact ((verified_reachable verified trivial reachable).2.1 task _ finished).2

end Histories

end TemplatePreview.Workers
