import TemplatePreview.ServiceGuarantees

/-! The life of a letter as the service means it: a letter that passes is stored, backed
up and announced, in this order; any other is announced at once. Every run of the
whole service is such a life of every letter, however its deliveries overlap. -/
namespace TemplatePreview.LetterLives
open Workers ObjectStore Pdf Sanitisation LetterTasks Recreations WholeService
open DeliveryRuns (Consistent Sanitised BothStored letter letterScan letter_passes)

/-! ## The life of a letter -/

/-- How far a letter has come. -/
inductive Phase where
  | pending
  | saved
  | backedUp
  | announced
  deriving DecidableEq, Repr

/-- One step in the life of a letter with a verdict. -/
inductive Phase.Next (verdict : Option ValidationStatus) : Phase → Phase → Prop where
  | save (passed : verdict = some .passed) : Next verdict .pending .saved
  | backUp (passed : verdict = some .passed) : Next verdict .saved .backedUp
  | announce (passed : verdict = some .passed) : Next verdict .backedUp .announced
  | refuse (failed : verdict = some .failed) : Next verdict .pending .announced

/-- A part of a life. -/
def Phase.Life (verdict : Option ValidationStatus) : Phase → Phase → Prop :=
  Relation.ReflTransGen (Phase.Next verdict)

section Log
variable {TaskId Process : Type} {delivery : Delivery} {verdict : Option ValidationStatus} {event : TaskEvent}
  {log : TaskLog TaskId Process} {entry : Entry TaskId Process TaskCall Call.Answer}

/-- The events that bring a letter into a phase. -/
def Reaches (delivery : Delivery) (event : TaskEvent) : Phase → Prop
  | .pending => False
  | .saved => ∃ value, event = Event.uploaded .sanitisedLetter delivery.filename value (.ok ())
  | .backedUp =>
    event = Event.copied .lettersScan delivery.filename .precompiledOriginalsBackup delivery.backupFilename (.ok ())
  | .announced => ∃ data : SanitiseData, event = Event.sent data ∧ data.filename = delivery.filename

def Reached (delivery : Delivery) (log : TaskLog TaskId Process) (phase : Phase) : Prop :=
  ∃ entry ∈ log, Reaches delivery entry.event phase

open Classical in
/-- The last phase that a letter has reached. -/
noncomputable def phaseOf (delivery : Delivery) (log : TaskLog TaskId Process) : Phase :=
  if Reached delivery log .announced then .announced
  else if Reached delivery log .backedUp then .backedUp
  else if Reached delivery log .saved then .saved
  else .pending

/-- An event that the life of a letter allows next. -/
structure Allowed (delivery : Delivery) (verdict : Option ValidationStatus) (log : TaskLog TaskId Process)
    (event : TaskEvent) : Prop where
  saves : Reaches delivery event .saved → verdict = some .passed
  backsUp : Reaches delivery event .backedUp → Reached delivery log .saved
  announces : Reaches delivery event .announced → verdict = some .failed ∨ Reached delivery log .backedUp
  truthful : ∀ data : SanitiseData, event = Event.sent data → data.filename = delivery.filename →
    verdict = some data.validationStatus

/-- No phase of a letter was left out, and what was announced is its verdict. -/
structure Ordered (delivery : Delivery) (verdict : Option ValidationStatus)
    (log : TaskLog TaskId Process) : Prop where
  saved : Reached delivery log .saved → verdict = some .passed
  backedUp : Reached delivery log .backedUp → Reached delivery log .saved
  announced : Reached delivery log .announced → verdict = some .failed ∨ Reached delivery log .backedUp
  truthful : ∀ entry ∈ log, ∀ data : SanitiseData, entry.event = Event.sent data →
    data.filename = delivery.filename → verdict = some data.validationStatus

theorem Ordered.nil : Ordered delivery verdict ([] : TaskLog TaskId Process) where
  saved := by simp [Reached]
  backedUp := by simp [Reached]
  announced := by simp [Reached]
  truthful := by simp

theorem reached_snoc {phase : Phase} : Reached delivery (log ++ [entry]) phase ↔
    Reached delivery log phase ∨ Reaches delivery entry.event phase := by
  simp only [Reached, List.mem_append, List.mem_singleton, or_and_right, exists_or, exists_eq_left]

/-- An event reaches one phase at most. -/
theorem reaches_unique {one other : Phase} (first : Reaches delivery event one)
    (second : Reaches delivery event other) :
    one = other := by
  cases one with
  | pending => exact first.elim
  | saved =>
    obtain ⟨value, rfl⟩ := first
    cases other with
    | saved => rfl
    | pending => exact second.elim
    | backedUp => cases second
    | announced =>
      obtain ⟨_, ⟨⟩, _⟩ := second
  | backedUp =>
    cases first
    cases other with
    | backedUp => rfl
    | pending => exact second.elim
    | saved =>
      obtain ⟨_, ⟨⟩⟩ := second
    | announced =>
      obtain ⟨_, ⟨⟩, _⟩ := second
  | announced =>
    obtain ⟨data, rfl, _⟩ := first
    cases other with
    | announced => rfl
    | pending => exact second.elim
    | saved =>
      obtain ⟨_, ⟨⟩⟩ := second
    | backedUp => cases second

/-- Events that are allowed keep the phases in order. -/
theorem Ordered.snoc (ordered : Ordered delivery verdict log) (allowed : Allowed delivery verdict log entry.event) :
    Ordered delivery verdict (log ++ [entry]) where
  saved reached := (reached_snoc.mp reached).elim ordered.saved allowed.saves
  backedUp reached := reached_snoc.mpr (.inl ((reached_snoc.mp reached).elim ordered.backedUp allowed.backsUp))
  announced reached := ((reached_snoc.mp reached).elim ordered.announced allowed.announces).imp_right
    fun before => reached_snoc.mpr (.inl before)
  truthful := forall_mem_snoc ordered.truthful allowed.truthful

theorem phaseOf_congr {other : TaskLog TaskId Process}
    (same : ∀ phase, Reached delivery log phase ↔ Reached delivery other phase) :
    phaseOf delivery log = phaseOf delivery other := by
  have equal : Reached delivery log = Reached delivery other := funext fun phase => propext (same phase)
  unfold phaseOf
  rw [equal]

theorem phaseOf_nil (delivery : Delivery) : phaseOf delivery ([] : TaskLog TaskId Process) = .pending := by
  simp [phaseOf, Reached]

/-- A letter has reached the phase that it is in. -/
theorem reached_phaseOf (delivery : Delivery) (log : TaskLog TaskId Process)
    (begun : phaseOf delivery log ≠ .pending) :
    Reached delivery log (phaseOf delivery log) := by
  unfold phaseOf at begun ⊢
  split
  · assumption
  split
  · assumption
  split
  · assumption
  · rename_i notAnnounced notBackedUp notSaved
    simp only [notAnnounced, notBackedUp, notSaved, ↓reduceIte, ne_eq, not_true_eq_false] at begun

/-- Events that reach nothing new leave a letter where it is. -/
theorem phaseOf_snoc_of_known (known : ∀ phase, Reaches delivery entry.event phase → Reached delivery log phase) :
    phaseOf delivery (log ++ [entry]) = phaseOf delivery log :=
  phaseOf_congr fun phase => reached_snoc.trans (or_iff_left_of_imp (known phase))

/-- A letter was refused or has gone through every phase before. -/
theorem Ordered.passed_of_backedUp (ordered : Ordered delivery verdict log)
    (backedUp : Reached delivery log .backedUp) : verdict = some .passed :=
  ordered.saved (ordered.backedUp backedUp)

/-- An event that is allowed is a step in the life of a letter, or none. -/
theorem life_snoc (ordered : Ordered delivery verdict log) (allowed : Allowed delivery verdict log entry.event) :
    Phase.Life verdict (phaseOf delivery log) (phaseOf delivery (log ++ [entry])) := by
  by_cases known : ∀ phase, Reaches delivery entry.event phase → Reached delivery log phase
  · rw [phaseOf_snoc_of_known known]
    exact .refl
  push Not at known
  obtain ⟨phase, reaches, new⟩ := known
  have now {other : Phase} (before : ¬ Reached delivery log other) (different : other ≠ phase) :
      ¬ Reached delivery (log ++ [entry]) other := by
    intro reached
    rcases reached_snoc.mp reached with earlier | last
    · exact before earlier
    · exact different (reaches_unique last reaches)
  -- What has passed and is not backed up has not been announced.
  have unannounced (passed : verdict = some .passed) (notBackedUp : ¬ Reached delivery log .backedUp) :
      ¬ Reached delivery log .announced := by
    intro announced
    rcases ordered.announced announced with failed | backedUp
    · cases passed.symm.trans failed
    · exact notBackedUp backedUp
  have reached : Reached delivery (log ++ [entry]) phase := reached_snoc.mpr (.inr reaches)
  cases phase with
  | pending => exact reaches.elim
  | saved =>
    have passed := allowed.saves reaches
    have notBackedUp := mt ordered.backedUp new
    have notAnnounced := unannounced passed notBackedUp
    have before : phaseOf delivery log = .pending := by
      simp only [phaseOf, notAnnounced, notBackedUp, new, ↓reduceIte]
    have after : phaseOf delivery (log ++ [entry]) = .saved := by
      simp only [phaseOf, now notAnnounced (by simp), now notBackedUp (by simp), reached, ↓reduceIte]
    rw [before, after]
    exact .single (.save passed)
  | backedUp =>
    have saved := allowed.backsUp reaches
    have passed := ordered.saved saved
    have notAnnounced := unannounced passed new
    have before : phaseOf delivery log = .saved := by
      simp only [phaseOf, notAnnounced, new, saved, ↓reduceIte]
    have after : phaseOf delivery (log ++ [entry]) = .backedUp := by
      simp only [phaseOf, now notAnnounced (by simp), reached, ↓reduceIte]
    rw [before, after]
    exact .single (.backUp passed)
  | announced =>
    have after : phaseOf delivery (log ++ [entry]) = .announced := if_pos reached
    rw [after]
    rcases allowed.announces reaches with failed | backedUp
    · have notSaved : ¬ Reached delivery log .saved := by
        intro saved
        cases failed.symm.trans (ordered.saved saved)
      have notBackedUp := mt ordered.backedUp notSaved
      have before : phaseOf delivery log = .pending := by
        simp only [phaseOf, new, notBackedUp, notSaved, ↓reduceIte]
      rw [before]
      exact .single (.refuse failed)
    · have before : phaseOf delivery log = .backedUp := by
        simp only [phaseOf, new, backedUp, ↓reduceIte]
      rw [before]
      exact .single (.announce (ordered.passed_of_backedUp backedUp))

end Log

/-! ## Runs of the service -/

section Runs
variable {K σ Date Process TaskId : Type} [Field K] [LinearOrder K] [DecidableEq Process] [DecidableEq TaskId]
  {setting : Setting K σ Date} {render : Page K σ → Image} {traffic : Traffic} {vanishes : Bucket → Prop}
  {initial : Bucket → String → Option S3Object} {state after : ServiceState TaskId Process} {delivery : Delivery}

/-- What sanitisation makes of the scanned file of a letter, if there is one. -/
def verdictOf (lib : Libraries K σ) (original : String → Option S3Object) (delivery : Delivery) :
    Option ValidationStatus :=
  (original delivery.filename).map fun pdfContent =>
    if (delivery.details lib pdfContent).failed then .failed else .passed

omit [DecidableEq Process] [DecidableEq TaskId] in
theorem verdictOf_eq_passed {lib : Libraries K σ} {original : String → Option S3Object} {value : S3Object}
    (sanitised : Sanitised lib original delivery value) : verdictOf lib original delivery = some .passed := by
  obtain ⟨pdfContent, _, scanned, passed, _⟩ := sanitised
  simp [verdictOf, scanned, passed]

omit [DecidableEq Process] [DecidableEq TaskId] in
/-- Calls that change neither copy of a letter and send nothing leave it where it is. -/
private theorem allowed_of_silent {verdict : Option ValidationStatus} {log : TaskLog TaskId Process} {call : TaskCall}
    {answer : call.Answer} (sanitised : ¬ call.Changes .sanitisedLetter)
    (backup : ¬ call.Changes .precompiledOriginalsBackup) (silent : ∀ data, call ≠ .send data) :
    Allowed delivery verdict log ⟨call, answer⟩ where
  saves := by
    rintro ⟨value, ⟨⟩⟩
    exact absurd rfl sanitised
  backsUp := by
    rintro ⟨⟩
    exact absurd rfl backup
  announces := by
    rintro ⟨data, ⟨⟩, _⟩
    exact absurd rfl (silent data)
  truthful := by
    rintro data ⟨⟩
    exact absurd rfl (silent data)

/-- Only deliveries own the buckets of the two copies. -/
private theorem eq_delivery_of_owns {kind : JobKind} {bucket : Bucket} (owns : kind.Owns bucket)
    (copy : bucket = .sanitisedLetter ∨ bucket = .precompiledOriginalsBackup) : kind = .delivery := by
  cases kind with
  | delivery => rfl
  | recreation | attachment | rendering | preview => rcases copy with rfl | rfl <;> simp [JobKind.Owns] at owns

omit [DecidableEq Process] in
/-- What a job may ask is allowed for every letter. -/
private theorem allowed_of_asked (consistent : Consistent traffic.deliveries)
    (delivered : traffic.deliveries delivery)
    {kind : JobKind} {job : kind.Job} {task : TaskId} {log : TaskLog TaskId Process} {call : TaskCall}
    {answer : call.Answer} (asked : (serviceContract setting traffic initial kind job).asks (history task log) call) :
    Allowed delivery (verdictOf setting.lib (initial .lettersScan) delivery) log ⟨call, answer⟩ := by
  have logged {event : TaskEvent} (member : event ∈ history task log) : ∃ entry ∈ log, entry.event = event := by
    obtain ⟨process, inLog⟩ := mem_history.mp member
    exact ⟨_, inLog, rfl⟩
  have quiet (other : kind ≠ .delivery) (silent : ∀ data, call ≠ .send data) :
      Allowed delivery (verdictOf setting.lib (initial .lettersScan) delivery) log ⟨call, answer⟩ := by
    apply allowed_of_silent _ _ silent
    · exact fun changes => other (eq_delivery_of_owns (owns_of_changes asked changes) (.inl rfl))
    · exact fun changes => other (eq_delivery_of_owns (owns_of_changes asked changes) (.inr rfl))
  match kind, job with
  | .delivery, owner =>
    obtain ⟨⟨member, _, _, asks⟩, ordered⟩ := asked
    constructor
    · rintro ⟨value, ⟨⟩⟩
      obtain ⟨_, file, sanitised⟩ := asks
      obtain rfl := consistent delivery owner delivered member (.inl file)
      exact verdictOf_eq_passed sanitised
    · rintro ⟨⟩
      obtain ⟨value, uploaded⟩ := ordered
      obtain rfl := consistent delivery owner delivered member (.inl asks.2.1)
      obtain ⟨entry, inLog, same⟩ := logged uploaded
      exact ⟨entry, inLog, value, same⟩
    · rintro ⟨data, ⟨⟩, file⟩
      obtain ⟨pdfContent, scanned, _, ⟨failed, rfl⟩ | ⟨_, rfl, _, copied⟩⟩ := asks.outcome
      · obtain rfl := consistent delivery owner delivered member (.inl file.symm)
        exact .inl (by simp [verdictOf, scanned, failed])
      · obtain rfl := consistent delivery owner delivered member (.inl file.symm)
        obtain ⟨entry, inLog, same⟩ := logged copied
        exact .inr ⟨entry, inLog, same⟩
    · rintro data ⟨⟩ file
      obtain ⟨pdfContent, scanned, _, ⟨failed, rfl⟩ | ⟨passed, rfl, _⟩⟩ := asks.outcome
      · obtain rfl := consistent delivery owner delivered member (.inl file.symm)
        simp [verdictOf, scanned, failed, Delivery.sanitiseData]
      · obtain rfl := consistent delivery owner delivered member (.inl file.symm)
        simp [verdictOf, scanned, passed, Delivery.sanitiseData]
  | .recreation, _ =>
    apply quiet (by simp)
    rintro data rfl
    exact asked
  | .attachment, _ =>
    apply quiet (by simp)
    rintro data rfl
    exact asked.2.1
  | .rendering, _ =>
    apply quiet (by simp)
    rintro data rfl
    exact asked.2
  | .preview, _ =>
    apply quiet (by simp)
    rintro data rfl
    obtain ⟨called, asked⟩ := asked
    cases called with
    | rendering => exact asked.2
    | reading => exact asked.2

/-- A step of the service adds at most one event, which is allowed for every letter. -/
private theorem allowed_of_step (premises : Premises setting render traffic vanishes initial)
    (reachable : ServiceReachable setting traffic vanishes initial state) (delivered : traffic.deliveries delivery)
    (step : Step (service vanishes) (mixed setting.program) (fun job => traffic.admits job.1 job.2) state after) :
    after.log = state.log ∨ ∃ entry, after.log = state.log ++ [entry] ∧
      Allowed delivery (verdictOf setting.lib (initial .lettersScan) delivery) state.log entry.event := by
  obtain ⟨_, tasks, _⟩ := service_reachable premises reachable
  cases step with
  | start => exact .inl rfl
  | drift => exact .inl rfl
  | @ask task job _ call answer _ _ running =>
    exact .inr ⟨_, rfl, allowed_of_asked premises.consistent delivered (tasks task _ running).2.1⟩

/-- From a reachable state on a letter lives as it should. -/
private theorem lives (premises : Premises setting render traffic vanishes initial)
    (reachable : ServiceReachable setting traffic vanishes initial state) (delivered : traffic.deliveries delivery)
    (ordered : Ordered delivery (verdictOf setting.lib (initial .lettersScan) delivery) state.log)
    (run : Relation.ReflTransGen (Step (service vanishes) (mixed setting.program)
      (fun job => traffic.admits job.1 job.2)) state after) :
    Ordered delivery (verdictOf setting.lib (initial .lettersScan) delivery) after.log ∧
      Phase.Life (verdictOf setting.lib (initial .lettersScan) delivery) (phaseOf delivery state.log)
        (phaseOf delivery after.log) := by
  induction run with
  | refl => exact ⟨ordered, .refl⟩
  | tail before step ih =>
    obtain ⟨orderedBefore, life⟩ := ih
    rcases allowed_of_step premises (reachable.trans before) delivered step with same | ⟨entry, same, allowed⟩
    · rw [same]
      exact ⟨orderedBefore, life⟩
    · rw [same]
      exact ⟨orderedBefore.snoc allowed, life.trans (life_snoc orderedBefore allowed)⟩

/-- The sanitised file of a letter is stored. -/
def IsSaved (lib : Libraries K σ) (original : String → Option S3Object) (delivery : Delivery)
    (store : Bucket → String → Option S3Object) : Prop :=
  ∃ value, Sanitised lib original delivery value ∧ store .sanitisedLetter delivery.filename = some value

/-- What is stored of a letter, and was said about it, in a phase. Backups may vanish. -/
def Phase.Holds (lib : Libraries K σ) (vanishes : Bucket → Prop) (original : String → Option S3Object)
    (delivery : Delivery) (state : ServiceState TaskId Process) : Phase → Prop
  | .pending => True
  | .saved => IsSaved lib original delivery state.shared.store
  | .backedUp => IsSaved lib original delivery state.shared.store ∧
      (¬ vanishes .precompiledOriginalsBackup → BothStored lib original state.shared.store delivery)
  | .announced =>
    (∃ entry ∈ state.log, ∃ data : SanitiseData, entry.event = Event.sent data ∧ data.filename = delivery.filename ∧
      verdictOf lib original delivery = some data.validationStatus) ∧
    (verdictOf lib original delivery = some .failed ∨ IsSaved lib original delivery state.shared.store ∧
      (¬ vanishes .precompiledOriginalsBackup → BothStored lib original state.shared.store delivery))

/-- Of a letter that was saved and backed up the files are still there. -/
private theorem stored_of_reached (premises : Premises setting render traffic vanishes initial)
    (reachable : ServiceReachable setting traffic vanishes initial state) (delivered : traffic.deliveries delivery)
    (saved : Reached delivery state.log .saved) :
    IsSaved setting.lib (initial .lettersScan) delivery state.shared.store ∧
      (Reached delivery state.log .backedUp → ¬ vanishes .precompiledOriginalsBackup →
        BothStored setting.lib (initial .lettersScan) state.shared.store delivery) := by
  obtain ⟨invariant, _, _⟩ := service_reachable premises reachable
  obtain ⟨entry, inLog, value, uploaded⟩ := saved
  obtain ⟨held, owner, member, file, sanitised⟩ := (invariant .letters).saved entry inLog _ _ uploaded
  obtain rfl := premises.consistent delivery owner delivered member (.inl file)
  refine ⟨⟨value, sanitised, held⟩, ?_⟩
  rintro ⟨_, copiedIn, copied⟩ stays
  obtain ⟨_, _, _, _, _, scanned, backup⟩ := (invariant .letters).copied stays _ copiedIn _ _ copied
  exact ServiceGuarantees.bothStored_of_sanitised sanitised held scanned backup

/-- Every letter lives as it should: it is saved, backed up and announced if it passes,
refused if it does not, and never goes back, in every run of all jobs; and what its
phase says of it is so. -/
theorem letters_live (premises : Premises setting render traffic vanishes initial)
    (reachable : ServiceReachable setting traffic vanishes initial state) (delivered : traffic.deliveries delivery)
    (run : Relation.ReflTransGen (Step (service vanishes) (mixed setting.program)
      (fun job => traffic.admits job.1 job.2)) state after) :
    Phase.Life (verdictOf setting.lib (initial .lettersScan) delivery) (phaseOf delivery state.log)
      (phaseOf delivery after.log) ∧
    (phaseOf delivery after.log).Holds setting.lib vanishes (initial .lettersScan) delivery after := by
  obtain ⟨orderedBefore, _⟩ := lives premises .refl delivered Ordered.nil reachable
  obtain ⟨ordered, life⟩ := lives premises reachable delivered orderedBefore run
  refine ⟨life, ?_⟩
  have stored := stored_of_reached premises (reachable.trans run) delivered
  have reached := reached_phaseOf delivery after.log
  cases phase : phaseOf delivery after.log with
  | pending => trivial
  | saved =>
    rw [phase] at reached
    exact (stored (reached (by simp))).1
  | backedUp =>
    rw [phase] at reached
    have backedUp := reached (by simp)
    obtain ⟨isSaved, both⟩ := stored (ordered.backedUp backedUp)
    exact ⟨isSaved, both backedUp⟩
  | announced =>
    rw [phase] at reached
    have announced := reached (by simp)
    constructor
    · obtain ⟨entry, inLog, data, sent, file⟩ := announced
      exact ⟨entry, inLog, data, sent, file, ordered.truthful entry inLog data sent file⟩
    · apply (ordered.announced announced).imp_right
      intro backedUp
      obtain ⟨isSaved, both⟩ := stored (ordered.backedUp backedUp)
      exact ⟨isSaved, both backedUp⟩

omit [DecidableEq TaskId] in
/-- A delivery that finds the scanned file and is not disturbed announces something. -/
private theorem announcing (lawful : setting.lib.Lawful render) (vanishes : Bucket → Prop) (process : Process)
    {shared : ServiceShared Process} {pdfContent : S3Object}
    (scanned : shared.store .lettersScan delivery.filename = some pdfContent) :
    ∃ events final data,
      Uninterrupted (service vanishes) process shared (sanitiseAndUploadLetter setting.lib delivery)
      events final (.ok ()) ∧ Event.sent data ∈ events ∧ data.filename = delivery.filename := by
  cases failed : (delivery.details setting.lib pdfContent).failed with
  | false =>
    obtain ⟨_, fileData, _, _, decoded⟩ := decodedFile_ok lawful (ne_true_of_eq_false failed)
    obtain ⟨events, final, ran, sent, _⟩ :=
      DeliveryRuns.delivered setting.lib vanishes process shared delivery scanned failed decoded
    exact ⟨events, final, _, ran, sent, rfl⟩
  | true =>
    refine ⟨[Event.downloaded .lettersScan delivery.filename (.ok pdfContent),
      Event.sent (delivery.sanitiseData (delivery.details setting.lib pdfContent) .failed)], shared,
      delivery.sanitiseData (delivery.details setting.lib pdfContent) .failed, .ask (.downloaded scanned) ?_, by simp,
      rfl⟩
    simp only [Program.bind, failed, ↓reduceIte]
    exact .ask .sent .done

/-- No letter is stuck: whatever has failed or was interrupted, as long as its scanned
file is there a delivery that is not disturbed brings a letter to its end. -/
theorem letters_recover (lawful : setting.lib.Lawful render) (delivered : traffic.deliveries delivery)
    {pdfContent : S3Object}
    (scanned : state.shared.store .lettersScan delivery.filename = some pdfContent) {task : TaskId}
    (free : state.tasks task = none) (process : Process) :
    ∃ after, Relation.ReflTransGen (Step (service vanishes) (mixed setting.program)
        (fun job => traffic.admits job.1 job.2)) state after ∧
      phaseOf delivery after.log = .announced := by
  obtain ⟨events, final, data, ran, sent, file⟩ := announcing lawful vanishes process scanned
  have whole : Uninterrupted (service vanishes) process state.shared (mixed setting.program ⟨.delivery, delivery⟩)
    events final ⟨.delivery, .ok ()⟩ := ran.map (Sigma.mk JobKind.delivery)
  refine ⟨_, whole.started free delivered, if_pos ⟨⟨task, process, Event.sent data⟩, ?_, data, rfl, file⟩⟩
  exact List.mem_append_right _ (List.mem_map_of_mem sent)

end Runs

section InMemory
open InMemoryLibraries LetterColours SanitisedPages ServiceGuarantees

theorem letter_verdict : verdictOf coloured (letterScan .lettersScan) letter = some .passed := by
  obtain ⟨_, passed, _⟩ := letter_passes
  have scanned : letterScan .lettersScan letter.filename = some { filedata := cmykLetter } := rfl
  simp only [verdictOf, scanned, Option.map_some, passed, Bool.false_eq_true, ↓reduceIte]

theorem letter_lives : ∃ state : ServiceState ℕ Unit,
    ServiceReachable colouredSetting letterTraffic (fun _ => False) letterScan state ∧
    phaseOf letter state.log = .announced ∧ Phase.Life (some .passed) .pending (phaseOf letter state.log) ∧
    BothStored coloured (letterScan .lettersScan) state.shared.store letter := by
  obtain ⟨state, data, reachable, _, _, _, ⟨file, _⟩, sent, _⟩ := letter_run
  obtain ⟨_, inLog⟩ := mem_history.mp sent
  have announced : phaseOf letter state.log = .announced := if_pos ⟨_, inLog, data, rfl, file⟩
  obtain ⟨life, holds⟩ := letters_live letter_premises .refl (show letterTraffic.deliveries letter from rfl) reachable
  rw [announced] at holds
  rw [show verdictOf colouredSetting.lib (letterScan .lettersScan) letter = some .passed from letter_verdict] at life
  refine ⟨state, reachable, announced, ?_, ?_⟩
  · rwa [State.initial, phaseOf_nil] at life
  · obtain ⟨_, failed | ⟨_, both⟩⟩ := holds
    · cases failed.symm.trans letter_verdict
    · exact both id

theorem letter_recovers : ∃ after : ServiceState ℕ Unit,
    Relation.ReflTransGen (Step (service fun _ => False) (mixed colouredSetting.program)
      (fun job => letterTraffic.admits job.1 job.2)) (.initial ⟨letterScan, fun _ => .empty⟩) after ∧
    phaseOf letter after.log = .announced := by
  have scanned : letterScan .lettersScan letter.filename = some { filedata := cmykLetter } := rfl
  have free : (State.initial ⟨letterScan, fun _ => .empty⟩ : ServiceState ℕ Unit).tasks 0 = none := rfl
  exact letters_recover coloured_lawful (show letterTraffic.deliveries letter from rfl) scanned free ()

end InMemory

end TemplatePreview.LetterLives
