import TemplatePreview.Recreations
import TemplatePreview.AttachmentUploads

/-! The jobs of both applications on one store, one queue and the caches of their
processes, interleaved call by call: letters are delivered and made again,
attachments are read and made again, pages are rendered and letters previewed. Each
keeps what it promises, whatever the others do. -/
namespace TemplatePreview.WholeService
open Workers ObjectStore Pdf Sanitisation LetterTasks CachedDownloads Recreations
open DeliveryRuns (Consistent Sanitised Announces BothStored Ended deliveryContract sanitiseAndUploadLetter_keeps)
open AttachmentReads (AttachmentJob AttachmentResult ReadIn AsDownloaded ReadAsDownloaded attachmentContract)
open RenderCache (Renderers RenderError RenderJob Rendered Transparent Held renderContract)
open LetterPreviews (AttachmentCall Called PreviewJob PreviewResult calledContract previewContract givenAttachments)
open PreviewEndpoints (Application)
open AttachmentUploads (attachmentUses uses_program MadeAgain)

variable {K σ Date Process TaskId : Type} [Field K] [LinearOrder K] [DecidableEq Process] [DecidableEq TaskId]

inductive JobKind where
  | delivery
  | recreation
  | attachment
  | rendering
  | preview

def JobKind.Job : JobKind → Type
  | .delivery => Delivery
  | .recreation => Recreation
  | .attachment => AttachmentJob
  | .rendering => RenderJob
  | .preview => PreviewJob

def JobKind.Result : JobKind → Type
  | .delivery | .recreation => Py Unit
  | .attachment => AttachmentResult
  | .rendering => Except RenderError MemoryFile
  | .preview => PreviewResult

/-- What the jobs are run with. -/
structure Setting (K σ Date : Type) extends Application K σ Date where
  quote : String → String

def Setting.program (setting : Setting K σ Date) (kind : JobKind) (job : kind.Job) :
    Program TaskCall Call.Answer kind.Result :=
  match kind, job with
  | .delivery, delivery => sanitiseAndUploadLetter setting.lib delivery
  | .recreation, recreation => recreation.program setting.lib
  | .attachment, job => job.program setting.lib setting.quote
  | .rendering, job => job.program setting.lib setting.renderers
  | .preview, job => job.program setting.toApplication

abbrev ServiceShared (Process : Type) : Type := Shared Bucket String S3Object String Process cacheSize

abbrev ServiceState (TaskId Process : Type) : Type :=
  State (ServiceShared Process) TaskId ((kind : JobKind) × kind.Job) Process TaskCall Call.Answer
    ((kind : JobKind) × kind.Result)

/-- The letters that are delivered, the calls that render, and the letters that are
previewed. -/
structure Traffic where
  deliveries : Delivery → Prop
  calls : RenderJob → Prop
  previews : PreviewJob → Prop

def Traffic.admits (traffic : Traffic) (kind : JobKind) (job : kind.Job) (_ : Process) : Prop :=
  match kind, job with
  | .delivery, delivery => traffic.deliveries delivery
  | .rendering, job => traffic.calls job
  | .preview, job => traffic.previews job
  | .recreation, _ | .attachment, _ => True

/-- The states of all runs from a store, with empty caches. -/
def ServiceReachable (setting : Setting K σ Date) (traffic : Traffic) (vanishes : Bucket → Prop)
    (initial : Bucket → String → Option S3Object) (state : ServiceState TaskId Process) : Prop :=
  Reachable (service vanishes) (mixed setting.program) (fun job => traffic.admits job.1 job.2)
    ⟨initial, fun _ => .empty⟩ state

/-- A job that starts runs to its end at once. -/
theorem ServiceReachable.run {vanishes : Bucket → Prop} {setting : Setting K σ Date} {traffic : Traffic}
    {initial : Bucket → String → Option S3Object} {state : ServiceState TaskId Process}
    (reachable : ServiceReachable setting traffic vanishes initial state) (kind : JobKind)
    (job : kind.Job) (task : TaskId) (process : Process) {after : ServiceShared Process} {later : List TaskEvent}
    {result : kind.Result}
    (free : state.tasks task = none) (admitted : traffic.admits kind job process)
    (ran : Uninterrupted (service vanishes) process state.shared (setting.program kind job) later after result) :
    ServiceReachable setting traffic vanishes initial
      ⟨after, Function.update state.tasks task (some ⟨⟨kind, job⟩, process, .done ⟨kind, result⟩⟩),
        state.log ++ later.map (⟨task, process, ·⟩)⟩ := by
  refine Reachable.run task process reachable free ?_ ran.mixed
  exact admitted

/-! ## Contracts -/

section Contracts
variable (setting : Setting K σ Date) (traffic : Traffic) (vanishes : Bucket → Prop)
  (initial : Bucket → String → Option S3Object)

def serviceContract (kind : JobKind) (job : kind.Job) : Contract TaskCall Call.Answer :=
  match kind, job with
  | .delivery, delivery =>
    (deliveryContract setting.lib (initial .lettersScan) traffic.deliveries delivery).both (storesFirst delivery)
  | .recreation, recreation => recreationContract setting.lib recreation
  | .attachment, job => (attachmentContract job).both (attachmentUses setting.lib setting.quote)
  | .rendering, job => renderContract setting.lib setting.renderers traffic.calls job
  | .preview, _ => previewContract setting.toApplication traffic.calls

def servicePost (kind : JobKind) (job : kind.Job) (history : List TaskEvent) (result : kind.Result) : Prop :=
  match kind, job, result with
  | .delivery, delivery, result => Ended delivery history result
  | .recreation, recreation, result => Remade setting.lib recreation history result
  | .attachment, job, result => job.post setting.lib history result
  | .rendering, job, result => Transparent setting.lib setting.renderers job history result
  | .preview, job, result => job.post setting.toApplication history result

inductive Part where
  | letters
  | attachments
  | renderings

def servicePart (part : Part) (shared : ServiceShared Process) (log : TaskLog TaskId Process) : Prop :=
  match part with
  | .letters => Letters setting.lib vanishes (initial .lettersScan) (initial .precompiledOriginalsBackup)
    traffic.deliveries shared log
  | .attachments => Provenance encoded initial .letterAttachment shared log
  | .renderings => Held setting.lib setting.renderers traffic.calls shared

end Contracts

section Programs
variable {setting : Setting K σ Date} {render : Page K σ → Image} {traffic : Traffic}
  {initial : Bucket → String → Option S3Object}

omit [DecidableEq Process] in
/-- Every job keeps to the contract of its kind. -/
private theorem service_keeps (lawful : setting.lib.Lawful render)
    (within : ∀ job, traffic.previews job → job.RendersWithin setting.toApplication traffic.calls) (kind : JobKind)
    (job : kind.Job) (process : Process) (admitted : traffic.admits kind job process) :
    (serviceContract setting traffic initial kind job).Keeps (servicePost setting kind job) []
      (setting.program kind job) :=
  match kind, job with
  | .delivery, delivery => (Contract.keeps_both (sanitiseAndUploadLetter_keeps lawful admitted)
    (delivery_storesFirst delivery)).mono fun _ _ both => both.1
  | .recreation, recreation => recreation_keeps lawful recreation
  | .attachment, job => (Contract.keeps_both (AttachmentReads.program_keeps job) (uses_program job)).mono
      fun _ _ both => both.1
  | .rendering, _ => RenderCache.program_keeps admitted
  | .preview, job => LetterPreviews.preview_keeps (within job admitted)

end Programs

/-! ## Calls of one kind and the buckets of another -/

section Calls
variable {setting : Setting K σ Date} {traffic : Traffic} {vanishes : Bucket → Prop}
  {initial : Bucket → String → Option S3Object} {history : List TaskEvent} {call : TaskCall}

/-- The buckets that jobs of a kind may change. -/
def JobKind.Owns : JobKind → Bucket → Prop
  | .delivery, bucket => bucket = .sanitisedLetter ∨ bucket = .precompiledOriginalsBackup
  | .recreation, bucket => bucket = .lettersPdf
  | .attachment, bucket => bucket = .letterAttachment
  | .rendering, bucket => bucket = .letterCache
  | .preview, bucket => bucket = .letterCache ∨ bucket = .letterAttachment

/-- The bucket of what a preview calls. -/
def ownBucket : Called → Bucket
  | .rendering _ => .letterCache
  | .reading _ _ => .letterAttachment

omit [Field K] [LinearOrder K] [DecidableEq Process] in
private theorem bucket_of_called {called : Called} {bucket : Bucket}
    (asked : (calledContract setting.toApplication traffic.calls called).asks history call)
    (changes : call.Changes bucket) : bucket = ownBucket called := by
  cases called with
  | rendering job =>
    obtain ⟨_, asks⟩ := asked
    cases call with
    | upload | remember =>
      obtain ⟨_, _, same, _⟩ := asks
      exact changes.symm.trans same
    | copy => exact asks.elim
    | _ => exact changes.elim
  | reading serviceId attachmentId =>
    obtain ⟨_, asks⟩ := asked
    cases call with
    | upload | remember => exact changes.symm.trans asks
    | copy => exact asks.elim
    | _ => exact changes.elim

/-- A job changes only the buckets of its kind. -/
theorem owns_of_changes {kind : JobKind} {job : kind.Job} {bucket : Bucket}
    (asked : (serviceContract setting traffic initial kind job).asks history call)
    (changes : call.Changes bucket) : kind.Owns bucket := by
  match kind, job with
  | .delivery, _ =>
    obtain ⟨⟨_, _, _, asks⟩, _⟩ := asked
    cases call with
    | upload => exact .inl (changes ▸ asks.1)
    | copy => exact .inr (changes ▸ asks.2.2.1)
    | remember => exact asks.elim
    | _ => exact changes.elim
  | .recreation, _ =>
    cases call with
    | upload => exact changes ▸ asked.1
    | copy | remember => exact asked.elim
    | _ => exact changes.elim
  | .attachment, _ =>
    obtain ⟨_, asks, _⟩ := asked
    cases call with
    | upload | remember => exact changes ▸ asks
    | copy => exact asks.elim
    | _ => exact changes.elim
  | .rendering, job =>
    have called : (calledContract setting.toApplication traffic.calls (.rendering job)).asks history call := asked
    exact bucket_of_called called changes
  | .preview, _ =>
    obtain ⟨called, asked⟩ := asked
    have own := bucket_of_called asked changes
    cases called with
    | rendering => exact .inl own
    | reading => exact .inr own

/-- No job copies over an attachment or remembers of one what it has not downloaded. -/
private theorem faithful_to_attachments {kind : JobKind} {job : kind.Job}
    (asked : (serviceContract setting traffic initial kind job).asks history call) :
    call.Faithful encoded .letterAttachment history := by
  have unowned (foreign : ¬ kind.Owns .letterAttachment) : call.Faithful encoded .letterAttachment history :=
    .of_unchanging fun changes => foreign (owns_of_changes asked changes)
  match kind, job with
  | .attachment, _ => exact AttachmentReads.faithful_of_asks asked.1
  | .preview, _ =>
    obtain ⟨called, asked⟩ := asked
    cases called with
    | rendering => exact .of_unchanging fun changes => by cases bucket_of_called asked changes
    | reading => exact AttachmentReads.faithful_of_asks asked.1
  | .delivery, _ | .recreation, _ | .rendering, _ => exact unowned (by simp [JobKind.Owns])

/-- Attachments are uploaded only when they were made again. -/
theorem madeAgain_of_upload {kind : JobKind} {job : kind.Job} {key : String} {value : S3Object}
    (asked : (serviceContract setting traffic initial kind job).asks history (.upload .letterAttachment key value)) :
    MadeAgain setting.lib setting.quote history key value := by
  have owned : kind.Owns .letterAttachment := owns_of_changes asked rfl
  match kind, job with
  | .attachment, _ => exact asked.2.2
  | .preview, _ =>
    obtain ⟨called, asked⟩ := asked
    cases called with
    | rendering => cases bucket_of_called asked rfl
    | reading =>
      obtain ⟨_, _, _, ⟨⟩, _⟩ := asked.1
  | .delivery, _ | .recreation, _ | .rendering, _ => simp [JobKind.Owns] at owned

end Calls

section Verification
variable {setting : Setting K σ Date} {render : Page K σ → Image} {traffic : Traffic} {vanishes : Bucket → Prop}
  {initial : Bucket → String → Option S3Object}

/-- The texts that are rendered have different digests. -/
def NoCollisions (setting : Setting K σ Date) (traffic : Traffic) : Prop :=
  Set.InjOn setting.renderers.sha1 {text | ∃ source,
    Rendered setting.lib setting.renderers traffic.calls source ∧ source.hashed = text}

omit [Field K] [LinearOrder K] in
/-- What rendering relies on, and that its calls keep the render cache. -/
private theorem rendering_answer (noCollisions : NoCollisions setting traffic) {shared after : ServiceShared Process}
    {log : TaskLog TaskId Process} {task : TaskId} {job : RenderJob} {process : Process} {call : TaskCall}
    {answer : call.Answer} (held : Held setting.lib setting.renderers traffic.calls shared)
    (single : ∀ entry ∈ log, entry.task = task → entry.process = process)
    (asked : (renderContract setting.lib setting.renderers traffic.calls job).asks (history task log) call)
    (answered : Answers shared process call answer after) :
    (renderContract setting.lib setting.renderers traffic.calls job).relies call answer ∧
      Held setting.lib setting.renderers traffic.calls after :=
  Verified.calls (RenderCache.calls_verified noCollisions) shared log task job process call answer after
    held single asked answered

omit [Field K] [LinearOrder K] [DecidableEq Process] in
/-- Objects and entries that get lost were rendered. -/
private theorem held_shrinks {shared after : ServiceShared Process}
    (held : Held setting.lib setting.renderers traffic.calls shared) (shrinks : Shrinks .letterCache shared after) :
    Held setting.lib setting.renderers traffic.calls after where
  store key object found := held.store key object (shrinks.store key object found)
  caches process key text found := held.caches process key text (shrinks.caches process key text found)

omit [Field K] [LinearOrder K] [DecidableEq TaskId] in
/-- What reading an attachment relies on. -/
private theorem reading_answer {shared after : ServiceShared Process} {log : TaskLog TaskId Process}
    {job : AttachmentJob} {process : Process} {call : TaskCall} {answer : call.Answer}
    (provenance : Provenance encoded initial .letterAttachment shared log) (asked : AttachmentCall call)
    (answered : Answers shared process call answer after) : (attachmentContract job).relies call answer := by
  have lookedUp : ∀ bucket, (∃ key, call = .lookup bucket key) → Provenance encoded initial bucket shared log := by
    rintro _ ⟨_, rfl⟩
    cases asked
    exact provenance
  exact AttachmentReads.relies_of_provenance lookedUp answered

private theorem service_relied (noCollisions : NoCollisions setting traffic) (kind : JobKind) :
    Relied (service vanishes) (serviceContract setting traffic initial kind)
      (Parts (servicePart setting traffic vanishes initial : Part → ServiceShared Process →
        TaskLog TaskId Process → Prop)) := by
  intro shared log task job process call answer after invariant single asked answered
  match kind, job with
  | .delivery, delivery =>
    refine ⟨?_, trivial⟩
    cases answered with
    | downloaded held =>
      rintro rfl _ ⟨⟩
      exact (invariant .letters).scanned _ _ held
    | downloadFailed =>
      rintro rfl _ ⟨⟩
    | _ => trivial
  | .recreation, recreation => trivial
  | .attachment, job => exact ⟨reading_answer (invariant .attachments) asked.2.1 answered, trivial⟩
  | .rendering, job => exact (rendering_answer noCollisions (invariant .renderings) single asked answered).1
  | .preview, job =>
    intro called _ asked
    cases called with
    | rendering => exact (rendering_answer noCollisions (invariant .renderings) single asked answered).1
    | reading => exact ⟨reading_answer (invariant .attachments) asked.2 answered, trivial⟩

private theorem service_kept (consistent : Consistent traffic.deliveries)
    (noCollisions : NoCollisions setting traffic)
    (kind : JobKind) (part : Part) :
    Preserves (service vanishes) (serviceContract setting traffic initial kind)
      (Parts (servicePart setting traffic vanishes initial : Part → ServiceShared Process →
        TaskLog TaskId Process → Prop))
      (servicePart setting traffic vanishes initial part) := by
  intro shared log task job process call answer after invariant single asked answered
  have quiet (bucket : Bucket) (foreign : ¬ kind.Owns bucket) : ¬ call.Changes bucket :=
    fun changes => foreign (owns_of_changes asked changes)
  cases part with
  | letters =>
    match kind, job with
    | .delivery, delivery => exact (invariant .letters).answer consistent asked.1 asked.2 answered
    | .recreation, _ | .attachment, _ | .rendering, _ | .preview, _ =>
      exact (invariant .letters).frame (quiet .lettersScan (by simp [JobKind.Owns]))
        (quiet .sanitisedLetter (by simp [JobKind.Owns])) (quiet .precompiledOriginalsBackup (by simp [JobKind.Owns]))
        answered
  | attachments => exact (invariant .attachments).answer single (faithful_to_attachments asked) answered
  | renderings =>
    match kind, job with
    | .rendering, job => exact (rendering_answer noCollisions (invariant .renderings) single asked answered).2
    | .preview, job =>
      obtain ⟨called, asked⟩ := asked
      cases called with
      | rendering => exact (rendering_answer noCollisions (invariant .renderings) single asked answered).2
      | reading =>
        refine held_shrinks (invariant .renderings) (answered.unchanged fun changes => ?_).toShrinks
        cases bucket_of_called asked changes
    | .delivery, _ | .recreation, _ | .attachment, _ =>
      exact held_shrinks (invariant .renderings)
        (answered.unchanged (quiet .letterCache (by simp [JobKind.Owns]))).toShrinks

/-- What a run starts from and what it relies on. That the libraries are functions is
one of its assumptions: ghostscript and WeasyPrint make the same of the same input in
every process and at every time, so that a file has one sanitised form. Besides,
letters have names and ids of their own, the documents that are rendered do not
collide under sha1, previews render documents among them, and the render cache is
empty at first. Sanitised letters and attachments stay in their buckets; scanned
files, backups and rendered files may vanish. -/
structure Premises (setting : Setting K σ Date) (render : Page K σ → Image) (traffic : Traffic)
    (vanishes : Bucket → Prop) (initial : Bucket → String → Option S3Object) : Prop where
  lawful : setting.lib.Lawful render
  consistent : Consistent traffic.deliveries
  noCollisions : NoCollisions setting traffic
  rendered : ∀ job, traffic.previews job → job.RendersWithin setting.toApplication traffic.calls
  sanitised : ¬ vanishes .sanitisedLetter
  attachments : ¬ vanishes .letterAttachment
  unrendered : ∀ key, initial .letterCache key = none

/-- All kinds of jobs fit together. -/
private theorem service_verified (premises : Premises setting render traffic vanishes initial) :
    Verified (service vanishes) (mixed setting.program) (fun job => traffic.admits job.1 job.2)
      (fun job => serviceContract setting traffic initial job.1 job.2) (mixedPost (servicePost setting))
      (Parts (servicePart setting traffic vanishes initial : Part → ServiceShared Process → TaskLog TaskId Process →
        Prop)) := by
  refine verified_mixture (service_keeps premises.lawful premises.rendered) (service_relied premises.noCollisions)
    (service_kept premises.consistent premises.noCollisions) fun part shared log after holds moved => ?_
  cases part with
  | letters => exact Letters.drift holds premises.sanitised moved
  | attachments => exact Provenance.drift holds premises.attachments moved
  | renderings => exact held_shrinks holds (moved.shrinks _)

/-- In every state of every run all parts of the invariant hold, and every task keeps
to its contract. -/
theorem service_reachable (premises : Premises setting render traffic vanishes initial)
    {state : ServiceState TaskId Process} (reachable : ServiceReachable setting traffic vanishes initial state) :
    Parts (servicePart setting traffic vanishes initial) state.shared state.log ∧
      Tasks (fun job => serviceContract setting traffic initial job.1 job.2) (mixedPost (servicePost setting)) state ∧
      Placed state := by
  refine verified_reachable (service_verified premises) (fun part => ?_) reachable
  cases part with
  | letters =>
    exact ⟨fun _ _ found => found, by simp, fun _ _ found => .inl found, by simp, fun _ => by simp⟩
  | attachments => exact .nil
  | renderings =>
    exact ⟨fun key object found => by simp [premises.unrendered] at found, fun _ _ _ found => by simp at found⟩

end Verification

end TemplatePreview.WholeService
