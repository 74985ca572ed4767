import TemplatePreview.WholeService

/-! What every job may count on while all others run. -/
namespace TemplatePreview.ServiceGuarantees
open Workers ObjectStore Pdf Sanitisation LetterTasks CachedDownloads Recreations
open DeliveryRuns (Consistent Sanitised Announces BothStored Ended deliveryContract sanitiseAndUploadLetter_keeps
  delivered letter letterScan letter_passes)
open AttachmentReads (AttachmentJob AttachmentResult ReadIn AsDownloaded ReadAsDownloaded attachmentContract
  read_as_downloaded)
open RenderCache (Renderers RenderError RenderJob Rendered Transparent Held renderContract)
open LetterPreviews (AttachmentCall Called PreviewJob PreviewResult calledContract previewContract givenAttachments)
open PreviewEndpoints (Application)
open AttachmentUploads (attachmentUses uses_program)
open SanitisedPages (Pagewise Normalises afterJobs)

open WholeService

variable {K σ Date Process TaskId : Type} [Field K] [LinearOrder K] [DecidableEq Process] [DecidableEq TaskId]

/-! ## What every job may count on -/

section Results
variable {setting : Setting K σ Date} {render : Page K σ → Image} {traffic : Traffic} {vanishes : Bucket → Prop}
  {initial : Bucket → String → Option S3Object} {state : ServiceState TaskId Process}

/-- The message of a delivery and what it was sent after. -/
private theorem announced (premises : Premises setting render traffic vanishes initial)
    (reachable : ServiceReachable setting traffic vanishes initial state) {task : TaskId} {delivery : Delivery}
    {process : Process} {remaining : Program TaskCall Call.Answer ((kind : JobKind) × kind.Result)}
    (started : state.tasks task = some ⟨⟨.delivery, delivery⟩, process, remaining⟩) {data : SanitiseData}
    (sent : Event.sent data ∈ history task state.log) :
    traffic.deliveries delivery ∧ ∃ before, (∀ event ∈ before, event ∈ history task state.log) ∧
      Announces setting.lib (initial .lettersScan) delivery before data := by
  obtain ⟨_, tasks, _⟩ := service_reachable premises reachable
  obtain ⟨earlier, later, same, ⟨asks, _⟩, _⟩ := (tasks task _ started).1.of_mem sent
  refine ⟨asks.1, earlier, fun event member => ?_, asks.2.2.2⟩
  rw [same]
  exact List.mem_append_left _ member

omit [DecidableEq Process] [DecidableEq TaskId] in
/-- A letter whose sanitised file and whose original are stored. -/
theorem bothStored_of_sanitised {lib : Libraries K σ} {original : String → Option S3Object}
    {store : Bucket → String → Option S3Object} {delivery : Delivery} {value pdfContent : S3Object}
    (sanitised : Sanitised lib original delivery value)
    (held : store .sanitisedLetter delivery.filename = some value)
    (scanned : original delivery.filename = some pdfContent)
    (backup : store .precompiledOriginalsBackup delivery.backupFilename = some pdfContent) :
    BothStored lib original store delivery := by
  obtain ⟨_, text, rescanned, _, written, decoded, metadata⟩ := sanitised
  cases scanned.symm.trans rescanned
  cases value
  cases metadata
  exact ⟨pdfContent, text, _, scanned, written, decoded, held, backup⟩

/-- What a delivery has announced as passed is stored. -/
private theorem announced_stored (premises : Premises setting render traffic vanishes initial)
    (reachable : ServiceReachable setting traffic vanishes initial state) {task : TaskId} {delivery : Delivery}
    {before : List TaskEvent} (included : ∀ event ∈ before, event ∈ history task state.log) {data : SanitiseData}
    (announces : Announces setting.lib (initial .lettersScan) delivery before data)
    (passed : data.validationStatus = .passed) :
    (∃ value, Sanitised setting.lib (initial .lettersScan) delivery value ∧
      state.shared.store .sanitisedLetter delivery.filename = some value) ∧
    (¬ vanishes .precompiledOriginalsBackup →
      BothStored setting.lib (initial .lettersScan) state.shared.store delivery) := by
  obtain ⟨invariant, _, _⟩ := service_reachable premises reachable
  obtain ⟨pdfContent, scanned, _, failing | ⟨_, _, ⟨value, sanitised, uploaded⟩, copied⟩⟩ := announces.outcome
  · rw [failing.2] at passed
    cases passed
  obtain ⟨_, uploaded⟩ := mem_history.mp (included _ uploaded)
  have held := ((invariant .letters).saved _ uploaded _ _ rfl).1
  refine ⟨⟨value, sanitised, held⟩, fun stays => ?_⟩
  obtain ⟨_, copied⟩ := mem_history.mp (included _ copied)
  obtain ⟨_, _, _, _, _, rescanned, backup⟩ := (invariant .letters).copied stays _ copied _ _ rfl
  exact bothStored_of_sanitised sanitised held rescanned backup

/-- The jobs do not disturb one another. Whatever else runs, in any order and in the
same processes: a letter that was announced as passed is stored sanitised, and backed
up unless backups vanish; rendering gives what it would give without a cache; an
attachment that was read or stitched to a letter is what its process had downloaded. -/
theorem jobs_do_not_interfere (premises : Premises setting render traffic vanishes initial)
    (reachable : ServiceReachable setting traffic vanishes initial state) :
    (∀ task delivery process remaining data,
      state.tasks task = some ⟨⟨.delivery, delivery⟩, process, remaining⟩ →
      Event.sent data ∈ history task state.log → data.validationStatus = .passed →
      (∃ value, Sanitised setting.lib (initial .lettersScan) delivery value ∧
        state.shared.store .sanitisedLetter delivery.filename = some value) ∧
      (¬ vanishes .precompiledOriginalsBackup →
        BothStored setting.lib (initial .lettersScan) state.shared.store delivery)) ∧
    (∀ task (job : RenderJob) process file,
      state.tasks task = some ⟨⟨.rendering, job⟩, process, .done ⟨.rendering, Except.ok file⟩⟩ →
      job.uncached setting.lib setting.renderers = .ok file) ∧
    (∀ task process serviceId attachmentId file,
      state.tasks task = some ⟨⟨.attachment, AttachmentJob.getAttachmentPdf serviceId attachmentId⟩, process,
        .done ⟨.attachment, AttachmentResult.pdf (.ok file)⟩⟩ →
      ReadAsDownloaded initial state.log task process serviceId attachmentId file) ∧
    (∀ task process serviceId templatedLetterPdf attachmentId pdf,
      state.tasks task = some
        ⟨⟨.attachment, AttachmentJob.addAttachmentToLetter serviceId templatedLetterPdf attachmentId⟩, process,
          .done ⟨.attachment, AttachmentResult.stitchedPdf (.ok pdf)⟩⟩ →
      ∃ file, ReadAsDownloaded initial state.log task process serviceId attachmentId file ∧
        pdf = stitchPdfs setting.lib templatedLetterPdf file) := by
  obtain ⟨invariant, tasks, placed⟩ := service_reachable premises reachable
  refine ⟨fun task delivery process remaining data started sent passed => ?_,
    fun task job process file finished => ?_, fun task process serviceId attachmentId file finished => ?_,
    fun task process serviceId templatedLetterPdf attachmentId pdf finished => ?_⟩
  · obtain ⟨_, before, included, announces⟩ := announced premises reachable started sent
    exact announced_stored premises reachable included announces passed
  · obtain ⟨own, same, transparent⟩ := post_of_finished tasks finished
    cases same
    exact transparent file rfl
  · obtain ⟨own, same, reads⟩ := post_of_finished tasks finished
    cases same
    exact read_as_downloaded (invariant .attachments) (placed.single finished) (fun _ member => member)
      (reads file rfl)
  · obtain ⟨own, same, reads⟩ := post_of_finished tasks finished
    cases same
    obtain ⟨file, read, stitched⟩ := reads pdf rfl
    exact ⟨file, read_as_downloaded (invariant .attachments) (placed.single finished) (fun _ member => member) read,
      stitched⟩

/-- All messages about one letter are the same, however often it was delivered. -/
theorem announcements_agree (premises : Premises setting render traffic vanishes initial)
    (reachable : ServiceReachable setting traffic vanishes initial state) {task other : TaskId}
    {delivery redelivery : Delivery} {process otherProcess : Process}
    {remaining otherRemaining : Program TaskCall Call.Answer ((kind : JobKind) × kind.Result)}
    (started : state.tasks task = some ⟨⟨.delivery, delivery⟩, process, remaining⟩)
    (restarted : state.tasks other = some ⟨⟨.delivery, redelivery⟩, otherProcess, otherRemaining⟩)
    (letter : delivery.filename = redelivery.filename ∨ delivery.notificationId = redelivery.notificationId)
    {data again : SanitiseData} (sent : Event.sent data ∈ history task state.log)
    (resent : Event.sent again ∈ history other state.log) : data = again := by
  obtain ⟨member, _, _, announces⟩ := announced premises reachable started sent
  obtain ⟨otherMember, _, _, reannounces⟩ := announced premises reachable restarted resent
  obtain rfl := premises.consistent delivery redelivery member otherMember letter
  obtain ⟨pdfContent, scanned, _, outcome⟩ := announces.outcome
  obtain ⟨content, rescanned, _, reoutcome⟩ := reannounces.outcome
  cases scanned.symm.trans rescanned
  rcases outcome with ⟨failed, rfl⟩ | ⟨passed, rfl, _⟩
  · rcases reoutcome with ⟨_, rfl⟩ | ⟨passed, _⟩
    · rfl
    · exact absurd failed passed
  · rcases reoutcome with ⟨failed, _⟩ | ⟨_, rfl, _⟩
    · exact absurd failed passed
    · rfl

/-- Whatever else runs, the pages of a letter are counted, and the letter is made, as
without any cache, with the attachment that its process had downloaded. -/
theorem previews_are_exact (premises : Premises setting render traffic vanishes initial)
    (reachable : ServiceReachable setting traffic vanishes initial state) :
    (∀ task process json counts,
      state.tasks task = some ⟨⟨.preview, PreviewJob.pageCount json⟩, process,
        .done ⟨.preview, PreviewResult.counts (.ok counts)⟩⟩ →
      ∀ attachmentPdf, TemplatedLetters.pageCount setting.lib (givenAttachments setting.toApplication attachmentPdf)
        json = .ok counts) ∧
    (∀ task process json page pdf,
      state.tasks task = some ⟨⟨.preview, PreviewJob.letterPdf json page⟩, process,
        .done ⟨.preview, PreviewResult.pdf (.ok pdf)⟩⟩ →
      ∃ attachmentPdf, TemplatedLetters.preparePdf setting.lib
          (givenAttachments setting.toApplication attachmentPdf) json = .ok pdf ∧
        ∀ serviceId attachmentId file, attachmentPdf serviceId attachmentId = .ok file →
          ∃ downloader, AsDownloaded initial state.log downloader process serviceId attachmentId file) := by
  obtain ⟨invariant, tasks, placed⟩ := service_reachable premises reachable
  refine ⟨fun task process json counts finished => ?_, fun task process json page pdf finished => ?_⟩
  · obtain ⟨own, same, counted⟩ := post_of_finished tasks finished
    cases same
    exact counted counts rfl
  · obtain ⟨own, same, made⟩ := post_of_finished tasks finished
    cases same
    obtain ⟨attachmentPdf, reads, prepared⟩ := made pdf rfl
    refine ⟨attachmentPdf, prepared, fun serviceId attachmentId file given => ?_⟩
    obtain ⟨earlier, own, whole, read⟩ := reads serviceId attachmentId file given
    obtain ⟨downloader, downloaded, _⟩ := read_as_downloaded (invariant .attachments) (placed.single finished)
      (fun event member => by rw [whole]; exact List.mem_append_right _ member) read
    exact ⟨downloader, downloaded⟩

/-- A delivered letter is made again from its backup as it was delivered: what is
stored is what the bucket of sanitised letters holds, and nothing else prevents it
than a failed transfer. -/
theorem recreations_restore_letters (premises : Premises setting render traffic vanishes initial)
    (reachable : ServiceReachable setting traffic vanishes initial state) {task : TaskId} {recreation : Recreation}
    {process : Process} {remaining : Program TaskCall Call.Answer ((kind : JobKind) × kind.Result)}
    (started : state.tasks task = some ⟨⟨.recreation, recreation⟩, process, remaining⟩) {delivery : Delivery}
    (delivered : traffic.deliveries delivery) (again : recreation.Of delivery)
    (unused : initial .precompiledOriginalsBackup delivery.backupFilename = none) :
    (∀ bucket key value answer, Event.uploaded bucket key value answer ∈ history task state.log →
      bucket = .lettersPdf ∧ key = recreation.fileLocation ∧
      Sanitised setting.lib (initial .lettersScan) delivery value ∧
      state.shared.store .sanitisedLetter delivery.filename = some value) ∧
    (∀ result, remaining = .done result → (∀ event ∈ history task state.log, ¬ Event.Failed event) →
      ∃ value, Event.uploaded .lettersPdf recreation.fileLocation value (.ok ()) ∈ history task state.log) := by
  obtain ⟨invariant, tasks, _⟩ := service_reachable premises reachable
  have backup : recreation.backupFilename = delivery.backupFilename :=
    congrArg (· ++ ".pdf") again.1
  have restored {pdfContent : S3Object}
      (found : Event.downloaded .precompiledOriginalsBackup recreation.backupFilename (.ok pdfContent) ∈
        history task state.log) :
      initial .lettersScan delivery.filename = some pdfContent ∧
        ∃ value, Sanitised setting.lib (initial .lettersScan) delivery value ∧
          state.shared.store .sanitisedLetter delivery.filename = some value := by
    obtain ⟨_, inLog⟩ := mem_history.mp found
    have backedUp := (invariant .letters).restored _ inLog _ _ rfl
    rw [backup] at backedUp
    exact backedUp.of_delivery premises.consistent delivered unused
  refine ⟨fun bucket key value answer uploaded => ?_, fun result ended unfailed => ?_⟩
  · obtain ⟨earlier, later, same, ⟨rfl, rfl, pdfContent, found, resanitised⟩, _⟩ :=
      (tasks task _ started).1.of_mem uploaded
    obtain ⟨scanned, held, sanitised, stored⟩ := restored (by rw [same]; exact List.mem_append_left _ found)
    have made := resanitised.sanitised again scanned
    refine ⟨rfl, rfl, made, ?_⟩
    rwa [DeliveryRuns.sanitised_unique made sanitised]
  · subst ended
    obtain ⟨_, rfl, ⟨event, member, failed⟩ | ⟨pdfContent, found, failing | stored⟩⟩ :=
      post_of_finished tasks started
    · exact absurd failed (unfailed event member)
    · obtain ⟨scanned, _, ⟨content, _, rescanned, passed, _⟩, _⟩ := restored found
      cases scanned.symm.trans rescanned
      rw [Recreation.details, again.2] at failing
      exact absurd failing passed
    · exact stored

/-- How a stored attachment is described: as what it is, made again from a backup that
some task has read. -/
def Described (setting : Setting K σ Date) (rewrite : GsJob → Page K σ → Page K σ) (log : TaskLog TaskId Process)
    (key : String) (value : S3Object) : Prop :=
  ∃ serviceId attachmentId originalFilename pdfContent jobs pages,
    key = getTransientLetterFileLocation serviceId attachmentId ∧
    (∃ entry ∈ log, entry.event =
      Event.downloaded .precompiledOriginalsBackup (attachmentId ++ ".pdf") (.ok pdfContent)) ∧
    Normalises jobs ∧ setting.lib.readPages pdfContent.filedata = .ok pages ∧
    setting.lib.readPages value.filedata = .ok (pages.map (afterJobs rewrite jobs)) ∧
    value.metadata = [("page_count", toString pages.length), ("filename", setting.quote originalFilename)]

/-- An attachment that was uploaded is described. -/
private theorem described_of_uploaded (premises : Premises setting render traffic vanishes initial)
    {rewrite : GsJob → Page K σ → Page K σ} (pagewise : Pagewise setting.lib rewrite)
    (reachable : ServiceReachable setting traffic vanishes initial state)
    {entry : Entry TaskId Process TaskCall Call.Answer}
    {key : String} {value : S3Object} {answer : Except Failure Unit} (member : entry ∈ state.log)
    (uploaded : entry.event = Event.uploaded .letterAttachment key value answer) :
    Described setting rewrite state.log key value := by
  obtain ⟨_, tasks, placed⟩ := service_reachable premises reachable
  obtain ⟨running, earlier, later, _, whole, asked⟩ := asked_of_logged tasks placed member
  rw [uploaded] at asked whole
  obtain ⟨serviceId, attachmentId, originalFilename, pdfContent, same, found, remade⟩ := madeAgain_of_upload asked
  obtain ⟨jobs, pages, normalises, read, readAfter, metadata⟩ := remade.described premises.lawful pagewise
  have inHistory : Event.downloaded .precompiledOriginalsBackup (attachmentId ++ ".pdf") (.ok pdfContent) ∈
      history entry.task state.log := by
    rw [whole]
    exact List.mem_append_left _ found
  obtain ⟨process, logged⟩ := mem_history.mp inHistory
  exact ⟨serviceId, attachmentId, originalFilename, pdfContent, jobs, pages, same, ⟨_, logged, rfl⟩, normalises, read,
    readAfter, metadata⟩

/-- Attachments are what they are said to be: every object that the bucket holds, or
that any job has downloaded from it, was there initially, or has the pages of a
backup, and the number of its pages beside it. -/
theorem attachments_are_described (premises : Premises setting render traffic vanishes initial)
    {rewrite : GsJob → Page K σ → Page K σ} (pagewise : Pagewise setting.lib rewrite)
    (reachable : ServiceReachable setting traffic vanishes initial state) {key : String} {value : S3Object} :
    (state.shared.store .letterAttachment key = some value →
      initial .letterAttachment key = some value ∨ Described setting rewrite state.log key value) ∧
    (∀ entry ∈ state.log, entry.event = Event.downloaded .letterAttachment key (.ok value) →
      initial .letterAttachment key = some value ∨ Described setting rewrite state.log key value) := by
  obtain ⟨invariant, _, _⟩ := service_reachable premises reachable
  have provenance := invariant .attachments
  obtain ⟨held, fetched⟩ :
      (∀ value, state.shared.store .letterAttachment key = some value →
        initial .letterAttachment key = some value ∨ Described setting rewrite state.log key value) ∧
      ∀ task process value, Fetched initial state.log task process .letterAttachment key value →
        initial .letterAttachment key = some value ∨ Described setting rewrite state.log key value := by
    apply provenance.holds
    · intro value before
      exact .inl before
    · intro entry member value same
      exact .inr (described_of_uploaded premises pagewise reachable member same)
  constructor
  · exact held value
  · rintro ⟨task, process, event⟩ member downloaded
    subst downloaded
    exact fetched task process value (provenance.downloads _ _ _ _ member)

end Results

/-! ## A letter that is delivered twice and made again -/

section Uninterrupted
variable (lib : Libraries K σ) (vanishes : Bucket → Prop) (process : Process) (shared : ServiceShared Process)
  {pdfContent : S3Object} {fileData : Bytes}

omit [DecidableEq TaskId] in
theorem remade (recreation : Recreation)
    (backup : shared.store .precompiledOriginalsBackup recreation.backupFilename = some pdfContent)
    (passed : (recreation.details lib pdfContent).failed = false)
    (decoded : decodedFile (recreation.details lib pdfContent) = .ok fileData) :
    ∃ events after, Uninterrupted (service vanishes) process shared (recreation.program lib) events after (.ok ()) ∧
      ∀ event ∈ events, ¬ Event.Failed event := by
  refine ⟨[Event.downloaded .precompiledOriginalsBackup recreation.backupFilename (.ok pdfContent),
    Event.uploaded .lettersPdf recreation.fileLocation { filedata := fileData } (.ok ())],
    { shared with store := write shared.store .lettersPdf recreation.fileLocation (some { filedata := fileData }) },
    .ask (.downloaded backup) ?_, by simp⟩
  simp only [Program.bind, Recreation.details] at passed decoded ⊢
  simp only [passed, decoded, Bool.false_eq_true, ↓reduceIte]
  exact .ask .uploaded .done

end Uninterrupted

section InMemory
open InMemoryLibraries LetterColours SanitisedPages RenderCache

/-- All letters are one short document. -/
def greetingSetting (lib : Libraries ℚ (List (Word ℚ))) : Setting ℚ (List (Word ℚ)) String where
  lib := lib
  renderers := greetingRenderers
  templates := { TemplatedLetters.tightTemplates with html := fun _ => "<p>Hello</p>" }
  missingDelegate _ := false
  quote := id

abbrev colouredSetting : Setting ℚ (List (Word ℚ)) String := greetingSetting coloured

def letterAgain : Recreation := ⟨"id", "letter.pdf", false⟩

def letterTraffic : Traffic := ⟨(· = letter), (· = .getPdf "<p>Hello</p>"), fun _ => True⟩

theorem greeting_premises {lib : Libraries ℚ (List (Word ℚ))} {render : TextPage → Image} (lawful : lib.Lawful render)
    {initial : Bucket → String → Option S3Object} (unrendered : ∀ key, initial .letterCache key = none) :
    Premises (greetingSetting lib) render letterTraffic (fun _ => False) initial where
  lawful := lawful
  consistent := DeliveryRuns.consistent_single letter
  noCollisions := by
    rintro _ ⟨one, ⟨_, rfl, ⟨⟩⟩, rfl⟩ _ ⟨other, ⟨_, rfl, ⟨⟩⟩, rfl⟩ _
    rfl
  rendered job _ language includesFirstPage html made := by
    obtain ⟨_, _, made⟩ := Outcomes.bind_eq_ok.mp made
    obtain ⟨_, _, made⟩ := Outcomes.bind_eq_ok.mp made
    obtain ⟨_, _, made⟩ := Outcomes.bind_eq_ok.mp made
    obtain ⟨_, _, made⟩ := Outcomes.bind_eq_ok.mp made
    obtain ⟨_, _, made⟩ := Outcomes.bind_eq_ok.mp made
    cases made
    rfl
  sanitised := id
  attachments := id
  unrendered := unrendered

theorem letter_premises : Premises colouredSetting shown letterTraffic (fun _ => False) letterScan :=
  greeting_premises coloured_lawful fun _ => by simp [letterScan]

/-- The letter is delivered, delivered again, and made again. -/
theorem letter_run : ∃ (state : ServiceState ℕ Unit) (data : SanitiseData),
    ServiceReachable colouredSetting letterTraffic (fun _ => False) letterScan state ∧
    state.tasks 0 = some ⟨⟨.delivery, letter⟩, (), .done ⟨.delivery, Except.ok ()⟩⟩ ∧
    state.tasks 1 = some ⟨⟨.delivery, letter⟩, (), .done ⟨.delivery, Except.ok ()⟩⟩ ∧
    state.tasks 2 = some ⟨⟨.recreation, letterAgain⟩, (), .done ⟨.recreation, Except.ok ()⟩⟩ ∧
    (data.filename = letter.filename ∧ data.validationStatus = .passed) ∧ Event.sent data ∈ history 0 state.log ∧
    Event.sent data ∈ history 1 state.log ∧ ∀ event ∈ history 2 state.log, ¬ Event.Failed event := by
  obtain ⟨fileData, passed, decoded⟩ := letter_passes
  obtain ⟨first, _, delivers, sent, scan, _⟩ :=
    delivered coloured (fun _ => False) () ⟨letterScan, fun _ => .empty⟩ letter rfl passed decoded
  have scanned := congrFun scan letter.filename
  obtain ⟨second, _, redelivers, resent, _, backup⟩ :=
    delivered coloured (fun _ => False) () _ letter (scanned.trans rfl) passed decoded
  obtain ⟨third, _, recreates, unfailed⟩ := remade coloured (fun _ => False) () _ letterAgain backup passed decoded
  have once : ServiceReachable colouredSetting letterTraffic (fun _ => False) letterScan
      (.initial _ : ServiceState ℕ Unit) := .refl
  have twice := (once.run .delivery letter 0 () rfl rfl delivers).run .delivery letter 1 () rfl rfl redelivers
  refine ⟨_, letter.sanitiseData (letter.details coloured { filedata := cmykLetter }) .passed,
    twice.run .recreation letterAgain 2 () rfl trivial recreates, rfl, rfl, rfl, ⟨rfl, rfl⟩, ?_⟩
  simp only [history_run, State.initial]
  exact ⟨by simpa [history] using sent, by simpa [history] using resent, by simpa [history] using unfailed⟩

/-- A letter in English without an attachment. -/
def plainLetter : Json :=
  .object [("letter_contact_block", .null), ("values", .null), ("filename", .null),
    ("template", .object [("subject", .string "Subject"), ("content", .string "Content")])]

/-- The letter is previewed, and nothing of it is in the render cache. -/
theorem plainLetter_run : ∃ state : ServiceState Unit Unit,
    ServiceReachable colouredSetting letterTraffic (fun _ => False) letterScan state ∧
    state.tasks () = some ⟨⟨.preview, PreviewJob.letterPdf plainLetter none⟩, (),
      .done ⟨.preview, PreviewResult.pdf (.ok { bytes := encodePages [blankPage] })⟩⟩ := by
  have ran : Uninterrupted (service fun _ => False) () (⟨letterScan, fun _ => .empty⟩ : ServiceShared Unit)
      (colouredSetting.program .preview (PreviewJob.letterPdf plainLetter none)) _ _
      (PreviewResult.pdf (.ok { bytes := encodePages [blankPage] })) :=
    .ask (.missed (LruCache.lookup_empty _)) (.ask (.downloadFailed .objectNotFound)
      (.ask (.attempted true) (.ask .uploaded .done)))
  have start : ServiceReachable colouredSetting letterTraffic (fun _ => False) letterScan
      (.initial _ : ServiceState Unit Unit) := .refl
  exact ⟨_, start.run .preview _ () () rfl trivial ran, rfl⟩

theorem plainLetter_is_previewed : ∃ attachmentPdf, TemplatedLetters.preparePdf coloured
    (givenAttachments colouredSetting.toApplication attachmentPdf) plainLetter =
      .ok { bytes := encodePages [blankPage] } := by
  obtain ⟨state, reachable, finished⟩ := plainLetter_run
  obtain ⟨attachmentPdf, prepared, _⟩ := (previews_are_exact letter_premises reachable).2 _ _ _ _ _ finished
  exact ⟨attachmentPdf, prepared⟩

theorem letter_stays_stored : ∃ state : ServiceState ℕ Unit,
    ServiceReachable colouredSetting letterTraffic (fun _ => False) letterScan state ∧
    BothStored coloured (letterScan .lettersScan) state.shared.store letter := by
  obtain ⟨state, data, reachable, delivered, _, _, ⟨_, passed⟩, sent, _⟩ := letter_run
  exact ⟨state, reachable,
    ((jobs_do_not_interfere letter_premises reachable).1 0 letter () _ data delivered sent passed).2 id⟩

theorem letter_is_announced_once : ∃ (state : ServiceState ℕ Unit) (data : SanitiseData),
    ServiceReachable colouredSetting letterTraffic (fun _ => False) letterScan state ∧
    Event.sent data ∈ history 0 state.log ∧ Event.sent data ∈ history 1 state.log ∧
    ∀ again, Event.sent again ∈ history 1 state.log → data = again := by
  obtain ⟨state, data, reachable, delivered, redelivered, _, _, sent, resent, _⟩ := letter_run
  exact ⟨state, data, reachable, sent, resent, fun again =>
    announcements_agree letter_premises reachable delivered redelivered (.inl rfl) sent⟩

theorem letter_is_restored : ∃ (state : ServiceState ℕ Unit) (value : S3Object),
    ServiceReachable colouredSetting letterTraffic (fun _ => False) letterScan state ∧
    Event.uploaded .lettersPdf "letter.pdf" value (.ok ()) ∈ history 2 state.log ∧
    state.shared.store .sanitisedLetter "letter.pdf" = some value := by
  obtain ⟨state, data, reachable, _, _, recreated, _, _, _, unfailed⟩ := letter_run
  obtain ⟨only, stored⟩ := recreations_restore_letters letter_premises reachable recreated rfl ⟨rfl, rfl⟩
    (show letterScan .precompiledOriginalsBackup letter.backupFilename = none by simp [letterScan])
  obtain ⟨value, uploaded⟩ := stored _ rfl unfailed
  exact ⟨state, value, reachable, uploaded, (only _ _ _ _ uploaded).2.2.2⟩

/-- A backup of an attachment of one blank page. -/
def blankBackup (bucket : Bucket) (key : String) : Option S3Object :=
  if bucket = .precompiledOriginalsBackup ∧ key = "attachment" ++ ".pdf" then
    some { filedata := encodePages [blankPage] }
  else none

/-- Ghostscript leaves pages in memory as they are. -/
theorem unchanged_pagewise : Pagewise libraries fun _ => id := by
  rintro job file out pages read ⟨_, ⟨⟩, _, rfl⟩
  rwa [List.map_id]

/-- The attachment is made again. -/
theorem attachment_run : ∃ state : ServiceState Unit Unit,
    ServiceReachable (greetingSetting libraries) letterTraffic (fun _ => False) blankBackup state ∧
    ∃ value, state.shared.store .letterAttachment (getTransientLetterFileLocation "service" "attachment") =
      some value := by
  obtain ⟨events, after, value, _, recreates, _, stored⟩ :=
    AttachmentReads.recreated libraries id () ⟨blankBackup, fun _ => .empty⟩ "service" "attachment" "attachment.pdf"
      (show blankBackup .precompiledOriginalsBackup ("attachment" ++ ".pdf") = _ from if_pos ⟨rfl, rfl⟩)
      blankAttachment_passed blankAttachment_decoded
  have start : ServiceReachable (greetingSetting libraries) letterTraffic (fun _ => False) blankBackup
      (.initial _ : ServiceState Unit Unit) := .refl
  exact ⟨_, start.run .attachment (.recreatePdf "service" "attachment" "attachment.pdf") () () rfl trivial recreates,
    value, stored⟩

theorem attachment_is_described : ∃ (state : ServiceState Unit Unit) (value : S3Object),
    state.shared.store .letterAttachment (getTransientLetterFileLocation "service" "attachment") = some value ∧
    Described (greetingSetting libraries) (fun _ => id) state.log
      (getTransientLetterFileLocation "service" "attachment") value := by
  obtain ⟨state, reachable, value, stored⟩ := attachment_run
  refine ⟨state, value, stored, ?_⟩
  rcases (attachments_are_described (greeting_premises lawful fun _ => by simp [blankBackup]) unchanged_pagewise
    reachable).1 stored with initially | described
  · simp [blankBackup] at initially
  · exact described

end InMemory

end TemplatePreview.ServiceGuarantees
