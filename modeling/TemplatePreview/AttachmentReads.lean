import TemplatePreview.CachedDownloads
import TemplatePreview.Footprints

/-! Attachments are read through the caches of long-lived processes and written by
a task that does not know of those caches. What a read returns is what the bucket
held when the process last downloaded it. -/
namespace TemplatePreview.AttachmentReads
open Workers ObjectStore Pdf LetterTasks CachedDownloads

variable {K σ Process TaskId : Type} [Field K] [LinearOrder K] [DecidableEq Process] [DecidableEq TaskId]

/-- `get_attachment_pdf`. -/
def getAttachmentPdf (serviceId attachmentId : String) :
    CacheAction SanitiseData (Except DownloadError MemoryFile) :=
  cachingS3download .letterAttachment ("service-" ++ serviceId ++ "/" ++ attachmentId ++ ".pdf")

/-- `add_attachment_to_letter`. -/
def addAttachmentToLetter (lib : Libraries K σ) (serviceId : String) (templatedLetterPdf : MemoryFile)
    (attachmentId : String) : CacheAction SanitiseData (Except DownloadError (Py MemoryFile)) := do
  match ← getAttachmentPdf serviceId attachmentId with
  | .error error => return .error error
  | .ok attachmentPdf => return .ok (stitchPdfs lib templatedLetterPdf attachmentPdf)

/-- What processes do with attachments. -/
inductive AttachmentJob where
  | getAttachmentPdf (serviceId attachmentId : String)
  | addAttachmentToLetter (serviceId : String) (templatedLetterPdf : MemoryFile) (attachmentId : String)
  | recreatePdf (serviceId attachmentId originalFilename : String)

inductive AttachmentResult where
  | pdf (outcome : Except DownloadError MemoryFile)
  | stitchedPdf (outcome : Except DownloadError (Py MemoryFile))
  | recreated (outcome : Py Unit)

def AttachmentJob.program (lib : Libraries K σ) (quote : String → String) :
    AttachmentJob → CacheAction SanitiseData AttachmentResult
  | .getAttachmentPdf serviceId attachmentId => do
    return .pdf (← AttachmentReads.getAttachmentPdf serviceId attachmentId)
  | .addAttachmentToLetter serviceId templatedLetterPdf attachmentId => do
    return .stitchedPdf (← AttachmentReads.addAttachmentToLetter lib serviceId templatedLetterPdf attachmentId)
  | .recreatePdf serviceId attachmentId originalFilename => do
    return .recreated (← recreatePdfForTemplateLetterAttachments lib quote serviceId attachmentId originalFilename)

/-- Attachments do not disappear. -/
def storage : Service (Shared Bucket String S3Object String Process cacheSize) Process
    (Call Bucket String S3Object String SanitiseData) Call.Answer :=
  service fun _ => False

/-! ## Contracts -/

/-- A read had its bytes from the bucket, or from the cache without a miss. -/
def ReadIn (serviceId attachmentId : String) (history : List TaskEvent) (file : MemoryFile) : Prop :=
  ∃ bytes, file = { bytes := bytes } ∧
    ((∃ object, object.filedata = bytes ∧
      Event.downloaded .letterAttachment (getTransientLetterFileLocation serviceId attachmentId)
        (.ok object) ∈ history) ∨
    Event.recalled .letterAttachment (getTransientLetterFileLocation serviceId attachmentId)
      (some (Base64.b64encode bytes)) ∈ history ∧
    Event.recalled .letterAttachment (getTransientLetterFileLocation serviceId attachmentId) none ∉ history)

/-- Nothing is remembered but what was downloaded, and only the task uploads, under
the location it makes from the two ids. -/
def attachmentContract (job : AttachmentJob) :
    Contract (Call Bucket String S3Object String SanitiseData) Call.Answer where
  asks history call :=
    match call with
    | .upload bucket key _ => ∃ serviceId attachmentId originalFilename,
      job = .recreatePdf serviceId attachmentId originalFilename ∧ bucket = .letterAttachment ∧
        key = getTransientLetterFileLocation serviceId attachmentId
    | .copy .. => False
    | .remember bucket key text =>
      ∃ object, Event.downloaded bucket key (.ok object) ∈ history ∧ text = Base64.b64encode object.filedata
    | _ => True
  relies
    | .lookup .., answer => ∀ text, answer = some text → ∃ bytes, text = Base64.b64encode bytes
    | _, _ => True

/-- A read that returns has read the attachment; a letter is stitched with what
was read. -/
def AttachmentJob.post (lib : Libraries K σ) : AttachmentJob → List TaskEvent → AttachmentResult → Prop
  | .getAttachmentPdf serviceId attachmentId, history, result =>
    ∀ file, result = .pdf (.ok file) → ReadIn serviceId attachmentId history file
  | .addAttachmentToLetter serviceId templatedLetterPdf attachmentId, history, result =>
    ∀ pdf, result = .stitchedPdf (.ok pdf) →
      ∃ file, ReadIn serviceId attachmentId history file ∧ pdf = stitchPdfs lib templatedLetterPdf file
  | .recreatePdf .., _, _ => True

section Programs
variable {lib : Libraries K σ} {quote : String → String} {job : AttachmentJob}

private theorem keeps_getAttachmentPdf {serviceId attachmentId : String}
    {post : List TaskEvent → β → Prop} {next : Except DownloadError MemoryFile → CacheAction SanitiseData β}
    (failed : ∀ history error, (attachmentContract job).Keeps post history (next (.error error)))
    (returned : ∀ history file, ReadIn serviceId attachmentId history file →
      (attachmentContract job).Keeps post history (next (.ok file))) :
    (attachmentContract job).Keeps post [] (getAttachmentPdf serviceId attachmentId >>= next) := by
  refine keeps_cachingS3download (fun text relied => relied text rfl) trivial (fun bytes _ => ?_) trivial
    (fun failure => failed _ _) (fun object _ => ⟨object, by simp, rfl⟩) fun object _ => ?_
  · refine returned _ _ ⟨bytes, rfl, .inr ⟨List.mem_singleton_self _, fun missed => ?_⟩⟩
    cases List.mem_singleton.mp missed
  · exact returned _ _ ⟨_, rfl, .inl ⟨object, rfl, by simp [getTransientLetterFileLocation]⟩⟩

private theorem keeps_resanitise {serviceId attachmentId originalFilename : String}
    {post : List TaskEvent → Py Unit → Prop} (always : ∀ history result, post history result)
    (backupFilename : String) (details : S3Object → Sanitisation.SanitisationDetails)
    (metadata : Sanitisation.SanitisationDetails → List (String × String)) :
    (attachmentContract (.recreatePdf serviceId attachmentId originalFilename)).Keeps post []
      (resanitise backupFilename details .letterAttachment (getTransientLetterFileLocation serviceId attachmentId)
        metadata) := by
  refine keeps_download trivial (fun failure => always _ _) fun pdfContent _ => ?_
  dsimp only
  split
  · exact always _ _
  split
  · exact always _ _
  refine keeps_upload ⟨_, _, _, rfl, rfl, rfl⟩ (fun failure => always _ _) (always _ _)

/-- Every job keeps to its contract. -/
theorem program_keeps (job : AttachmentJob) :
    (attachmentContract job).Keeps (job.post lib) [] (job.program lib quote) := by
  cases job with
  | getAttachmentPdf serviceId attachmentId =>
    refine keeps_getAttachmentPdf (fun history error => ?_) fun history file read => ?_
    · rintro file ⟨⟩
    · rintro other ⟨⟩
      exact read
  | addAttachmentToLetter serviceId templatedLetterPdf attachmentId =>
    refine Contract.keeps_bind _ (keeps_getAttachmentPdf (fun history error => ?_) fun history file read => ?_)
    · rintro pdf ⟨⟩
    · rintro pdf ⟨⟩
      exact ⟨file, read, rfl⟩
  | recreatePdf serviceId attachmentId originalFilename =>
    exact Contract.keeps_bind _ (keeps_resanitise (fun _ _ => trivial) _ _ _)

end Programs

/-! ## Where cached bytes come from -/

abbrev Log (TaskId Process : Type) : Type :=
  List (Entry TaskId Process (Call Bucket String S3Object String SanitiseData) Call.Answer)

section Provenance
variable {initial : Bucket → String → Option S3Object} {log : Log TaskId Process}
  {shared after : Shared Bucket String S3Object String Process cacheSize} {job : AttachmentJob}
  {call : Call Bucket String S3Object String SanitiseData}

omit [DecidableEq Process] [DecidableEq TaskId] in
/-- The jobs upload to buckets, and remember what they have downloaded. -/
theorem faithful_of_asks {history : List TaskEvent} {bucket : Bucket}
    (asked : (attachmentContract job).asks history call) : call.Faithful encoded bucket history := by
  cases call with
  | copy => exact asked.elim
  | remember other key text =>
    rintro rfl
    exact asked
  | _ => trivial

omit [DecidableEq TaskId] in
/-- What caches answer encodes what was downloaded. -/
theorem relies_of_provenance {process : Process} {answer : call.Answer}
    (provenance : ∀ bucket, (∃ key, call = .lookup bucket key) → Provenance encoded initial bucket shared log)
    (answered : Answers shared process call answer after) : (attachmentContract job).relies call answer := by
  cases answered with
  | @recalled bucket key text cached =>
    rintro _ ⟨⟩
    obtain ⟨object, _, same, _⟩ := (provenance bucket ⟨key, rfl⟩).caches _ _ _ cached
    exact ⟨object.filedata, same⟩
  | missed =>
    rintro _ ⟨⟩
  | _ => trivial

/-- The jobs, their contract and the provenance of all buckets fit together. -/
theorem attachments_verified {lib : Libraries K σ} {quote : String → String} :
    Verified (storage : Service (Shared Bucket String S3Object String Process cacheSize) Process _ Call.Answer)
      (AttachmentJob.program lib quote) (fun _ _ => True) attachmentContract (AttachmentJob.post lib)
      (fun shared (log : Log TaskId Process) => ∀ bucket, Provenance encoded initial bucket shared log) where
  programs job _ _ := program_keeps job
  calls _ _ _ _ _ _ _ _ provenance single asked answered :=
    ⟨relies_of_provenance (fun bucket _ => provenance bucket) answered,
      fun bucket => (provenance bucket).answer single (faithful_of_asks asked) answered⟩
  drifts _ _ _ provenance moved bucket := (provenance bucket).drift id moved

end Provenance

/-! ## What reads return -/

/-- A file is what a task downloaded for an attachment, which was uploaded last at
that time and still is unless there was an upload since. -/
def AsDownloaded (initial : Bucket → String → Option S3Object) (log : Log TaskId Process) (task : TaskId)
    (process : Process) (serviceId attachmentId : String) (file : MemoryFile) : Prop :=
  ∃ earlier later object, file = { bytes := object.filedata } ∧
    log = earlier ++ ⟨task, process, Event.downloaded .letterAttachment
      (getTransientLetterFileLocation serviceId attachmentId) (.ok object)⟩ :: later ∧
    latest initial .letterAttachment (getTransientLetterFileLocation serviceId attachmentId)
      (earlier.map Entry.event) = some object ∧
    ((∀ entry ∈ later, ∀ value, entry.event ≠
        Event.uploaded .letterAttachment (getTransientLetterFileLocation serviceId attachmentId) value (.ok ())) →
      latest initial .letterAttachment (getTransientLetterFileLocation serviceId attachmentId)
        (log.map Entry.event) = some object)

/-- A file is what a task of the process downloaded for an attachment: the reading
task itself, if it missed the cache. -/
def ReadAsDownloaded (initial : Bucket → String → Option S3Object) (log : Log TaskId Process) (task : TaskId)
    (process : Process) (serviceId attachmentId : String) (file : MemoryFile) : Prop :=
  ∃ downloader, AsDownloaded initial log downloader process serviceId attachmentId file ∧
    (Event.recalled .letterAttachment (getTransientLetterFileLocation serviceId attachmentId) none ∈
      history task log →
      downloader = task)

section Reads
variable {lib : Libraries K σ} {quote : String → String} {initial : Bucket → String → Option S3Object}
  {log : Log TaskId Process}

omit [DecidableEq Process] [DecidableEq TaskId] in
/-- What was fetched is what the bucket held, and still holds unless it was written. -/
theorem fetched_asDownloaded {log : Log TaskId Process} {downloader : TaskId} {process : Process}
    {serviceId attachmentId : String} {object : S3Object}
    (fetched : Fetched initial log downloader process .letterAttachment
      (getTransientLetterFileLocation serviceId attachmentId) object) :
    AsDownloaded initial log downloader process serviceId attachmentId { bytes := object.filedata } := by
  obtain ⟨earlier, later, rfl, held⟩ := fetched
  refine ⟨earlier, later, object, rfl, rfl, held, fun quiet => ?_⟩
  rw [List.map_append, latest_of_quiet, held]
  intro event member value
  rcases List.mem_cons.mp member with rfl | inside
  · simp
  · obtain ⟨entry, inLater, rfl⟩ := List.mem_map.mp inside
    exact quiet entry inLater value

omit [DecidableEq Process] in
/-- A file that was read is what a task of the process had downloaded: the reading
task itself, if it missed the cache. -/
theorem read_as_downloaded {log : Log TaskId Process} {shared : Shared Bucket String S3Object String Process cacheSize}
    (provenance : Provenance encoded initial .letterAttachment shared log) {task : TaskId} {process : Process}
    (single : ∀ entry ∈ log, entry.task = task → entry.process = process) {serviceId attachmentId : String}
    {file : MemoryFile} {own : List TaskEvent} (included : ∀ event ∈ own, event ∈ history task log)
    (read : ReadIn serviceId attachmentId own file) :
    ∃ downloader, AsDownloaded initial log downloader process serviceId attachmentId file ∧
      (Event.recalled .letterAttachment (getTransientLetterFileLocation serviceId attachmentId) none ∈ own →
        downloader = task) := by
  obtain ⟨bytes, rfl, ⟨object, rfl, found⟩ | ⟨found, hit⟩⟩ := read
  · obtain ⟨origin, inLog⟩ := mem_history.mp (included _ found)
    cases single _ inLog rfl
    exact ⟨task, fetched_asDownloaded (provenance.downloads _ _ _ _ inLog), fun _ => rfl⟩
  · obtain ⟨origin, inLog⟩ := mem_history.mp (included _ found)
    cases single _ inLog rfl
    obtain ⟨object, downloader, same, fetched⟩ := provenance.recalls _ _ _ _ inLog
    cases Base64.b64encode_injective same
    exact ⟨downloader, fetched_asDownloaded fetched, fun missed => absurd missed hit⟩

/-- In every state of every run, attachments that were read are what their process
had downloaded, letters are stitched with such attachments, and all uploads are
under the locations that reads use. -/
theorem reads_are_downloads {initial : Bucket → String → Option S3Object}
    {state : State (Shared Bucket String S3Object String Process cacheSize) TaskId AttachmentJob Process
      (Call Bucket String S3Object String SanitiseData) Call.Answer AttachmentResult}
    (reachable : Reachable storage (AttachmentJob.program lib quote) (fun _ _ => True)
      ⟨initial, fun _ => .empty⟩ state) :
    (∀ task process serviceId attachmentId file,
      state.tasks task = some ⟨.getAttachmentPdf serviceId attachmentId, process, .done (.pdf (.ok file))⟩ →
      ReadAsDownloaded initial state.log task process serviceId attachmentId file) ∧
    (∀ task process serviceId templatedLetterPdf attachmentId pdf,
      state.tasks task = some ⟨.addAttachmentToLetter serviceId templatedLetterPdf attachmentId, process,
        .done (.stitchedPdf (.ok pdf))⟩ →
      ∃ file, ReadAsDownloaded initial state.log task process serviceId attachmentId file ∧
        pdf = stitchPdfs lib templatedLetterPdf file) ∧
    (∀ task running bucket key value answer, state.tasks task = some running →
      Event.uploaded bucket key value answer ∈ history task state.log →
      ∃ serviceId attachmentId originalFilename,
        running.job = .recreatePdf serviceId attachmentId originalFilename ∧ bucket = .letterAttachment ∧
        key = getTransientLetterFileLocation serviceId attachmentId) := by
  obtain ⟨provenance, tasks, placed⟩ := verified_reachable attachments_verified (fun _ => .nil) reachable
  refine ⟨fun task process serviceId attachmentId file started => ?_,
    fun task process serviceId templatedLetterPdf attachmentId pdf started => ?_,
    fun task running bucket key value answer started uploaded => ?_⟩
  · exact read_as_downloaded (provenance .letterAttachment) (placed.single started) (fun _ member => member)
      ((tasks task _ started).2 file rfl)
  · obtain ⟨file, read, same⟩ := (tasks task _ started).2 pdf rfl
    exact ⟨file, read_as_downloaded (provenance .letterAttachment) (placed.single started) (fun _ member => member) read,
      same⟩
  · obtain ⟨_, _, _, asked, _⟩ := (tasks task running started).1.of_mem uploaded
    exact asked

end Reads

/-! ## A read after an upload -/

section Stale
variable (lib : Libraries K σ) (quote : String → String) (process : Process)
  (shared : Shared Bucket String S3Object String Process cacheSize) {object : S3Object}
  (serviceId attachmentId : String)

/-- A first read downloads the attachment and remembers it. -/
theorem first_read (absent : (shared.caches process).lookup
      (.letterAttachment, getTransientLetterFileLocation serviceId attachmentId) = none)
    (held : shared.store .letterAttachment (getTransientLetterFileLocation serviceId attachmentId) = some object) :
    Uninterrupted storage process shared (AttachmentJob.program lib quote (.getAttachmentPdf serviceId attachmentId))
      [Event.recalled .letterAttachment (getTransientLetterFileLocation serviceId attachmentId) none,
        Event.downloaded .letterAttachment (getTransientLetterFileLocation serviceId attachmentId) (.ok object),
        Event.remembered .letterAttachment (getTransientLetterFileLocation serviceId attachmentId) (encoded object)]
      { shared with
        caches := Function.update shared.caches process ((shared.caches process).insert
          (.letterAttachment, getTransientLetterFileLocation serviceId attachmentId) (encoded object)) }
      (.pdf (.ok { bytes := object.filedata })) :=
  (missed_download absent held).map AttachmentResult.pdf

/-- Any other read does not look at the bucket. -/
theorem cached_read (cached : (shared.caches process).lookup
      (.letterAttachment, getTransientLetterFileLocation serviceId attachmentId) = some (encoded object)) :
    Uninterrupted storage process shared (AttachmentJob.program lib quote (.getAttachmentPdf serviceId attachmentId))
      [Event.recalled .letterAttachment (getTransientLetterFileLocation serviceId attachmentId)
        (some (encoded object))]
      { shared with
        caches := Function.update shared.caches process ((shared.caches process).touch
          (.letterAttachment, getTransientLetterFileLocation serviceId attachmentId)) }
      (.pdf (.ok { bytes := object.filedata })) :=
  (cached_download cached).map AttachmentResult.pdf

/-- The task replaces the attachment by a file that passes, and no cached copy. -/
theorem recreated (originalFilename : String) {fileData : Bytes}
    (held : shared.store .precompiledOriginalsBackup (attachmentId ++ ".pdf") = some object)
    (passed : (Sanitisation.sanitiseFileContents lib object.filedata false true).failed = false)
    (decoded : decodedFile (Sanitisation.sanitiseFileContents lib object.filedata false true) = .ok fileData) :
    ∃ events after, ∃ value : S3Object, value.filedata = fileData ∧ Uninterrupted storage process shared
        (AttachmentJob.program lib quote (.recreatePdf serviceId attachmentId originalFilename)) events after
        (.recreated (.ok ())) ∧
      after.caches = shared.caches ∧
      after.store .letterAttachment (getTransientLetterFileLocation serviceId attachmentId) = some value := by
  let value : S3Object := { filedata := fileData, metadata :=
    [("page_count", (Sanitisation.sanitiseFileContents lib object.filedata false true).pageCount.elim
      "None" toString),
      ("filename", quote originalFilename)] }
  refine ⟨[Event.downloaded .precompiledOriginalsBackup (attachmentId ++ ".pdf") (.ok object),
    Event.uploaded .letterAttachment (getTransientLetterFileLocation serviceId attachmentId) value (.ok ())],
    { shared with
      store := write shared.store .letterAttachment (getTransientLetterFileLocation serviceId attachmentId)
        (some value) },
    value, rfl, .ask (.downloaded held) ?_, rfl, by simp⟩
  simp only [Program.bind, passed, decoded, Bool.false_eq_true, ↓reduceIte]
  exact .ask .uploaded .done

/-- A process reads an attachment and its file is replaced: the bucket holds another
file than the cache. -/
theorem stale_run {first second : TaskId} (distinct : second ≠ first)
    {initial : Bucket → String → Option S3Object} {backup : S3Object} {fileData : Bytes}
    (held : initial .letterAttachment (getTransientLetterFileLocation serviceId attachmentId) = some object)
    (stored : initial .precompiledOriginalsBackup (attachmentId ++ ".pdf") = some backup)
    (passed : (Sanitisation.sanitiseFileContents lib backup.filedata false true).failed = false)
    (decoded : decodedFile (Sanitisation.sanitiseFileContents lib backup.filedata false true) = .ok fileData) :
    ∃ state : State (Shared Bucket String S3Object String Process cacheSize) TaskId AttachmentJob Process
        (Call Bucket String S3Object String SanitiseData) Call.Answer AttachmentResult,
      Reachable storage (AttachmentJob.program lib quote) (fun _ _ => True) ⟨initial, fun _ => .empty⟩ state ∧
      (∃ value, value.filedata = fileData ∧
        state.shared.store .letterAttachment (getTransientLetterFileLocation serviceId attachmentId) =
          some value) ∧
      (state.shared.caches process).lookup
        (.letterAttachment, getTransientLetterFileLocation serviceId attachmentId) = some (encoded object) ∧
      ∀ task, task ≠ first → task ≠ second → state.tasks task = none := by
  have reads := first_read lib quote process ⟨initial, fun _ => .empty⟩ serviceId attachmentId
    (LruCache.lookup_empty _) held
  have afterRead : Reachable storage (AttachmentJob.program lib quote) (fun _ _ => True) ⟨initial, fun _ => .empty⟩
      ⟨_, Function.update (fun _ => none) first _, _⟩ := .run first process .refl rfl trivial reads
  obtain ⟨_, last, value, same, recreates, kept, uploaded⟩ :=
    recreated lib quote process ⟨initial, _⟩ serviceId attachmentId "attachment.pdf" stored passed decoded
  refine ⟨_, afterRead.run second process (by simp [distinct]) trivial recreates, ⟨value, same, uploaded⟩, ?_, ?_⟩
  · dsimp only
    rw [kept]
    dsimp only
    rw [Function.update_self]
    exact LruCache.lookup_insert_self _ (LruCache.lookup_empty _) (by decide)
  · intro task notFirst notSecond
    simp [notFirst, notSecond]

end Stale

section InMemory
open InMemoryLibraries

/-- An attachment with a text, of which there is a blank backup. -/
def replaceable (bucket : Bucket) (key : String) : Option S3Object :=
  if bucket = .letterAttachment ∧ key = getTransientLetterFileLocation "service" "attachment" then
    some { filedata := encodePages [addressedPage] }
  else if bucket = .precompiledOriginalsBackup ∧ key = "attachment" ++ ".pdf" then
    some { filedata := encodePages [blankPage] }
  else none

private theorem replaceable_attachment :
    replaceable .letterAttachment (getTransientLetterFileLocation "service" "attachment") =
      some { filedata := encodePages [addressedPage] } := by
  rw [replaceable, if_pos ⟨rfl, rfl⟩]

private theorem replaceable_backup :
    replaceable .precompiledOriginalsBackup ("attachment" ++ ".pdf") =
      some { filedata := encodePages [blankPage] } := by
  rw [replaceable, if_neg (by simp), if_pos ⟨rfl, rfl⟩]

/-- Reads that start after an upload has finished may return the replaced file. -/
theorem read_after_upload_is_stale :
    ¬ ∀ state : State (Shared Bucket String S3Object String Unit cacheSize) Bool AttachmentJob Unit
        (Call Bucket String S3Object String SanitiseData) Call.Answer AttachmentResult,
      Reachable storage (AttachmentJob.program libraries id) (fun _ _ => True)
        ⟨replaceable, fun _ => .empty⟩ state →
      ∀ serviceId attachmentId events after file,
        Uninterrupted storage () state.shared
          (AttachmentJob.program libraries id (.getAttachmentPdf serviceId attachmentId)) events after
          (.pdf (.ok file)) →
        ∃ object, state.shared.store .letterAttachment (getTransientLetterFileLocation serviceId attachmentId) =
          some object ∧ file = { bytes := object.filedata } := by
  intro always
  obtain ⟨state, reachable, ⟨value, same, held⟩, cached, _⟩ :=
    stale_run libraries id () "service" "attachment"
      (by decide : true ≠ false) replaceable_attachment replaceable_backup blankAttachment_passed blankAttachment_decoded
  obtain ⟨object, latest, file⟩ := always state reachable "service" "attachment" _ _ _
    (cached_read libraries id () state.shared "service" "attachment" cached)
  rw [held] at latest
  cases latest
  have replaced : encodePages [addressedPage] = encodePages [blankPage] :=
    (congrArg MemoryFile.bytes file).trans same
  have pages := congrArg decodePages replaced
  rw [decodePages_encodePages, decodePages_encodePages] at pages
  have sources := congrArg (Option.map (List.map Page.source)) pages
  exact absurd sources (by decide)

/-- The process reads the attachment again after it was replaced. -/
theorem reread_is_downloaded :
    ∃ (state : State (Shared Bucket String S3Object String Unit cacheSize) ℕ AttachmentJob Unit
        (Call Bucket String S3Object String SanitiseData) Call.Answer AttachmentResult) (value : S3Object),
      Reachable storage (AttachmentJob.program libraries id) (fun _ _ => True)
        ⟨replaceable, fun _ => .empty⟩ state ∧
      value.filedata = encodePages [blankPage] ∧
      state.shared.store .letterAttachment (getTransientLetterFileLocation "service" "attachment") = some value ∧
      state.tasks 2 = some ⟨.getAttachmentPdf "service" "attachment", (),
        .done (.pdf (.ok { bytes := encodePages [addressedPage] }))⟩ ∧
      ReadAsDownloaded replaceable state.log 2 () "service" "attachment" { bytes := encodePages [addressedPage] } := by
  obtain ⟨before, reachable, ⟨value, same, held⟩, cached, free⟩ :=
    stale_run libraries id () "service" "attachment" (by decide : 1 ≠ 0) replaceable_attachment replaceable_backup
      blankAttachment_passed blankAttachment_decoded
  have reread := reachable.run 2 () (free 2 (by decide) (by decide)) trivial
    (cached_read libraries id () before.shared "service" "attachment" cached)
  exact ⟨_, value, reread, same, held, rfl, (reads_are_downloads reread).1 2 () _ _ _ rfl⟩

end InMemory

end TemplatePreview.AttachmentReads
