import TemplatePreview.CachedAttachments
import TemplatePreview.TemplatedLetterTask

/-! An attachment never changes. It is uploaded with its original as a backup, and
making it again gives the same file, so that old copies in the caches of processes are
as good as new ones. -/
namespace TemplatePreview.AttachmentContents
open Workers ObjectStore Pdf Outcomes Sanitisation LetterTasks CachedDownloads Recreations WholeService
open AttachmentReads (AttachmentJob AttachmentResult AsDownloaded ReadAsDownloaded read_as_downloaded)
open AttachmentUploads (attachmentDetails MadeAgain)
open LetterPreviews (PreviewJob PreviewResult givenAttachments)
open TemplatedLetters (Templates getItem get getItem_ok get?_of_getItem)
open CachedAttachments (hasRead)

variable {K σ Date Process TaskId : Type} [Field K] [LinearOrder K] [DecidableEq Process] [DecidableEq TaskId]

/-! ## Names and contents -/

/-- Ids have no slash. -/
def IsId (text : String) : Prop := '/' ∉ text.toList

/-- Attachments with other ids are stored under another name. -/
theorem location_injective {serviceId attachmentId otherService otherAttachment : String} (service : IsId serviceId)
    (attachment : IsId attachmentId)
    (same : getTransientLetterFileLocation serviceId attachmentId =
      getTransientLetterFileLocation otherService otherAttachment) :
    serviceId = otherService ∧ attachmentId = otherAttachment := by
  have characters : serviceId.toList ++ '/' :: attachmentId.toList =
      otherService.toList ++ '/' :: otherAttachment.toList := by
    have whole : (serviceId.toList ++ '/' :: attachmentId.toList) ++ ['.', 'p', 'd', 'f'] =
        (otherService.toList ++ '/' :: otherAttachment.toList) ++ ['.', 'p', 'd', 'f'] := by
      simpa [getTransientLetterFileLocation] using congrArg String.toList same
    exact List.append_cancel_right whole
  have clean : '/' ∉ otherService.toList := by
    have counts := congrArg (List.count '/') characters
    rw [List.count_append, List.count_append, List.count_cons_self, List.count_cons_self,
      List.count_eq_zero_of_not_mem service, List.count_eq_zero_of_not_mem attachment] at counts
    intro member
    have := List.count_pos_iff.mpr member
    omega
  obtain ⟨first, second⟩ := PageValidation.split_at_first service clean characters
  exact ⟨String.toList_injective first, String.toList_injective second⟩

/-- An attachment has no address that could be international. -/
theorem sanitiseFileContents_attachment (lib : Libraries K σ) (content : Bytes) (allow : Bool) :
    sanitiseFileContents lib content allow true = sanitiseFileContents lib content false true := by
  simp only [sanitiseFileContents, sanitise, produce, ↓reduceIte]

/-- The attachment was uploaded as the endpoint answered for its original, which was
kept as a backup. -/
structure UploadedAs (lib : Libraries K σ) (initial : Bucket → String → Option S3Object)
    (serviceId attachmentId : String) (bytes : Bytes) : Prop where
  stored : ∀ object,
    initial .letterAttachment (getTransientLetterFileLocation serviceId attachmentId) = some object →
    object.filedata = bytes
  backedUp : ∀ pdfContent, initial .precompiledOriginalsBackup (attachmentId ++ ".pdf") = some pdfContent →
    ∃ allow response, sanitisePrecompiledLetter lib pdfContent.filedata allow (some "true") = .ok response ∧
      decodedFile response.json = .ok bytes

theorem UploadedAs.decoded {lib : Libraries K σ} {initial : Bucket → String → Option S3Object}
    {serviceId attachmentId : String} {bytes : Bytes} (uploaded : UploadedAs lib initial serviceId attachmentId bytes)
    {pdfContent : S3Object}
    (backup : initial .precompiledOriginalsBackup (attachmentId ++ ".pdf") = some pdfContent) :
    decodedFile (attachmentDetails lib pdfContent) = .ok bytes := by
  obtain ⟨allow, response, answered, decoded⟩ := uploaded.backedUp pdfContent backup
  unfold sanitisePrecompiledLetter at answered
  split at answered
  · cases answered
  · cases answered
    rwa [show (some "true" == some "true") = true from rfl, sanitiseFileContents_attachment] at decoded

/-! ## Letters with an attachment -/

/-- The attachment that is stitched to a letter. -/
def Attaches (str : Json → String) (letterDetails : Json) (serviceId attachmentId : String) : Prop :=
  ∃ template letterAttachment service id, letterDetails.get? "template" = some template ∧
    template.get? "letter_attachment" = some letterAttachment ∧ letterAttachment.truthy = true ∧
    template.get? "service" = some service ∧ letterAttachment.get? "id" = some id ∧
    serviceId = str service ∧ attachmentId = str id

/-- A letter has one attachment at most. -/
theorem attaches_unique {str : Json → String} {letterDetails : Json}
    {serviceId attachmentId otherService other : String}
    (attached : Attaches str letterDetails serviceId attachmentId)
    (again : Attaches str letterDetails otherService other) :
    otherService = serviceId ∧ other = attachmentId := by
  obtain ⟨template, letterAttachment, service, id, found, present, _, serviceFound, idFound, rfl, rfl⟩ := attached
  obtain ⟨_, _, _, _, refound, represent, _, service', id', rfl, rfl⟩ := again
  cases found.symm.trans refound
  cases present.symm.trans represent
  cases serviceFound.symm.trans service'
  cases idFound.symm.trans id'
  exact ⟨rfl, rfl⟩

omit [Field K] [LinearOrder K] in
/-- Only the attachment of a letter decides about it. -/
theorem generateTemplatedPdf_attaching {lib : Libraries K σ} {templates : Templates Date} {letterDetails : Json}
    {createPdf : Json → TemplatedLetters.Language → Bool → Py MemoryFile} {purpose : TemplatedLetters.PDFPurpose}
    {given other : String → String → Py MemoryFile} {pdf : MemoryFile}
    (same : ∀ serviceId attachmentId file, Attaches templates.str letterDetails serviceId attachmentId →
      given serviceId attachmentId = .ok file → other serviceId attachmentId = .ok file)
    (generated : TemplatedLetters.generateTemplatedPdf lib { templates with attachmentPdf := given }
    letterDetails createPdf
      purpose = .ok pdf) :
    TemplatedLetters.generateTemplatedPdf lib { templates with attachmentPdf := other } letterDetails
    createPdf purpose =
      .ok pdf := by
  obtain ⟨template, found, generated⟩ := bind_eq_ok.mp generated
  obtain ⟨templated, rendered, generated⟩ := bind_eq_ok.mp generated
  obtain ⟨printed, converted, generated⟩ := bind_eq_ok.mp generated
  obtain ⟨attached, present, generated⟩ := bind_eq_ok.mp generated
  refine bind_eq_ok.mpr ⟨template, found, bind_eq_ok.mpr ⟨templated, rendered,
    bind_eq_ok.mpr ⟨printed, converted, bind_eq_ok.mpr ⟨attached, present, ?_⟩⟩⟩⟩
  cases attached with
  | none => exact generated
  | some letterAttachment =>
    dsimp only at generated ⊢
    split
    · rename_i truthy
      rw [if_pos truthy] at generated
      obtain ⟨service, serviceFound, generated⟩ := bind_eq_ok.mp generated
      obtain ⟨id, idFound, generated⟩ := bind_eq_ok.mp generated
      obtain ⟨attachmentPdf, read, stitched⟩ := bind_eq_ok.mp generated
      refine bind_eq_ok.mpr ⟨service, serviceFound, bind_eq_ok.mpr ⟨id, idFound,
        bind_eq_ok.mpr ⟨attachmentPdf, same _ _ _ ?_ read, stitched⟩⟩⟩
      exact ⟨template, letterAttachment, service, id, get?_of_getItem found,
        (TemplatedLetterTask.get_eq_ok present).symm, truthy, get?_of_getItem serviceFound, get?_of_getItem idFound,
        rfl, rfl⟩
    · rename_i falsy
      rwa [if_neg falsy] at generated

/-! ## What is stored, cached and read -/

section Service
variable {setting : Setting K σ Date} {render : Page K σ → Image} {traffic : Traffic} {vanishes : Bucket → Prop}
  {initial : Bucket → String → Option S3Object} {state : ServiceState TaskId Process}
  {serviceId attachmentId : String} {bytes : Bytes}

/-- What is uploaded for an attachment is the file that was there. -/
theorem uploaded_again (premises : Premises setting render traffic vanishes initial)
    (reachable : ServiceReachable setting traffic vanishes initial state) (service : IsId serviceId)
    (attachment : IsId attachmentId)
    (own : ∀ delivery, traffic.deliveries delivery → delivery.notificationId ≠ attachmentId)
    (uploaded : UploadedAs setting.lib initial serviceId attachmentId bytes)
    {entry : Entry TaskId Process TaskCall Call.Answer} (member : entry ∈ state.log) {value : S3Object}
    {answer : Except Failure Unit} (again : entry.event =
      Event.uploaded .letterAttachment (getTransientLetterFileLocation serviceId attachmentId) value answer) :
    value.filedata = bytes := by
  obtain ⟨invariant, tasks, placed⟩ := service_reachable premises reachable
  obtain ⟨running, earlier, later, _, whole, asked⟩ := asked_of_logged tasks placed member
  rw [again] at asked whole
  obtain ⟨_, _, _, pdfContent, same, found, remade⟩ := madeAgain_of_upload asked
  obtain ⟨rfl, rfl⟩ := location_injective service attachment same
  obtain ⟨process, logged⟩ := mem_history.mp (show _ ∈ history entry.task state.log by
    rw [whole]
    exact List.mem_append_left _ found)
  rcases (invariant .letters).restored _ logged _ _ rfl with initially | ⟨delivery, _, delivered, name, _⟩
  · exact Except.ok.inj (remade.decoded.symm.trans (uploaded.decoded initially))
  · have characters := congrArg String.toList name
    simp only [Delivery.backupFilename, String.toList_append, List.append_cancel_right_eq] at characters
    exact absurd (String.toList_injective characters).symm (own delivery delivered)

/-- Whatever was downloaded of an attachment is its file. -/
theorem content_of_fetched (premises : Premises setting render traffic vanishes initial)
    (reachable : ServiceReachable setting traffic vanishes initial state) (service : IsId serviceId)
    (attachment : IsId attachmentId)
    (own : ∀ delivery, traffic.deliveries delivery → delivery.notificationId ≠ attachmentId)
    (uploaded : UploadedAs setting.lib initial serviceId attachmentId bytes) :
    (∀ object, state.shared.store .letterAttachment (getTransientLetterFileLocation serviceId attachmentId) =
      some object → object.filedata = bytes) ∧
    ∀ task process object, Fetched initial state.log task process .letterAttachment
      (getTransientLetterFileLocation serviceId attachmentId) object → object.filedata = bytes := by
  obtain ⟨invariant, _, _⟩ := service_reachable premises reachable
  apply Provenance.holds (invariant .attachments) uploaded.stored
  intro entry member value again
  exact uploaded_again premises reachable service attachment own uploaded member again

/-- A letter is previewed with the attachment that was uploaded. -/
theorem preview_attaching (premises : Premises setting render traffic vanishes initial)
    (reachable : ServiceReachable setting traffic vanishes initial state) {json : Json}
    {contents : String → String → Bytes}
    (known : ∀ serviceId attachmentId, Attaches setting.templates.str json serviceId attachmentId →
      IsId serviceId ∧ IsId attachmentId ∧
      (∀ delivery, traffic.deliveries delivery → delivery.notificationId ≠ attachmentId) ∧
      UploadedAs setting.lib initial serviceId attachmentId (contents serviceId attachmentId))
    {task : TaskId} {process : Process} {page : Option String} {pdf : MemoryFile}
    (finished : state.tasks task = some ⟨⟨.preview, PreviewJob.letterPdf json page⟩, process,
      .done ⟨.preview, PreviewResult.pdf (.ok pdf)⟩⟩) :
    TemplatedLetters.preparePdf setting.lib (givenAttachments setting.toApplication fun serviceId attachmentId =>
      .ok { bytes := contents serviceId attachmentId }) json = .ok pdf := by
  obtain ⟨invariant, tasks, placed⟩ := service_reachable premises reachable
  obtain ⟨own, same, made⟩ := post_of_finished tasks finished
  cases same
  obtain ⟨attachmentPdf, reads, prepared⟩ := made pdf rfl
  refine generateTemplatedPdf_attaching (fun serviceId attachmentId file attaches given => ?_) prepared
  obtain ⟨service, attachment, foreign, uploaded⟩ := known serviceId attachmentId attaches
  obtain ⟨_, fetched⟩ := content_of_fetched premises reachable service attachment foreign uploaded
  obtain ⟨earlier, own, whole, read⟩ := reads _ _ file given
  obtain ⟨downloader, ⟨before, after, object, rfl, logged, held, _⟩, _⟩ :=
    read_as_downloaded (invariant .attachments) (placed.single finished)
      (fun event member => by rw [whole]; exact List.mem_append_right _ member) read
  have same := fetched downloader process object ⟨before, after, logged, held⟩
  exact congrArg (fun bytes => Except.ok (MemoryFile.mk bytes 0)) same.symm

/-- An attachment never changes. While its original is kept and no letter is backed
up under its id, there is one file that the bucket holds and the caches of processes
encode; it is what every job reads, stitches to a letter and previews, whether or not
the attachment was made again in between. -/
theorem attachments_never_change (premises : Premises setting render traffic vanishes initial)
    (reachable : ServiceReachable setting traffic vanishes initial state) (service : IsId serviceId)
    (attachment : IsId attachmentId)
    (own : ∀ delivery, traffic.deliveries delivery → delivery.notificationId ≠ attachmentId)
    (uploaded : UploadedAs setting.lib initial serviceId attachmentId bytes) :
    (∀ object, state.shared.store .letterAttachment (getTransientLetterFileLocation serviceId attachmentId) =
      some object → object.filedata = bytes) ∧
    (∀ process text, (state.shared.caches process).lookup
      (.letterAttachment, getTransientLetterFileLocation serviceId attachmentId) = some text →
      text = Base64.b64encode bytes) ∧
    (∀ task process file, state.tasks task = some (hasRead process serviceId attachmentId (.ok file)) →
      file = { bytes := bytes }) ∧
    (∀ task process templatedLetterPdf pdf,
      state.tasks task = some
        ⟨⟨.attachment, AttachmentJob.addAttachmentToLetter serviceId templatedLetterPdf attachmentId⟩, process,
          .done ⟨.attachment, AttachmentResult.stitchedPdf (.ok pdf)⟩⟩ →
      pdf = stitchPdfs setting.lib templatedLetterPdf { bytes := bytes }) ∧
    ∀ task process json page pdf,
      state.tasks task = some ⟨⟨.preview, PreviewJob.letterPdf json page⟩, process,
        .done ⟨.preview, PreviewResult.pdf (.ok pdf)⟩⟩ →
      (∀ otherService other, Attaches setting.templates.str json otherService other →
        otherService = serviceId ∧ other = attachmentId) →
      TemplatedLetters.preparePdf setting.lib
        (givenAttachments setting.toApplication fun _ _ => .ok { bytes := bytes }) json = .ok pdf := by
  obtain ⟨invariant, tasks, placed⟩ := service_reachable premises reachable
  obtain ⟨stored, fetched⟩ := content_of_fetched premises reachable service attachment own uploaded
  have downloaded {process : Process} {file : MemoryFile} :
      (∃ downloader, AsDownloaded initial state.log downloader process serviceId attachmentId file) →
      file = { bytes := bytes } := by
    rintro ⟨downloader, earlier, later, object, rfl, whole, held, _⟩
    rw [fetched downloader process object ⟨earlier, later, whole, held⟩]
  refine ⟨stored, fun process text cached => ?_, fun task process file finished => ?_,
    fun task process templatedLetterPdf pdf finished => ?_, fun task process json page pdf finished only => ?_⟩
  · obtain ⟨object, downloader, rfl, read⟩ := (invariant .attachments).caches _ _ _ cached
    rw [encoded, fetched downloader process object read]
  · obtain ⟨own, same, reads⟩ := post_of_finished tasks finished
    cases same
    obtain ⟨downloader, read, _⟩ := read_as_downloaded (invariant .attachments) (placed.single finished)
      (fun _ member => member) (reads file rfl)
    exact downloaded ⟨downloader, read⟩
  · obtain ⟨own, same, reads⟩ := post_of_finished tasks finished
    cases same
    obtain ⟨file, read, rfl⟩ := reads pdf rfl
    obtain ⟨downloader, read, _⟩ := read_as_downloaded (invariant .attachments) (placed.single finished)
      (fun _ member => member) read
    rw [downloaded ⟨downloader, read⟩]
  · refine preview_attaching premises reachable (fun otherService other attaches => ?_) finished
    obtain ⟨rfl, rfl⟩ := only otherService other attaches
    exact ⟨service, attachment, own, uploaded⟩

end Service

section InMemory
open InMemoryLibraries ServiceGuarantees

/-- An attachment of one blank page with its original. -/
def blankUpload (bucket : Bucket) (key : String) : Option S3Object :=
  if bucket = .letterAttachment ∧ key = getTransientLetterFileLocation "service" "attachment" then
    some { filedata := encodePages [blankPage] }
  else if bucket = .precompiledOriginalsBackup ∧ key = "attachment" ++ ".pdf" then
    some { filedata := encodePages [blankPage] }
  else none

theorem blankUpload_uploaded :
    UploadedAs libraries blankUpload "service" "attachment" (encodePages [blankPage]) where
  stored object held := by
    rw [blankUpload, if_pos ⟨rfl, rfl⟩] at held
    cases held
    rfl
  backedUp pdfContent backup := by
    rw [blankUpload, if_neg (by simp), if_pos ⟨rfl, rfl⟩] at backup
    cases backup
    refine ⟨none, ⟨sanitiseFileContents libraries (encodePages [blankPage]) false true, 200⟩, ?_, ?_⟩
    · rw [sanitisePrecompiledLetter, if_neg (encodePages_ne_nil (by simp))]
      dsimp only
      rw [show (none == some "true") = false from rfl, show (some "true" == some "true") = true from rfl,
        blankAttachment_sanitised]
      rfl
    · exact blankAttachment_decoded

/-- The attachment is made again and then read. -/
theorem blankUpload_run : ∃ (state : ServiceState ℕ Unit) (file : MemoryFile),
    ServiceReachable (greetingSetting libraries) letterTraffic (fun _ => False) blankUpload state ∧
    state.tasks 0 = some ⟨⟨.attachment, AttachmentJob.recreatePdf "service" "attachment" "attachment.pdf"⟩, (),
      .done ⟨.attachment, AttachmentResult.recreated (.ok ())⟩⟩ ∧
    state.tasks 1 = some (hasRead () "service" "attachment" (.ok file)) := by
  obtain ⟨_, middle, value, _, recreates, unread, stored⟩ :=
    AttachmentReads.recreated libraries id () ⟨blankUpload, fun _ => .empty⟩ "service" "attachment" "attachment.pdf"
      (show blankUpload .precompiledOriginalsBackup ("attachment" ++ ".pdf") =
        some { filedata := encodePages [blankPage] } by rw [blankUpload, if_neg (by simp), if_pos ⟨rfl, rfl⟩])
      blankAttachment_passed blankAttachment_decoded
  have reads := AttachmentReads.first_read libraries id () middle "service" "attachment"
    (by rw [unread]; exact LruCache.lookup_empty _) stored
  have start : ServiceReachable (greetingSetting libraries) letterTraffic (fun _ => False) blankUpload
      (.initial _ : ServiceState ℕ Unit) := .refl
  have remade := start.run .attachment (.recreatePdf "service" "attachment" "attachment.pdf") 0 () rfl
    trivial recreates
  exact ⟨_, _, remade.run .attachment (.getAttachmentPdf "service" "attachment") 1 () rfl trivial reads, rfl, rfl⟩

theorem remade_attachment_is_the_same : ∃ state : ServiceState ℕ Unit,
    state.tasks 0 = some ⟨⟨.attachment, AttachmentJob.recreatePdf "service" "attachment" "attachment.pdf"⟩, (),
      .done ⟨.attachment, AttachmentResult.recreated (.ok ())⟩⟩ ∧
    state.tasks 1 = some (hasRead () "service" "attachment" (.ok { bytes := encodePages [blankPage] })) := by
  obtain ⟨state, file, reachable, remade, read⟩ := blankUpload_run
  have isId : IsId "service" ∧ IsId "attachment" := by
    constructor <;> simp [IsId]
  have own : ∀ delivery, letterTraffic.deliveries delivery → delivery.notificationId ≠ "attachment" := by
    rintro _ rfl
    simp [DeliveryRuns.letter]
  obtain ⟨_, _, reads, _⟩ :=
    attachments_never_change (greeting_premises lawful fun _ => by simp [blankUpload]) reachable
    isId.1 isId.2 own blankUpload_uploaded
  obtain rfl := reads 1 () file read
  exact ⟨state, remade, read⟩

end InMemory

end TemplatePreview.AttachmentContents
