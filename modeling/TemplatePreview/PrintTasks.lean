import TemplatePreview.Embeddings
import TemplatePreview.AttachmentContents

/-! The task that makes the PDF of a letter, with the calls that read its attachment
through the cache of the process. It runs beside the tasks that make attachments again,
on the buckets and the queue of both. -/
namespace TemplatePreview.PrintTasks
open Workers ObjectStore Pdf Outcomes LetterTasks CachedDownloads
open LetterPreviews (Endpoint PreviewCall raised)
open AttachmentContents (Attaches)
open PreviewEndpoints (Application EndpointError)
open TemplatedLetters (Language getItem get?_of_getItem getPageCountForPdf)
open TemplatedLetterTask (Printing PreparedLetter PdfBucket createPdfForLetter text isTest removeFolderFromFilename)

variable {K σ Date : Type}

/-- The buckets of all tasks. -/
inductive PrintBucket where
  | service (bucket : Bucket)
  | invalidPdf
  | testLetters
  deriving DecidableEq

def PrintBucket.ofPdf : PdfBucket → PrintBucket
  | .invalidPdf => .invalidPdf
  | .testLetters => .testLetters
  | .lettersPdf => .service .lettersPdf

theorem PrintBucket.ofPdf_injective : Function.Injective PrintBucket.ofPdf := by
  intro one other same
  cases one <;> cases other <;> first | rfl | cases same

abbrev PrintMessage : Type := SanitiseData ⊕ TemplatedLetterTask.Message
abbrev PrintCall : Type := Call PrintBucket String S3Object String PrintMessage
abbrev PrintEvent : Type := ObjectStore.Event PrintBucket String S3Object String PrintMessage

/-- The calls of the service, and those that store and announce a PDF. -/
def serviceCalls : CallEmbedding PreviewCall Call.Answer PrintCall Call.Answer := embedding .service .inl

def pdfCalls : CallEmbedding (Call PdfBucket String S3Object String TemplatedLetterTask.Message) Call.Answer PrintCall
    Call.Answer := embedding .ofPdf .inr

section Task
variable (app : Application K σ Date) (printing : Printing Date) (letterDetails : Json)

/-- `_prepare_pdf`. -/
def preparePdf : Endpoint MemoryFile :=
  LetterPreviews.generateTemplatedPdf { app with templates := printing.templates } letterDetails
    (fun letterDetails language includesFirstPage =>
      raised (createPdfForLetter printing letterDetails language includesFirstPage)) .print

/-- `create_pdf_for_templated_letter` up to the upload. -/
def prepareLetter : Endpoint PreparedLetter := do
  let notificationId ← raised (getItem letterDetails "notification_id")
  let cmykPdf ← preparePdf app printing letterDetails
  let pageCount ← raised (getPageCountForPdf app.lib cmykPdf)
  let pdf := (cmykPdf.seek 0).read.1
  let filename ← raised (getItem letterDetails "letter_filename")
  let filename ← raised (text filename)
  if printing.letterMaxPageCount < pageCount then
    let metadata := [("validation_status", "failed"), ("message", "letter-too-long"),
      ("page_count", toString pageCount)]
    return ⟨.invalidPdf, removeFolderFromFilename filename, ⟨pdf, metadata⟩,
      ⟨.updateValidationFailedForTemplatedLetter, notificationId, pageCount⟩⟩
  else do
    let keyType ← raised (getItem letterDetails "key_type")
    let bucketName := if isTest keyType then .testLetters else .lettersPdf
    return ⟨bucketName, filename, ⟨pdf, []⟩, ⟨.updateBillableUnitsForLetter, notificationId, pageCount⟩⟩

/-- `create_pdf_for_templated_letter` from the upload on. -/
def storeLetter (letter : PreparedLetter) : TemplatedLetterTask.PdfAction := do
  match ← upload letter.bucketName letter.filename letter.filedata with
  | .error failure => return caught failure
  | .ok () => do
    send letter.message
    return .ok ()

/-- `create_pdf_for_templated_letter`. -/
def createPdfForTemplatedLetter : Program PrintCall Call.Answer (Except EndpointError Unit) := do
  match ← serviceCalls.program (prepareLetter app printing letterDetails).run with
  | .error error => return .error error
  | .ok letter => do
    let outcome ← pdfCalls.program (storeLetter letter)
    return outcome.mapError .raised

/-- The printing with attachments given. -/
def givenAttachments (attachmentPdf : String → String → Py MemoryFile) : Printing Date :=
  { printing with templates := { printing.templates with attachmentPdf := attachmentPdf } }

end Task

/-! ## Preparing a letter -/

/-- The attachments of a letter are read, and have their contents. Reading fails where
it may. -/
def attachmentReading (attaches : String → String → Prop) (contents : String → String → Bytes) (fails : Prop) :
    Contract PreviewCall Call.Answer where
  asks _ call := ∃ serviceId attachmentId, attaches serviceId attachmentId ∧
    (call = .lookup .letterAttachment (getTransientLetterFileLocation serviceId attachmentId) ∨
      call = .download .letterAttachment (getTransientLetterFileLocation serviceId attachmentId) ∨
      call = .remember .letterAttachment (getTransientLetterFileLocation serviceId attachmentId)
        (Base64.b64encode (contents serviceId attachmentId)))
  relies
    | .lookup bucket key, answer => ∀ serviceId attachmentId, attaches serviceId attachmentId →
      bucket = .letterAttachment → key = getTransientLetterFileLocation serviceId attachmentId →
      ∀ text, answer = some text → text = Base64.b64encode (contents serviceId attachmentId)
    | .download bucket key, answer => ∀ serviceId attachmentId, attaches serviceId attachmentId →
      bucket = .letterAttachment → key = getTransientLetterFileLocation serviceId attachmentId →
      (∀ object, answer = .ok object → object.filedata = contents serviceId attachmentId) ∧
      (fails ∨ ∃ object, answer = .ok object)
    | _, _ => True

section Preparation
variable {app : Application K σ Date} {printing : Printing Date} {letterDetails : Json}
  {attaches : String → String → Prop} {contents : String → String → Bytes} {fails : Prop} {before : List TaskEvent}

theorem computes_raised {contract : Contract PreviewCall Call.Answer} (value : Py α) :
    contract.Computes fails EndpointError.raised value before (raised value) := Contract.computes_ofExcept value

theorem computes_getAttachmentPdf {serviceId attachmentId : String} (attached : attaches serviceId attachmentId) :
    (attachmentReading attaches contents fails).Computes fails EndpointError.raised
      (.ok { bytes := contents serviceId attachmentId }) before
      (LetterPreviews.getAttachmentPdf serviceId attachmentId) := by
  refine Contract.keeps_bind _ (Contract.keeps_bind _ (Contract.keeps_bind _ ?_))
  refine keeps_lookup ⟨serviceId, attachmentId, attached, .inl rfl⟩ (fun text relied => ?_) ?_
  · rw [relied _ _ attached rfl rfl text rfl]
    exact .inl (congrArg (Except.mapError _) (decodeCached_b64encode _))
  refine Contract.keeps_request ⟨serviceId, attachmentId, attached, .inr (.inl rfl)⟩ fun answer relied => ?_
  obtain ⟨holds, answers⟩ := relied _ _ attached rfl rfl
  cases answer with
  | error failure => exact .inr ⟨answers.resolve_right (by simp), _, rfl⟩
  | ok object =>
    have same := holds object rfl
    refine keeps_remember ⟨serviceId, attachmentId, attached, .inr (.inr ?_)⟩ ?_
    · rw [← same]
      rfl
    · rw [← same]
      exact .inl (congrArg (Except.mapError _) (decodeCached_b64encode _))

/-- The parts of a letter are computed as its parts are. -/
private theorem computes_templated {contract : Contract PreviewCall Call.Answer}
    {create : Language → Bool → Endpoint MemoryFile} {plain : Language → Bool → Py MemoryFile}
    (creates : ∀ before language includesFirstPage, contract.Computes fails EndpointError.raised
      (plain language includesFirstPage) before (create language includesFirstPage)) (bilingual : Bool) :
    contract.Computes fails EndpointError.raised
      (if bilingual then do
        let welshPdf ← plain .welsh true
        let englishPdf ← plain .english false
        stitchPdfs app.lib welshPdf englishPdf
      else plain .english true) before
      (if bilingual then do
        let welshPdf ← create .welsh true
        let englishPdf ← create .english false
        raised (stitchPdfs app.lib welshPdf englishPdf)
      else create .english true) := by
  cases bilingual with
  | true =>
    apply Contract.computes_bind (creates _ .welsh true)
    intro later welshPdf _
    exact Contract.computes_bind (creates _ .english false) fun later englishPdf _ => computes_raised _
  | false => exact creates _ .english true

private theorem computes_printed {contract : Contract PreviewCall Call.Answer} {pdf : MemoryFile}
    (purpose : TemplatedLetters.PDFPurpose) :
    contract.Computes fails EndpointError.raised
      (if purpose = .print then do return (← EmbeddedFonts.convertPdfToCmyk app.lib pdf).seek 0
      else return pdf) before
      (if purpose = .print then do
        let converted ← raised (EmbeddedFonts.convertPdfToCmyk app.lib pdf)
        return converted.seek 0
      else return pdf) := by
  split
  · exact Contract.computes_bind (computes_raised _) fun later converted _ => Contract.computes_pure _
  · exact Contract.computes_pure _

/-- A letter is computed as its parts are, from the contents of its attachment. -/
theorem computes_generateTemplatedPdf {templates : TemplatedLetters.Templates Date}
    {create : Json → Language → Bool → Endpoint MemoryFile} {plain : Json → Language → Bool → Py MemoryFile}
    (purpose : TemplatedLetters.PDFPurpose) (alike : templates.str = app.templates.str)
    (attached : ∀ serviceId attachmentId, Attaches app.templates.str letterDetails serviceId attachmentId →
      attaches serviceId attachmentId)
    (creates : ∀ before language includesFirstPage, (attachmentReading attaches contents fails).Computes fails
      EndpointError.raised (plain letterDetails language includesFirstPage) before
      (create letterDetails language includesFirstPage)) :
    (attachmentReading attaches contents fails).Computes fails EndpointError.raised
      (TemplatedLetters.generateTemplatedPdf app.lib
        { templates with
          attachmentPdf := fun serviceId attachmentId => .ok { bytes := contents serviceId attachmentId } }
        letterDetails plain purpose) before
      (LetterPreviews.generateTemplatedPdf app letterDetails create purpose) := by
  simp only [TemplatedLetters.generateTemplatedPdf, bind_assoc]
  apply Contract.computes_bind (computes_raised _)
  intro later template templateFound
  apply Contract.computes_bind (computes_raised _)
  intro later letterLanguages _
  apply Contract.computes_bind (computes_templated creates _)
  intro later pdf _
  apply Contract.computes_bind (computes_printed purpose)
  intro later printed _
  apply Contract.computes_bind (computes_raised _)
  intro later letterAttachment attachmentFound
  cases letterAttachment with
  | none => exact Contract.computes_pure _
  | some letterAttachment =>
    dsimp only
    split
    · rename_i truthy
      apply Contract.computes_bind (computes_raised _)
      intro later serviceId service
      apply Contract.computes_bind (computes_raised _)
      intro later attachmentId id
      rw [alike]
      refine Contract.computes_bind (computes_getAttachmentPdf (attached _ _ ?_)) fun later attachmentPdf _ =>
        computes_raised _
      exact ⟨template, letterAttachment, serviceId, attachmentId, get?_of_getItem templateFound,
        (TemplatedLetterTask.get_eq_ok attachmentFound).symm, truthy, get?_of_getItem service, get?_of_getItem id,
        rfl, rfl⟩
    · exact Contract.computes_pure _

/-- A letter is prepared from the contents of its attachment. -/
theorem computes_prepareLetter
    (attached : ∀ serviceId attachmentId, Attaches printing.templates.str letterDetails serviceId attachmentId →
      attaches serviceId attachmentId) :
    (attachmentReading attaches contents fails).Computes fails EndpointError.raised
      (TemplatedLetterTask.prepareLetter app.lib
        (givenAttachments printing fun serviceId attachmentId => .ok { bytes := contents serviceId attachmentId })
        letterDetails) before (prepareLetter app printing letterDetails) := by
  apply Contract.computes_bind (computes_raised _)
  intro later notificationId _
  have alike : printing.templates.str =
      ({ app with templates := printing.templates } : Application K σ Date).templates.str := rfl
  have prepares (before : List TaskEvent) : (attachmentReading attaches contents fails).Computes fails
      EndpointError.raised _ before (preparePdf app printing letterDetails) :=
    computes_generateTemplatedPdf .print alike attached fun before language includesFirstPage => computes_raised _
  apply Contract.computes_bind (prepares _)
  intro later cmykPdf _
  apply Contract.computes_bind (computes_raised _)
  intro later pageCount _
  apply Contract.computes_bind (computes_raised _)
  intro later filenameItem _
  apply Contract.computes_bind (computes_raised _)
  intro later filename _
  by_cases long : printing.letterMaxPageCount < pageCount
  · simp only [givenAttachments, long, ↓reduceIte]
    exact Contract.computes_pure _
  · simp only [givenAttachments, long, ↓reduceIte]
    exact Contract.computes_bind (computes_raised _) fun later keyType _ => Contract.computes_pure _

end Preparation

end TemplatePreview.PrintTasks
