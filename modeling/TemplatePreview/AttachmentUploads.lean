import TemplatePreview.LetterPreviews
import TemplatePreview.SanitisedPages

/-! What jobs do in the bucket of attachments. Only an attachment that is made again
is uploaded, with its number of pages and its name beside it. -/
namespace TemplatePreview.AttachmentUploads
open Workers ObjectStore Pdf Sanitisation LetterTasks CachedDownloads SanitisedPages
open AttachmentReads (AttachmentJob)
open LetterPreviews (AttachmentCall)

variable {K σ : Type} [Field K] [LinearOrder K]

/-- The details of an attachment that is made again. -/
def attachmentDetails (lib : Libraries K σ) (pdfContent : S3Object) : SanitisationDetails :=
  sanitiseFileContents lib pdfContent.filedata false true

/-- What is stored for an attachment that is made again from a backup. -/
structure RemadeFrom (lib : Libraries K σ) (quote : String → String) (originalFilename : String)
    (pdfContent value : S3Object) : Prop where
  passed : (attachmentDetails lib pdfContent).failed = false
  decoded : decodedFile (attachmentDetails lib pdfContent) = .ok value.filedata
  metadata : value.metadata = [("page_count", (attachmentDetails lib pdfContent).pageCount.elim "None" toString),
    ("filename", quote originalFilename)]

/-- What is uploaded for an attachment was made from the backup that was read. -/
def MadeAgain (lib : Libraries K σ) (quote : String → String) (history : List TaskEvent) (key : String)
    (value : S3Object) : Prop :=
  ∃ serviceId attachmentId originalFilename pdfContent,
    key = getTransientLetterFileLocation serviceId attachmentId ∧
    Event.downloaded .precompiledOriginalsBackup (attachmentId ++ ".pdf") (.ok pdfContent) ∈ history ∧
    RemadeFrom lib quote originalFilename pdfContent value

/-- Attachments are read and remembered in their own bucket, and uploaded there when
they were made again. -/
def attachmentUses (lib : Libraries K σ) (quote : String → String) :
    Contract LetterPreviews.PreviewCall Call.Answer where
  asks history call := AttachmentCall call ∧
    match call with
    | .upload _ key value => MadeAgain lib quote history key value
    | _ => True
  relies _ _ := True

section Programs
variable {lib : Libraries K σ} {quote : String → String}

private theorem uses_getAttachmentPdf (serviceId attachmentId : String) {history : List TaskEvent}
    {next : Except DownloadError MemoryFile → CacheAction SanitiseData β}
    (rest : ∀ later outcome, (attachmentUses lib quote).Keeps (fun _ _ => True) later (next outcome)) :
    (attachmentUses lib quote).Keeps (fun _ _ => True) history
      (AttachmentReads.getAttachmentPdf serviceId attachmentId >>= next) := by
  refine Contract.keeps_bind _ (Contract.keeps_bind _ (Contract.keeps_bind _ ?_))
  refine keeps_lookup ⟨rfl, trivial⟩ (fun text _ => rest _ _) ?_
  refine keeps_download ⟨trivial, trivial⟩ (fun failure => rest _ _) fun object _ => ?_
  exact keeps_remember ⟨rfl, trivial⟩ (rest _ _)

/-- Every job with attachments keeps to their bucket. -/
theorem uses_program (job : AttachmentJob) :
    (attachmentUses lib quote).Keeps (fun _ _ => True) [] (job.program lib quote) := by
  cases job with
  | getAttachmentPdf serviceId attachmentId => exact uses_getAttachmentPdf _ _ fun _ _ => trivial
  | addAttachmentToLetter serviceId templatedLetterPdf attachmentId =>
    refine Contract.keeps_bind _ (uses_getAttachmentPdf _ _ fun later outcome => ?_)
    cases outcome <;> trivial
  | recreatePdf serviceId attachmentId originalFilename =>
    refine Contract.keeps_bind _ (keeps_download ⟨trivial, trivial⟩ (fun failure => trivial) fun pdfContent _ => ?_)
    dsimp only
    split
    · trivial
    rename_i passed
    split
    · trivial
    rename_i fileData decoded
    refine keeps_upload ⟨rfl, serviceId, attachmentId, originalFilename, pdfContent, rfl, ?_, ?_⟩
      (fun failure => trivial) trivial
    · exact List.mem_singleton_self _
    · exact ⟨eq_false_of_ne_true passed, decoded, rfl⟩

end Programs

section Pages
variable {lib : Libraries K σ} {render : Page K σ → Image} {rewrite : GsJob → Page K σ → Page K σ}
  {quote : String → String} {originalFilename : String} {pdfContent value : S3Object}

/-- A stored attachment is described by its metadata, and has the pages of its backup
as ghostscript makes them. -/
theorem RemadeFrom.described (lawful : lib.Lawful render) (pagewise : Pagewise lib rewrite)
    (remade : RemadeFrom lib quote originalFilename pdfContent value) :
    ∃ jobs pages, Normalises jobs ∧ lib.readPages pdfContent.filedata = .ok pages ∧
      lib.readPages value.filedata = .ok (pages.map (afterJobs rewrite jobs)) ∧
      value.metadata = [("page_count", toString pages.length), ("filename", quote originalFilename)] := by
  obtain ⟨text, _, validated, produced, pages, read, file, decoded, count, readValidated, production⟩ :=
    passed_production lawful remade.passed
  obtain ⟨_, jobs, normalises, readAfter⟩ := attachment_pages pagewise readValidated production
  have same : value.filedata = produced.bytes := by
    have decodes := remade.decoded
    rw [decodedFile, attachmentDetails, file] at decodes
    simp only [decoded, Except.ok.injEq] at decodes
    exact decodes.symm
  refine ⟨jobs, pages, normalises, read, same ▸ readAfter, ?_⟩
  rw [remade.metadata, attachmentDetails, count, Option.elim_some]

end Pages

end TemplatePreview.AttachmentUploads
