import TemplatePreview.PreviewEndpoints
import TemplatePreview.Procedures

/-! The endpoints that preview a letter, with the calls they make: every document is
rendered through the render cache, and the attachment is read through the cache of
its process. What they return is what the same functions return without calls, given
the attachment that was read. -/
namespace TemplatePreview.LetterPreviews
open Workers ObjectStore Pdf Outcomes LetterTasks CachedDownloads RenderCache JsonSchema PreviewEndpoints
open AttachmentReads (ReadIn attachmentContract)
open TemplatedLetters (Templates Language PDFPurpose Counts previewSchema getItem get getHtml number
  getPageCountForPdf isWelshThenEnglish)

variable {K σ Date : Type}

abbrev PreviewCall : Type := Call Bucket String S3Object String SanitiseData

abbrev Endpoint (α : Type) : Type := Raising EndpointError PreviewCall Call.Answer α

/-- What is computed without a call. -/
def raised (value : Py α) : Endpoint α := ofExcept (value.mapError .raised)

section Endpoints
variable (app : Application K σ Date)

/-- `get_pdf`. -/
def getPdf (html : String) : Endpoint MemoryFile := ExceptT.mk do
  return (← RenderCache.getPdf app.renderers html).mapError .render

/-- `get_attachment_pdf`. -/
def getAttachmentPdf (serviceId attachmentId : String) : Endpoint MemoryFile := ExceptT.mk do
  return (← AttachmentReads.getAttachmentPdf serviceId attachmentId).mapError fun error => .render (.download error)

/-- `_get_pdf_from_letter_json`. -/
def getPdfFromLetterJson (letterJson : Json) (language : Language) (includesFirstPage : Bool) :
    Endpoint MemoryFile := do
  let html ← raised (getHtml app.templates letterJson language includesFirstPage)
  getPdf app html

/-- `_preview_and_get_page_count`. -/
def previewAndGetPageCount (letterJson : Json) (language : Language) : Endpoint Nat := do
  let pdf ← getPdfFromLetterJson app letterJson language true
  raised (getPageCountForPdf app.lib pdf)

/-- The endpoint `page_count`. -/
def pageCount (json : Json) : Endpoint Counts :=
  if !previewSchema json then throw (.render (.abort 400 (app.templates.validationError json)))
  else do
    let template ← raised (getItem json "template")
    let letterAttachment ← raised (get template "letter_attachment")
    let attachmentPageCount ← raised (match letterAttachment with
      | none => return 0
      | some letterAttachment =>
        if letterAttachment.truthy then do number (← getItem letterAttachment "page_count") else return 0)
    let letterLanguages ← raised (get template "letter_languages")
    let welshPageCount ← (if isWelshThenEnglish letterLanguages then previewAndGetPageCount app json .welsh
      else return 0)
    let englishPagesCount ← previewAndGetPageCount app json .english
    return { count := englishPagesCount + welshPageCount + attachmentPageCount
             welshPageCount := welshPageCount
             attachmentPageCount := attachmentPageCount }

/-- `add_attachment_to_letter`. -/
def addAttachmentToLetter (serviceId : Json) (templatedLetterPdf : MemoryFile) (attachmentObject : Json) :
    Endpoint MemoryFile := do
  let attachmentId ← raised (getItem attachmentObject "id")
  let attachmentPdf ← getAttachmentPdf (app.templates.str serviceId) (app.templates.str attachmentId)
  raised (stitchPdfs app.lib templatedLetterPdf attachmentPdf)

/-- `generate_templated_pdf`. -/
def generateTemplatedPdf (letterDetails : Json) (createPdf : Json → Language → Bool → Endpoint MemoryFile)
    (purpose : PDFPurpose) : Endpoint MemoryFile := do
  let template ← raised (getItem letterDetails "template")
  let letterLanguages ← raised (get template "letter_languages")
  let pdf ← (if isWelshThenEnglish letterLanguages then do
      let welshPdf ← createPdf letterDetails .welsh true
      let englishPdf ← createPdf letterDetails .english false
      raised (stitchPdfs app.lib welshPdf englishPdf)
    else createPdf letterDetails .english true)
  let pdf ← (if purpose = .print then do
      let converted ← raised (EmbeddedFonts.convertPdfToCmyk app.lib pdf)
      return converted.seek 0
    else return pdf)
  match ← raised (get template "letter_attachment") with
  | none => return pdf
  | some letterAttachment =>
    if letterAttachment.truthy then do
      let serviceId ← raised (getItem template "service")
      addAttachmentToLetter app serviceId pdf letterAttachment
    else return pdf

/-- `prepare_pdf`. -/
def preparePdf (letterDetails : Json) : Endpoint MemoryFile :=
  generateTemplatedPdf app letterDetails (getPdfFromLetterJson app) .preview

/-- `view_letter_template_pdf`. -/
def viewLetterTemplatePdf (json : Json) (page : Option String) : Endpoint MemoryFile :=
  if page.isSome then throw (.render (.abort 400 ""))
  else if !previewSchema json then throw (.render (.abort 400 (app.templates.validationError json)))
  else preparePdf app json

/-- `png_from_pdf`. -/
def pngFromPdf (data : MemoryFile) (pageNumber : Int) (hideNotify : Bool) : Endpoint MemoryFile := ExceptT.mk do
  return (← RenderCache.pngFromPdf app.lib app.renderers data pageNumber hideNotify).mapError .render

/-- `view_letter_template_png`, `int` being the constructor of integers. The page is
asked for in the text of the request, which is read once the letter is prepared. -/
def viewLetterTemplatePng (int : String → Py Int) (json : Json) (page : Option String) : Endpoint MemoryFile :=
  if !previewSchema json then throw (.render (.abort 400 (app.templates.validationError json)))
  else do
    let pdf ← preparePdf app json
    let requestedPage ← raised (match page with
      | none => return 1
      | some page => int page)
    pngFromPdf app pdf requestedPage false

/-- `view_letter_attachment_preview`, whose page is read before the attachment. -/
def viewLetterAttachmentPreview (int : String → Py Int) (json : Json) (page : Option String) : EndpointAction :=
  match page with
  | none => return abort 400 ""
  | some page =>
    if !letterAttachmentPreviewSchema json then return abort 400 (app.templates.validationError json)
    else
      match int page with
      | .error error => return .error (.raised error)
      | .ok requestedPage => PreviewEndpoints.viewLetterAttachmentPreview app json (some requestedPage)

end Endpoints

/-- A request about a whole letter. -/
inductive PreviewJob where
  | pageCount (json : Json)
  | letterPdf (json : Json) (page : Option String)

inductive PreviewResult where
  | counts (outcome : Except EndpointError Counts)
  | pdf (outcome : Response)

def PreviewJob.json : PreviewJob → Json
  | .pageCount json | .letterPdf json _ => json

def PreviewJob.program (app : Application K σ Date) : PreviewJob → CacheAction SanitiseData PreviewResult
  | .pageCount json => do return .counts (← (LetterPreviews.pageCount app json).run)
  | .letterPdf json page => do return .pdf (← (viewLetterTemplatePdf app json page).run)

/-! ## Contracts -/

/-- The calls of jobs that read attachments or make them again. -/
def AttachmentCall : PreviewCall → Prop
  | .download .. => True
  | .upload bucket .. | .lookup bucket _ | .remember bucket .. => bucket = .letterAttachment
  | .copy .. | .attempt | .send _ => False

/-- What a preview calls. -/
inductive Called where
  | rendering (job : RenderJob)
  | reading (serviceId attachmentId : String)

section Contract
variable (app : Application K σ Date) (calls : RenderJob → Prop)

def calledContract : Called → Contract PreviewCall Call.Answer
  | .rendering job => renderContract app.lib app.renderers calls job
  | .reading serviceId attachmentId =>
    (attachmentContract (.getAttachmentPdf serviceId attachmentId)).both (.within AttachmentCall)

def previewContract : Contract PreviewCall Call.Answer := .anyOf (calledContract app calls)

/-- The documents that a preview renders are among the calls. -/
def PreviewJob.RendersWithin (job : PreviewJob) : Prop :=
  ∀ language includesFirstPage html, getHtml app.templates job.json language includesFirstPage = .ok html →
    calls (.getPdf html)

/-- Templates that are rendered without a cache, and attachments given. -/
def givenAttachments (attachmentPdf : String → String → Py MemoryFile) : Templates Date :=
  { app.templates with writePdf := app.renderers.writePdf, attachmentPdf := attachmentPdf }

/-- The attachments given were read in the end of a history. -/
def ReadLast (history : List TaskEvent) (attachmentPdf : String → String → Py MemoryFile) : Prop :=
  ∀ serviceId attachmentId file, attachmentPdf serviceId attachmentId = .ok file →
    ∃ earlier own, history = earlier ++ own ∧ ReadIn serviceId attachmentId own file

/-- A preview returns what it would return without caches. -/
def PreviewJob.post : PreviewJob → List TaskEvent → PreviewResult → Prop
  | .pageCount json, _, result => ∀ counts, result = .counts (.ok counts) → ∀ attachmentPdf,
    TemplatedLetters.pageCount app.lib (givenAttachments app attachmentPdf) json = .ok counts
  | .letterPdf json _, history, result => ∀ pdf, result = .pdf (.ok pdf) → ∃ attachmentPdf,
    ReadLast history attachmentPdf ∧
      TemplatedLetters.preparePdf app.lib (givenAttachments app attachmentPdf) json = .ok pdf

end Contract

section Programs
variable {app : Application K σ Date} {calls : RenderJob → Prop} {before : List TaskEvent}
  {post : List TaskEvent → α → Prop}

theorem calledContract_monotone (called : Called) : (calledContract app calls called).Monotone := by
  intro before later call asked
  cases called with
  | rendering job => exact asked
  | reading serviceId attachmentId =>
    refine ⟨?_, asked.2⟩
    cases call with
    | remember bucket key text =>
      obtain ⟨object, downloaded, same⟩ := asked.1
      exact ⟨object, List.mem_append_right _ downloaded, same⟩
    | _ => exact asked.1

section Rules
variable {contract : Contract PreviewCall Call.Answer}

theorem yields_raised {value : Py α} {next : α → Endpoint β} {post : List TaskEvent → β → Prop}
    (rest : ∀ result, value = .ok result → contract.Yields post before (next result)) :
    contract.Yields post before (raised value >>= next) := by
  refine Contract.yields_ofExcept fun result returned => rest result ?_
  cases value with
  | ok other => exact congrArg _ (Except.ok.inj returned)
  | error => cases returned

theorem yields_returned {value : Py α} (holds : ∀ result, value = .ok result → post before result) :
    contract.Yields post before (raised value) := by
  cases value with
  | ok result => exact Contract.yields_pure (holds result rfl)
  | error error => exact Contract.yields_throw _

/-- The parts of a letter are rendered as they would be without calls. -/
private theorem yields_templated {create : Language → Bool → Endpoint MemoryFile}
    {plain : Language → Bool → Py MemoryFile}
    (creates : ∀ before language includesFirstPage,
      contract.Yields (fun _ file => plain language includesFirstPage = .ok file) before
        (create language includesFirstPage)) (bilingual : Bool) :
    contract.Yields (fun _ pdf =>
      (if bilingual then do
        let welshPdf ← plain .welsh true
        let englishPdf ← plain .english false
        stitchPdfs app.lib welshPdf englishPdf
      else plain .english true) = .ok pdf) before
      (if bilingual then do
        let welshPdf ← create .welsh true
        let englishPdf ← create .english false
        raised (stitchPdfs app.lib welshPdf englishPdf)
      else create .english true) := by
  cases bilingual with
  | true =>
    apply Contract.yields_bind (creates _ .welsh true)
    intro _ welshPdf welsh
    apply Contract.yields_bind (creates _ .english false)
    intro _ englishPdf english
    apply yields_returned
    intro pdf stitched
    exact bind_eq_ok.mpr ⟨welshPdf, welsh, bind_eq_ok.mpr ⟨englishPdf, english, stitched⟩⟩
  | false => exact creates _ .english true

private theorem yields_printed {pdf : MemoryFile} (purpose : PDFPurpose) :
    contract.Yields (fun _ file =>
      (if purpose = .print then do return (← EmbeddedFonts.convertPdfToCmyk app.lib pdf).seek 0 else return pdf) =
        Except.ok file) before
      (if purpose = .print then do
        let converted ← raised (EmbeddedFonts.convertPdfToCmyk app.lib pdf)
        return converted.seek 0
      else return pdf) := by
  split
  · refine yields_raised fun converted ran => Contract.yields_pure ?_
    exact bind_eq_ok.mpr ⟨converted, ran, rfl⟩
  · exact Contract.yields_pure rfl

/-- A letter is made of its parts as they are rendered without calls, and of the
attachment that is read at the end. -/
theorem yields_generateTemplatedPdf {letterDetails : Json} {create : Json → Language → Bool → Endpoint MemoryFile}
    (plain : Json → Language → Bool → Py MemoryFile) (purpose : PDFPurpose) {templates : Templates Date}
    (alike : templates.str = app.templates.str)
    (reads : ∀ before serviceId attachmentId, contract.Yields
      (fun whole file => ∃ earlier own, whole = earlier ++ own ∧ ReadIn serviceId attachmentId own file) before
      (getAttachmentPdf serviceId attachmentId))
    (creates : ∀ before language includesFirstPage, contract.Yields
      (fun _ file => plain letterDetails language includesFirstPage = .ok file) before
      (create letterDetails language includesFirstPage)) :
    contract.Yields
      (fun history file => ∃ attachmentPdf, ReadLast history attachmentPdf ∧
        TemplatedLetters.generateTemplatedPdf app.lib
        { templates with attachmentPdf := attachmentPdf } letterDetails plain purpose = .ok file) before
      (generateTemplatedPdf app letterDetails create purpose) := by
  refine yields_raised fun template templateFound => yields_raised fun letterLanguages languagesFound => ?_
  apply Contract.yields_bind (yields_templated creates _)
  intro later pdf made
  apply Contract.yields_bind (yields_printed purpose)
  intro later file printed
  apply yields_raised
  intro letterAttachment attachmentFound
  -- without calls the same stages follow one another
  have prepared (attachmentPdf : String → String → Py MemoryFile) {whole : MemoryFile}
      (attached : (match letterAttachment with
        | none => return file
        | some letterAttachment =>
          if letterAttachment.truthy then do
            let serviceId ← getItem template "service"
            TemplatedLetters.addAttachmentToLetter app.lib { templates with attachmentPdf := attachmentPdf }
              serviceId file letterAttachment
          else return file) = Except.ok whole) :
      TemplatedLetters.generateTemplatedPdf app.lib { templates with attachmentPdf := attachmentPdf }
        letterDetails plain purpose = .ok whole :=
    bind_eq_ok.mpr ⟨template, templateFound, bind_eq_ok.mpr
      ⟨pdf, bind_eq_ok.mpr ⟨letterLanguages, languagesFound, made⟩, bind_eq_ok.mpr
        ⟨file, printed, bind_eq_ok.mpr ⟨letterAttachment, attachmentFound, attached⟩⟩⟩⟩
  cases letterAttachment with
  | none => exact Contract.yields_pure ⟨fun _ _ => throw .typeError, fun _ _ _ => nofun, prepared _ rfl⟩
  | some letterAttachment =>
    dsimp only at prepared ⊢
    split
    · rename_i truthy
      simp only [truthy, ↓reduceIte] at prepared
      refine yields_raised fun serviceId service => yields_raised fun attachmentId id => ?_
      apply Contract.yields_bind (reads _ _ _)
      intro later attachment read
      refine yields_returned fun whole stitched => ⟨fun service id =>
        if service = app.templates.str serviceId ∧ id = app.templates.str attachmentId then .ok attachment
        else throw .typeError, fun otherService otherId other given => ?_, prepared _ ?_⟩
      · dsimp only at given
        split_ifs at given with same
        obtain ⟨rfl, rfl⟩ := same
        cases given
        exact read
      · refine bind_eq_ok.mpr ⟨serviceId, service, bind_eq_ok.mpr ⟨attachmentId, id, ?_⟩⟩
        exact bind_eq_ok.mpr ⟨attachment, if_pos ⟨congrFun alike _, congrFun alike _⟩, stitched⟩
    · rename_i falsy
      simp only [falsy, Bool.false_eq_true, ↓reduceIte] at prepared
      exact Contract.yields_pure ⟨fun _ _ => throw .typeError, fun _ _ _ => nofun, prepared _ rfl⟩

end Rules

/-- A document is rendered as it would be without a cache. -/
theorem yields_getPdf {html : String} (member : calls (.getPdf html)) :
    (previewContract app calls).Yields
      (fun _ file => file = { bytes := app.renderers.writePdf html }) before (getPdf app html) := by
  have keeps : (renderContract app.lib app.renderers calls (.getPdf html)).Keeps
      (fun _ result => ∀ file, result = .ok file → file = { bytes := app.renderers.writePdf html }) []
      (getPdf app html).run := by
    refine Contract.keeps_bind _ ((RenderCache.program_keeps member).mono fun later outcome transparent => ?_)
    cases outcome with
    | ok file =>
      rintro _ ⟨⟩
      exact (Except.ok.inj (transparent file rfl)).symm
    | error error =>
      rintro _ ⟨⟩
  apply (Contract.Keeps.anyOf (.rendering (.getPdf html)) keeps (calledContract_monotone _)).mono
  rintro _ result ⟨_, _, returned⟩
  exact returned

/-- An attachment is read in calls of its own. -/
theorem yields_getAttachmentPdf (serviceId attachmentId : String) :
    (previewContract app calls).Yields
      (fun whole file => ∃ earlier own, whole = earlier ++ own ∧ ReadIn serviceId attachmentId own file) before
      (getAttachmentPdf serviceId attachmentId) := by
  have keeps : (calledContract app calls (.reading serviceId attachmentId)).Keeps
      (fun history result => ∀ file, result = .ok file → ReadIn serviceId attachmentId history file) []
      (getAttachmentPdf serviceId attachmentId).run := by
    refine keeps_cachingS3download (fun text relied => relied.1 text rfl) ⟨trivial, rfl⟩ (fun bytes _ => ?_)
      ⟨trivial, trivial⟩ (fun failure => ?_) (fun object _ => ⟨⟨object, by simp, rfl⟩, rfl⟩) fun object _ => ?_
    · rintro _ ⟨⟩
      refine ⟨bytes, rfl, .inr ⟨List.mem_singleton_self _, fun missed => ?_⟩⟩
      cases List.mem_singleton.mp missed
    · rintro _ ⟨⟩
    · rintro _ ⟨⟩
      exact ⟨_, rfl, .inl ⟨object, rfl, by simp [getTransientLetterFileLocation]⟩⟩
  apply (Contract.Keeps.anyOf (.reading serviceId attachmentId) keeps (calledContract_monotone _)).mono
  rintro whole result ⟨own, same, read⟩ file returned
  exact ⟨before, own, same, read file returned⟩

section Letters
variable {json : Json} (within : ∀ language includesFirstPage html,
  getHtml app.templates json language includesFirstPage = .ok html → calls (.getPdf html))
include within

theorem yields_getPdfFromLetterJson (language : Language) (includesFirstPage : Bool) :
    (previewContract app calls).Yields
      (fun _ file => ∀ attachmentPdf, TemplatedLetters.getPdfFromLetterJson (givenAttachments app attachmentPdf) json
        language includesFirstPage = .ok file) before
      (getPdfFromLetterJson app json language includesFirstPage) := by
  apply yields_raised
  intro html made
  apply Contract.Keeps.mono (yields_getPdf (within _ _ _ made))
  intro later result described file returned attachmentPdf
  rw [described file returned, TemplatedLetters.getPdfFromLetterJson]
  exact bind_eq_ok.mpr ⟨html, made, rfl⟩

theorem yields_previewAndGetPageCount (language : Language) :
    (previewContract app calls).Yields
      (fun _ count => ∀ attachmentPdf, TemplatedLetters.previewAndGetPageCount app.lib
        (givenAttachments app attachmentPdf) json language = .ok count) before
      (previewAndGetPageCount app json language) := by
  apply Contract.yields_bind (yields_getPdfFromLetterJson within language true)
  intro later pdf rendered
  apply yields_returned
  intro count counted attachmentPdf
  exact bind_eq_ok.mpr ⟨pdf, rendered attachmentPdf, counted⟩

/-- The count of a letter does not depend on the caches, and no attachment is read. -/
theorem yields_pageCount :
    (previewContract app calls).Yields
      (fun _ counts => ∀ attachmentPdf, TemplatedLetters.pageCount app.lib (givenAttachments app attachmentPdf) json =
        .ok counts) before (pageCount app json) := by
  unfold pageCount
  split
  · exact Contract.yields_throw _
  rename_i accepted
  refine yields_raised fun template templateFound => yields_raised fun letterAttachment attachmentFound =>
    yields_raised fun attachmentPageCount attachmentCounted => yields_raised fun letterLanguages languagesFound => ?_
  have welsh : (previewContract app calls).Yields (fun _ count => ∀ attachmentPdf,
      (if isWelshThenEnglish letterLanguages then
        TemplatedLetters.previewAndGetPageCount app.lib (givenAttachments app attachmentPdf) json .welsh
      else return 0) = .ok count) before
      (if isWelshThenEnglish letterLanguages then previewAndGetPageCount app json .welsh else return 0) := by
    split
    · exact yields_previewAndGetPageCount within .welsh
    · exact Contract.yields_pure fun _ => rfl
  apply Contract.yields_bind welsh
  intro later welshPageCount welshCounted
  apply Contract.yields_bind (yields_previewAndGetPageCount within .english)
  intro _ englishPagesCount counted
  apply Contract.yields_pure
  intro attachmentPdf
  rw [TemplatedLetters.pageCount, if_neg accepted]
  refine bind_eq_ok.mpr ⟨template, templateFound, bind_eq_ok.mpr ⟨attachmentPageCount, ?_, ?_⟩⟩
  · exact bind_eq_ok.mpr ⟨letterAttachment, attachmentFound, attachmentCounted⟩
  refine bind_eq_ok.mpr ⟨welshPageCount, ?_, bind_eq_ok.mpr ⟨englishPagesCount, counted attachmentPdf, rfl⟩⟩
  exact bind_eq_ok.mpr ⟨letterLanguages, languagesFound, welshCounted attachmentPdf⟩

/-- A letter is made of what is rendered without a cache, and of the attachment that
is read at the end. -/
theorem yields_preparePdf :
    (previewContract app calls).Yields
      (fun history file => ∃ attachmentPdf, ReadLast history attachmentPdf ∧
        TemplatedLetters.preparePdf app.lib (givenAttachments app attachmentPdf) json = .ok file) before
      (preparePdf app json) := by
  have templated : (previewContract app calls).Yields _ before
      (generateTemplatedPdf app json (getPdfFromLetterJson app) .preview) :=
    yields_generateTemplatedPdf
      (TemplatedLetters.getPdfFromLetterJson (givenAttachments app app.templates.attachmentPdf)) .preview
      (show (givenAttachments app app.templates.attachmentPdf).str = app.templates.str from rfl)
      (fun _ => yields_getAttachmentPdf) fun _ language includesFirstPage =>
        (yields_getPdfFromLetterJson within language includesFirstPage).mono
          fun _ _ described file returned => described file returned _
  exact templated

end Letters

/-- Every preview keeps to its contract. -/
theorem preview_keeps {job : PreviewJob} (within : job.RendersWithin app calls) :
    (previewContract app calls).Keeps (job.post app) [] (job.program app) := by
  cases job with
  | pageCount json =>
    refine Contract.keeps_bind _ (Contract.Keeps.mono (yields_pageCount within) fun history result described => ?_)
    rintro counts ⟨⟩
    exact described counts rfl
  | letterPdf json page =>
    apply Contract.keeps_bind (viewLetterTemplatePdf app json page).run
    have prepares : (previewContract app calls).Yields (fun history file => ∃ attachmentPdf,
        ReadLast history attachmentPdf ∧
          TemplatedLetters.preparePdf app.lib (givenAttachments app attachmentPdf) json = .ok file) []
        (viewLetterTemplatePdf app json page) := by
      unfold viewLetterTemplatePdf
      split
      · exact Contract.yields_throw _
      split
      · exact Contract.yields_throw _
      exact yields_preparePdf within
    apply Contract.Keeps.mono prepares
    intro history result described
    rintro pdf ⟨⟩
    exact described pdf rfl

end Programs

end TemplatePreview.LetterPreviews
