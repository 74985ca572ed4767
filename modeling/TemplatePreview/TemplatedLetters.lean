import TemplatePreview.JsonSchema
import TemplatePreview.EmbeddedFonts
import TemplatePreview.InMemoryLibraries

/-! Letters that are made from a template, with their attachment, and the endpoint
that counts their pages without building them. The count and the letter agree
only while the first page of a letter in two languages does not matter. -/
namespace TemplatePreview.TemplatedLetters
open Pdf Outcomes JsonSchema EmbeddedFonts

variable {K σ Date : Type}

inductive Language where
  | english
  | welsh
  deriving DecidableEq, Repr

inductive PDFPurpose where
  | preview
  | print
  deriving DecidableEq, Repr

/-- The arguments of `LetterPreviewTemplate` that depend on the request. -/
structure TemplateArguments (Date : Type) where
  template : Json
  values : Option Json
  contactBlock : Json
  logoFileName : Option String
  date : Option Date
  language : Language
  includesFirstPage : Bool

/-- What templates are rendered with. `attachmentPdf` is what `get_attachment_pdf`
gives for the texts of two ids. -/
structure Templates (Date : Type) where
  parseDate : String → Except LibraryError Date
  str : Json → String
  html : TemplateArguments Date → String
  writePdf : String → Bytes
  validationError : Json → String
  attachmentPdf : String → String → Py MemoryFile

/-! ## The schema -/

def letterAttachmentSchema : Schema :=
  oneOf [allOf [ofType [.object], properties [("page_count", ofType [.integer])], required ["page_count"]],
    ofType [.null]]

def templateSchema : Schema :=
  allOf [ofType [.object],
    properties [("service", ofType [.string]), ("subject", ofType [.string]), ("content", ofType [.string]),
      ("letter_attachment", letterAttachmentSchema)],
    required ["subject", "content"]]

def previewSchema : Schema :=
  allOf [ofType [.object],
    properties [("letter_contact_block", ofType [.string, .null]), ("values", ofType [.object, .null]),
      ("template", templateSchema), ("filename", ofType [.string, .null]), ("date", ofType [.string, .null])],
    required ["letter_contact_block", "template", "values", "filename"],
    onlyProperties ["letter_contact_block", "values", "template", "filename", "date"]]

/-- `json[key]`. -/
def getItem (json : Json) (key : String) : Py Json :=
  match json with
  | .object entries =>
    match entries.lookup key with
    | none => throw (.keyError key)
    | some item => return item
  | _ => throw .typeError

/-- `json.get(key)`. -/
def get (json : Json) (key : String) : Py (Option Json) :=
  match json with
  | .object entries => return entries.lookup key
  | _ => throw .attributeError

/-- A number that is added to others. -/
def number : Json → Py ℚ
  | .number value => return value
  | _ => throw .typeError

def isWelshThenEnglish : Option Json → Bool
  | some (.string languages) => languages == "welsh_then_english"
  | _ => false

section Letters
variable (lib : Libraries K σ) (templates : Templates Date)

/-- `get_datetime_from_json`. -/
def getDatetimeFromJson (requestJson : Json) : Py (Option Date) := do
  match ← get requestJson "date" with
  | none => return none
  | some date =>
    if date.truthy then
      match date with
      | .string text => do return some (← call (templates.parseDate text))
      | _ => throw .typeError
    else return none

/-- `get_html`. -/
def getHtml (json : Json) (language : Language) (includesFirstPage : Bool) : Py String := do
  let filename ← getItem json "filename"
  let template ← getItem json "template"
  let values ← getItem json "values"
  let contactBlock ← getItem json "letter_contact_block"
  let date ← getDatetimeFromJson templates json
  return templates.html
    { template := template
      values := if values.truthy then some values else none
      contactBlock := contactBlock
      logoFileName := if filename.truthy then some (templates.str filename ++ ".svg") else none
      date := date
      language := language
      includesFirstPage := includesFirstPage }

/-- `_get_pdf_from_letter_json`. The cache of `get_pdf` cannot be seen. -/
def getPdfFromLetterJson (letterJson : Json) (language : Language) (includesFirstPage : Bool) : Py MemoryFile := do
  let html ← getHtml templates letterJson language includesFirstPage
  return { bytes := templates.writePdf html }

/-- `get_page_count_for_pdf`. -/
def getPageCountForPdf (pdfData : MemoryFile) : Py Nat := do
  let pages ← call (lib.readPages pdfData.bytes)
  return pages.length

/-- `_preview_and_get_page_count`, which leaves `includes_first_page` as it is by
default. -/
def previewAndGetPageCount (letterJson : Json) (language : Language) : Py Nat := do
  let pdf ← getPdfFromLetterJson templates letterJson language true
  getPageCountForPdf lib pdf

structure Counts where
  count : ℚ
  welshPageCount : ℚ
  attachmentPageCount : ℚ
  deriving DecidableEq, Repr

/-- The endpoint `page_count`. -/
def pageCount (json : Json) : Py Counts :=
  if !previewSchema json then throw (.httpException 400 (templates.validationError json))
  else do
    let template ← getItem json "template"
    let attachmentPageCount ← (do
      match ← get template "letter_attachment" with
      | none => return 0
      | some letterAttachment =>
        if letterAttachment.truthy then number (← getItem letterAttachment "page_count") else return 0)
    let welshPageCount ← (do
      if isWelshThenEnglish (← get template "letter_languages") then
        previewAndGetPageCount lib templates json .welsh
      else return 0)
    let englishPagesCount ← previewAndGetPageCount lib templates json .english
    return { count := englishPagesCount + welshPageCount + attachmentPageCount
             welshPageCount := welshPageCount
             attachmentPageCount := attachmentPageCount }

/-- `add_attachment_to_letter`. -/
def addAttachmentToLetter (serviceId : Json) (templatedLetterPdf : MemoryFile) (attachmentObject : Json) :
    Py MemoryFile := do
  let attachmentId ← getItem attachmentObject "id"
  let attachmentPdf ← templates.attachmentPdf (templates.str serviceId) (templates.str attachmentId)
  stitchPdfs lib templatedLetterPdf attachmentPdf

/-- `generate_templated_pdf`. -/
def generateTemplatedPdf (letterDetails : Json) (createPdf : Json → Language → Bool → Py MemoryFile)
    (purpose : PDFPurpose) : Py MemoryFile := do
  let template ← getItem letterDetails "template"
  let pdf ← (do
    if isWelshThenEnglish (← get template "letter_languages") then do
      let welshPdf ← createPdf letterDetails .welsh true
      let englishPdf ← createPdf letterDetails .english false
      stitchPdfs lib welshPdf englishPdf
    else createPdf letterDetails .english true)
  let pdf ← (if purpose = .print then do return (← convertPdfToCmyk lib pdf).seek 0 else return pdf)
  match ← get template "letter_attachment" with
  | none => return pdf
  | some letterAttachment =>
    if letterAttachment.truthy then do
      let serviceId ← getItem template "service"
      addAttachmentToLetter lib templates serviceId pdf letterAttachment
    else return pdf

/-- `prepare_pdf`. -/
def preparePdf (letterDetails : Json) : Py MemoryFile :=
  generateTemplatedPdf lib templates letterDetails (getPdfFromLetterJson templates) .preview

/-! ## When the count is that of the letter -/

/-- The arguments a template is rendered with. -/
def letterArguments (json : Json) (date : Option Date) (language : Language) (includesFirstPage : Bool) :
    TemplateArguments Date where
  template := (json.get? "template").getD .null
  values := (json.get? "values").filter Json.truthy
  contactBlock := (json.get? "letter_contact_block").getD .null
  logoFileName := ((json.get? "filename").filter Json.truthy).map fun filename => templates.str filename ++ ".svg"
  date := date
  language := language
  includesFirstPage := includesFirstPage

/-- The pages that are rendered for a letter. -/
def renderedPages (json : Json) (date : Option Date) (language : Language) (includesFirstPage : Bool) :
    List (Page K σ) :=
  match lib.readPages (templates.writePdf (templates.html
      (letterArguments templates json date language includesFirstPage))) with
  | .ok pages => pages
  | .error _ => []

/-- The attachment of the letter is stored and has as many pages as the letter
says. -/
def AttachmentStored (template : Json) : Prop :=
  ∀ attachment serviceId attachmentId count, template.get? "letter_attachment" = some attachment →
    template.get? "service" = some serviceId → attachment.get? "id" = some attachmentId →
    attachment.get? "page_count" = some (.number count) →
    ∃ file pages, templates.attachmentPdf (templates.str serviceId) (templates.str attachmentId) = .ok file ∧
      lib.readPages file.bytes = .ok pages ∧ (pages.length : ℚ) = count

/-- The endpoint and the letter either both raise, or the count is the number of
pages of the letter. -/
def PageCountAgrees (json : Json) : Prop :=
  match pageCount lib templates json, preparePdf lib templates json with
  | .ok counts, .ok pdf => ∃ pages, lib.readPages pdf.bytes = .ok pages ∧ counts.count = pages.length
  | .error _, .error _ => True
  | _, _ => False

/-- The ids that an attachment is found with are there. -/
def Addressed (template : Json) : Prop :=
  ∀ attachment, template.get? "letter_attachment" = some attachment → attachment.truthy →
    (template.get? "service").isSome ∧ (attachment.get? "id").isSome

/-- The English part of a letter in two languages has as many pages with a first
page as without one. -/
def LayoutIndependent (json template : Json) (date : Option Date) : Prop :=
  isWelshThenEnglish (template.get? "letter_languages") →
    (renderedPages lib templates json date .english true).length =
      (renderedPages lib templates json date .english false).length

end Letters

/-! ## Fields of an accepted letter -/

section Fields
variable {json template item : Json} {key : String}

theorem getItem_ok (found : json.get? key = some item) : getItem json key = .ok item := by
  cases json with
  | object entries =>
    have lookup : entries.lookup key = some item := found
    simp [getItem, lookup]
  | _ => cases found

theorem get_object (entries : List (String × Json)) :
    get (.object entries) key = .ok ((Json.object entries).get? key) := rfl

private theorem previewSchema_object (accepted : previewSchema json = true) : ∃ entries, json = .object entries :=
  object_of_type (accepts_of_allOf accepted (by simp))

theorem previewSchema_required (accepted : previewSchema json = true)
    (member : key ∈ ["letter_contact_block", "template", "values", "filename"]) :
    ∃ item, json.get? key = some item := by
  obtain ⟨entries, rfl⟩ := previewSchema_object accepted
  have keys : required ["letter_contact_block", "template", "values", "filename"] (.object entries) = true :=
    accepts_of_allOf accepted (by simp)
  exact required_present keys member

/-- The template of an accepted letter is an object, and its attachment, if there
is one, has a number of pages. -/
theorem previewSchema_template (accepted : previewSchema json = true) :
    ∃ fields, json.get? "template" = some (.object fields) ∧
      ((Json.object fields).get? "letter_attachment" = none ∨
        (Json.object fields).get? "letter_attachment" = some .null ∨
        ∃ attachment count, (Json.object fields).get? "letter_attachment" = some attachment ∧ attachment.truthy ∧
          attachment.get? "page_count" = some (.number count)) := by
  obtain ⟨template, found⟩ := previewSchema_required accepted (by simp : "template" ∈ _)
  have asked : templateSchema template = true := by
    have fields : properties _ json = true := accepts_of_allOf accepted (List.mem_cons_of_mem _ List.mem_cons_self)
    exact property_accepted fields (by simp) found
  obtain ⟨fields, rfl⟩ := object_of_type (accepts_of_allOf asked (by simp))
  refine ⟨fields, found, ?_⟩
  cases attached : (Json.object fields).get? "letter_attachment" with
  | none => exact .inl rfl
  | some attachment =>
    refine .inr ?_
    have attachmentAsked : letterAttachmentSchema attachment = true := by
      have inner : properties _ (.object fields) = true :=
        accepts_of_allOf asked (List.mem_cons_of_mem _ List.mem_cons_self)
      exact property_accepted inner (by simp) attached
    rcases object_or_null attachmentAsked with object | rfl
    · obtain ⟨entries, rfl⟩ := object_of_type (accepts_of_allOf object (by simp))
      have keys : required ["page_count"] (.object entries) = true := accepts_of_allOf object (by simp)
      obtain ⟨value, counted⟩ := required_present keys (by simp : "page_count" ∈ _)
      have typed : properties [("page_count", ofType [.integer])] (.object entries) = true :=
        accepts_of_allOf object (by simp)
      have integer : ofType [.integer] value = true := property_accepted typed (by simp) counted
      refine .inr ⟨.object entries, ?_⟩
      cases value with
      | number count =>
        refine ⟨count, rfl, ?_, counted⟩
        cases entries with
        | nil => cases counted
        | cons => rfl
      | _ => cases integer
    · exact .inl rfl

end Fields

section Agreement
variable {lib : Libraries K σ} {templates : Templates Date} {json : Json} {date : Option Date}
  {fields : List (String × Json)} {language : Language} {includesFirstPage : Bool}

theorem getHtml_eq (accepted : previewSchema json = true) :
    getHtml templates json language includesFirstPage = (do
      let date ← getDatetimeFromJson templates json
      return templates.html (letterArguments templates json date language includesFirstPage)) := by
  obtain ⟨filename, filenameFound⟩ := previewSchema_required accepted (by simp : "filename" ∈ _)
  obtain ⟨template, templateFound⟩ := previewSchema_required accepted (by simp : "template" ∈ _)
  obtain ⟨values, valuesFound⟩ := previewSchema_required accepted (by simp : "values" ∈ _)
  obtain ⟨contactBlock, contactFound⟩ := previewSchema_required accepted (by simp : "letter_contact_block" ∈ _)
  simp only [getHtml, getItem_ok filenameFound, getItem_ok templateFound, getItem_ok valuesFound,
    getItem_ok contactFound, ok_bind, letterArguments, filenameFound, templateFound, valuesFound, contactFound,
    Option.getD_some, Option.filter]
  refine congrArg _ (funext fun date => ?_)
  cases values.truthy <;> cases filename.truthy <;> rfl

/-- Without a readable date no letter is rendered. -/
private theorem getPdfFromLetterJson_undated (accepted : previewSchema json = true) {error : PyError}
    (undated : getDatetimeFromJson templates json = .error error) :
    getPdfFromLetterJson templates json language includesFirstPage = .error error := by
  rw [getPdfFromLetterJson, getHtml_eq accepted, undated]
  rfl

/-- With a readable date the pages are rendered. -/
private theorem getPdfFromLetterJson_pages (language : Language) (includesFirstPage : Bool)
    (accepted : previewSchema json = true)
    (rendered : ∀ html, ∃ pages, lib.readPages (templates.writePdf html) = .ok pages)
    (dated : getDatetimeFromJson templates json = .ok date) :
    ∃ pdf, getPdfFromLetterJson templates json language includesFirstPage = .ok pdf ∧
      lib.readPages pdf.bytes = .ok (renderedPages lib templates json date language includesFirstPage) := by
  obtain ⟨pages, read⟩ := rendered
    (templates.html (letterArguments templates json date language includesFirstPage))
  refine ⟨{ bytes := templates.writePdf (templates.html
      (letterArguments templates json date language includesFirstPage)) },
    ?_, ?_⟩
  · rw [getPdfFromLetterJson, getHtml_eq accepted, dated]
    rfl
  · rw [renderedPages, read]

private theorem previewAndGetPageCount_eq (accepted : previewSchema json = true)
    (rendered : ∀ html, ∃ pages, lib.readPages (templates.writePdf html) = .ok pages)
    (dated : getDatetimeFromJson templates json = .ok date) :
    previewAndGetPageCount lib templates json language =
      .ok (renderedPages lib templates json date language true).length := by
  obtain ⟨pdf, made, read⟩ := getPdfFromLetterJson_pages language true accepted rendered dated
  rw [previewAndGetPageCount, made, ok_bind, getPageCountForPdf, read]
  rfl

/-- Stitching keeps all pages of both documents. -/
theorem stitchPdfs_pages {render : Page K σ → Image} (lawful : lib.Lawful render) (reliable : lib.Reliable)
    {firstPdf secondPdf : MemoryFile} {first second : List (Page K σ)}
    (readFirst : lib.readPages firstPdf.bytes = .ok first)
    (readSecond : lib.readPages secondPdf.bytes = .ok second) :
    ∃ pdf, stitchPdfs lib firstPdf secondPdf = .ok pdf ∧ lib.readPages pdf.bytes = .ok (first ++ second) := by
  obtain ⟨bytes, written⟩ := reliable.write (first ++ second)
  refine ⟨{ bytes := bytes }, ?_, lawful.written written⟩
  simp only [stitchPdfs, readFirst, readSecond, call_ok, ok_bind, bytesioFromPdf, written, pure_eq_ok]

/-- The pages of a letter without its attachment. -/
def letterPages (lib : Libraries K σ) (templates : Templates Date) (json template : Json) (date : Option Date) :
    List (Page K σ) :=
  if isWelshThenEnglish (template.get? "letter_languages") then
    renderedPages lib templates json date .welsh true ++ renderedPages lib templates json date .english false
  else renderedPages lib templates json date .english true

/-- The pages that are counted for a letter without its attachment. -/
def countedPages (lib : Libraries K σ) (templates : Templates Date) (json template : Json)
    (date : Option Date) : Nat :=
  (renderedPages lib templates json date .english true).length +
    if isWelshThenEnglish (template.get? "letter_languages") then
      (renderedPages lib templates json date .welsh true).length
    else 0

theorem countedPages_eq_iff {template : Json} :
    countedPages lib templates json template date = (letterPages lib templates json template date).length ↔
      LayoutIndependent lib templates json template date := by
  unfold countedPages letterPages LayoutIndependent
  split
  · simp only [List.length_append]
    rename_i bilingual
    simp only [bilingual, forall_const]
    omega
  · simp_all

/-- How many pages the endpoint counts for the attachment. -/
def Attached (template : Json) (count : ℚ) : Prop :=
  (template.get? "letter_attachment" = none ∨ template.get? "letter_attachment" = some .null) ∧ count = 0 ∨
  ∃ attachment, template.get? "letter_attachment" = some attachment ∧ attachment.truthy ∧
    attachment.get? "page_count" = some (.number count)

private theorem attached_of_accepted (accepted : previewSchema json = true)
    (found : json.get? "template" = some (.object fields)) : ∃ count, Attached (.object fields) count := by
  obtain ⟨others, again, attachment⟩ := previewSchema_template accepted
  rw [found] at again
  cases again
  rcases attachment with absent | absent | ⟨attachment, count, present⟩
  · exact ⟨0, .inl ⟨.inl absent, rfl⟩⟩
  · exact ⟨0, .inl ⟨.inr absent, rfl⟩⟩
  · exact ⟨count, .inr ⟨attachment, present⟩⟩

private theorem pageCount_eq (lib : Libraries K σ) (accepted : previewSchema json = true)
    (rendered : ∀ html, ∃ pages, lib.readPages (templates.writePdf html) = .ok pages)
    (dated : getDatetimeFromJson templates json = .ok date) (found : json.get? "template" = some (.object fields))
    {count : ℚ} (attached : Attached (.object fields) count) :
    ∃ counts, pageCount lib templates json = .ok counts ∧
      counts.count = countedPages lib templates json (.object fields) date + count := by
  have counted (language : Language) : previewAndGetPageCount lib templates json language =
      .ok (renderedPages lib templates json date language true).length :=
    previewAndGetPageCount_eq accepted rendered dated
  have attachmentStage : (match (Json.object fields).get? "letter_attachment" with
      | none => (return 0 : Py ℚ)
      | some letterAttachment =>
        if letterAttachment.truthy then do number (← getItem letterAttachment "page_count") else return 0) =
      .ok count := by
    rcases attached with ⟨absent | absent, rfl⟩ | ⟨attachment, present, true, pages⟩
    · rw [absent]
      rfl
    · rw [absent]
      rfl
    · rw [present]
      simp only [true, ↓reduceIte, getItem_ok pages, ok_bind]
      rfl
  simp only [pageCount, accepted, Bool.not_true, Bool.false_eq_true, ↓reduceIte, getItem_ok found, ok_bind,
    get_object]
  rw [attachmentStage]
  simp only [ok_bind, counted]
  unfold countedPages
  split
  · exact ⟨_, rfl, by push_cast; rfl⟩
  · exact ⟨_, rfl, by push_cast; rfl⟩

/-- The part of the letter that is made from the template. -/
private theorem templated_pages {render : Page K σ → Image} (lawful : lib.Lawful render) (reliable : lib.Reliable)
    (accepted : previewSchema json = true)
    (rendered : ∀ html, ∃ pages, lib.readPages (templates.writePdf html) = .ok pages)
    (dated : getDatetimeFromJson templates json = .ok date) (template : Json) :
    ∃ pdf, (if isWelshThenEnglish (template.get? "letter_languages") then do
        let welshPdf ← getPdfFromLetterJson templates json .welsh true
        let englishPdf ← getPdfFromLetterJson templates json .english false
        stitchPdfs lib welshPdf englishPdf
      else getPdfFromLetterJson templates json .english true) = .ok pdf ∧
      lib.readPages pdf.bytes = .ok (letterPages lib templates json template date) := by
  unfold letterPages
  split
  · obtain ⟨welshPdf, welshMade, welshRead⟩ := getPdfFromLetterJson_pages .welsh true accepted rendered dated
    obtain ⟨englishPdf, englishMade, englishRead⟩ :=
      getPdfFromLetterJson_pages .english false accepted rendered dated
    obtain ⟨pdf, stitched, read⟩ := stitchPdfs_pages lawful reliable welshRead englishRead
    exact ⟨pdf, by simp only [welshMade, englishMade, ok_bind, stitched], read⟩
  · exact getPdfFromLetterJson_pages .english true accepted rendered dated

/-- The letter, when its attachment can be found if it has one. -/
private theorem preparePdf_pages {render : Page K σ → Image} (lawful : lib.Lawful render) (reliable : lib.Reliable)
    (accepted : previewSchema json = true)
    (rendered : ∀ html, ∃ pages, lib.readPages (templates.writePdf html) = .ok pages)
    (dated : getDatetimeFromJson templates json = .ok date) (found : json.get? "template" = some (.object fields))
    (stored : AttachmentStored lib templates (.object fields)) {count : ℚ}
    (attached : Attached (.object fields) count)
    (addressed : Addressed (.object fields)) :
    ∃ pdf pages, preparePdf lib templates json = .ok pdf ∧ lib.readPages pdf.bytes = .ok pages ∧
      (pages.length : ℚ) = (letterPages lib templates json (.object fields) date).length + count := by
  obtain ⟨pdf, made, read⟩ := templated_pages lawful reliable accepted rendered dated (.object fields)
  simp only [preparePdf, generateTemplatedPdf, getItem_ok found, ok_bind, get_object, made, reduceCtorEq,
    ↓reduceIte, pure_eq_ok]
  rcases attached with ⟨absent | absent, rfl⟩ | ⟨attachment, present, true, pages⟩
  · rw [absent]
    exact ⟨pdf, _, rfl, read, by simp⟩
  · rw [absent]
    exact ⟨pdf, _, rfl, read, by simp⟩
  · obtain ⟨service, id⟩ := addressed attachment present true
    obtain ⟨serviceId, serviceFound⟩ := Option.isSome_iff_exists.mp service
    obtain ⟨attachmentId, idFound⟩ := Option.isSome_iff_exists.mp id
    obtain ⟨file, others, kept, readFile, long⟩ :=
      stored attachment serviceId attachmentId count present serviceFound idFound pages
    obtain ⟨whole, stitched, readWhole⟩ := stitchPdfs_pages lawful reliable read readFile
    refine ⟨whole, _, ?_, readWhole, by simp [long]⟩
    rw [present]
    simp only [true, ↓reduceIte, getItem_ok serviceFound, ok_bind, addAttachmentToLetter, getItem_ok idFound, kept,
      stitched]

theorem get?_of_getItem {item : Json} {key : String} (found : getItem json key = .ok item) :
    json.get? key = some item := by
  cases json with
  | object entries =>
    cases lookup : entries.lookup key with
    | none => simp [getItem, lookup] at found
    | some value =>
      simp only [getItem, lookup, pure_eq_ok, Except.ok.injEq] at found
      exact lookup.trans (congrArg some found)
  | _ => cases found

/-- A letter that was made had the ids of its attachment. -/
private theorem addressed_of_prepared {pdf : MemoryFile} (found : json.get? "template" = some (.object fields))
    (prepared : preparePdf lib templates json = .ok pdf) : Addressed (.object fields) := by
  intro attachment present true
  rw [preparePdf, generateTemplatedPdf, getItem_ok found, ok_bind] at prepared
  obtain ⟨templated, _, prepared⟩ := bind_eq_ok.mp prepared
  obtain ⟨printed, _, prepared⟩ := bind_eq_ok.mp prepared
  rw [get_object, ok_bind, present] at prepared
  simp only [true, ↓reduceIte] at prepared
  obtain ⟨serviceId, service, prepared⟩ := bind_eq_ok.mp prepared
  obtain ⟨attachmentId, id, _⟩ := bind_eq_ok.mp prepared
  exact ⟨Option.isSome_iff_exists.mpr ⟨serviceId, get?_of_getItem service⟩,
    Option.isSome_iff_exists.mpr ⟨attachmentId, get?_of_getItem id⟩⟩

/-- Without a readable date neither the endpoint nor the letter returns. -/
private theorem undated_raises (lib : Libraries K σ) (accepted : previewSchema json = true) {error : PyError}
    (undated : getDatetimeFromJson templates json = .error error) :
    (∃ raised, pageCount lib templates json = .error raised) ∧
      ∃ raised, preparePdf lib templates json = .error raised := by
  have unrendered (language : Language) (includesFirstPage : Bool) :
      getPdfFromLetterJson templates json language includesFirstPage = .error error :=
    getPdfFromLetterJson_undated accepted undated
  constructor
  · cases counts : pageCount lib templates json with
    | error raised => exact ⟨raised, rfl⟩
    | ok counts' =>
      simp only [pageCount, accepted, Bool.not_true, Bool.false_eq_true, ↓reduceIte] at counts
      obtain ⟨template, _, counts⟩ := bind_eq_ok.mp counts
      obtain ⟨attachmentPages, _, counts⟩ := bind_eq_ok.mp counts
      obtain ⟨welshPages, _, counts⟩ := bind_eq_ok.mp counts
      simp [previewAndGetPageCount, unrendered] at counts
  · cases prepared : preparePdf lib templates json with
    | error raised => exact ⟨raised, rfl⟩
    | ok pdf =>
      simp only [preparePdf, generateTemplatedPdf] at prepared
      obtain ⟨template, _, prepared⟩ := bind_eq_ok.mp prepared
      obtain ⟨templated, made, _⟩ := bind_eq_ok.mp prepared
      obtain ⟨languages, _, made⟩ := bind_eq_ok.mp made
      simp only [unrendered, error_bind] at made
      split at made <;> cases made

/-- With a readable date the two agree for the letters whose attachment can be found
and whose layout does not matter. -/
theorem agrees_of_dated {render : Page K σ → Image} (lawful : lib.Lawful render) (reliable : lib.Reliable)
    (rendered : ∀ html, ∃ pages, lib.readPages (templates.writePdf html) = .ok pages)
    (accepted : previewSchema json = true) (dated : getDatetimeFromJson templates json = .ok date)
    (found : json.get? "template" = some (.object fields))
    (stored : AttachmentStored lib templates (.object fields)) :
    PageCountAgrees lib templates json ↔
      Addressed (.object fields) ∧ LayoutIndependent lib templates json (.object fields) date := by
  obtain ⟨count, attached⟩ := attached_of_accepted accepted found
  obtain ⟨counts, counted, total⟩ := pageCount_eq lib accepted rendered dated found attached
  unfold PageCountAgrees
  rw [counted]
  constructor
  · intro agrees
    cases prepared : preparePdf lib templates json with
    | error raised =>
      rw [prepared] at agrees
      exact agrees.elim
    | ok pdf =>
      have addressed := addressed_of_prepared found prepared
      obtain ⟨whole, pages, made, read, long⟩ :=
        preparePdf_pages lawful reliable accepted rendered dated found stored attached addressed
      rw [prepared] at agrees made
      cases made
      obtain ⟨others, readAgain, same⟩ := agrees
      rw [read] at readAgain
      cases readAgain
      rw [total, long] at same
      refine ⟨addressed, countedPages_eq_iff.mp ?_⟩
      exact_mod_cast add_right_cancel same
  · rintro ⟨addressed, independent⟩
    obtain ⟨whole, pages, made, read, long⟩ :=
      preparePdf_pages lawful reliable accepted rendered dated found stored attached addressed
    rw [made]
    exact ⟨pages, read, by rw [total, long, countedPages_eq_iff.mpr independent]⟩

/-- For accepted letters the count of the endpoint is that of the letter exactly
when the date cannot be read, so that there is neither, or when the attachment has
its ids and the English part of a letter in two languages has as many pages with
a first page as without one. -/
theorem page_count_agrees_iff {render : Page K σ → Image} (lawful : lib.Lawful render) (reliable : lib.Reliable)
    (rendered : ∀ html, ∃ pages, lib.readPages (templates.writePdf html) = .ok pages)
    (accepted : previewSchema json = true)
    (stored : ∀ template, json.get? "template" = some template → AttachmentStored lib templates template) :
    PageCountAgrees lib templates json ↔
      (∃ error, getDatetimeFromJson templates json = .error error) ∨
      ∃ date template, getDatetimeFromJson templates json = .ok date ∧ json.get? "template" = some template ∧
        Addressed template ∧ LayoutIndependent lib templates json template date := by
  obtain ⟨fields, found, _⟩ := previewSchema_template accepted
  cases dated : getDatetimeFromJson templates json with
  | error error =>
    obtain ⟨⟨_, counts⟩, _, prepared⟩ := undated_raises lib accepted dated
    simp [PageCountAgrees, counts, prepared]
  | ok date =>
    rw [agrees_of_dated lawful reliable rendered accepted dated found (stored _ found)]
    constructor
    · exact fun agrees => .inr ⟨date, _, rfl, found, agrees⟩
    · rintro (⟨_, ⟨⟩⟩ | ⟨_, template, ⟨⟩, again, agrees⟩)
      rw [found] at again
      cases again
      exact agrees

end Agreement

section InMemory
open InMemoryLibraries

/-- A renderer for which a text just does not fit on one page with an address
block above it. -/
def tightTemplates : Templates String where
  parseDate date := .ok date
  str _ := ""
  html arguments := if arguments.includesFirstPage then "two pages" else "one page"
  writePdf html := if html = "two pages" then encodePages [blankPage, blankPage] else encodePages [blankPage]
  validationError _ := ""
  attachmentPdf _ _ := .error .typeError

/-- A letter in two languages without an attachment. -/
def bilingualLetter : Json :=
  .object [("letter_contact_block", .null), ("values", .null), ("filename", .null),
    ("template", .object [("subject", .string "Subject"), ("content", .string "Content"),
      ("letter_languages", .string "welsh_then_english")])]

theorem tightTemplates_rendered (html : String) :
    ∃ pages, libraries.readPages (tightTemplates.writePdf html) = .ok pages := by
  simp only [tightTemplates]
  split <;> exact ⟨_, readPages_encodePages _⟩

private theorem bilingualLetter_stored {templates : Templates String} (template : Json)
    (found : bilingualLetter.get? "template" = some template) : AttachmentStored libraries templates template := by
  cases found
  intro attachment _ _ _ present
  cases present

/-- The English part of the letter is counted with a first page that it does not
have. -/
theorem bilingual_letter_is_miscounted :
    ¬ ∀ (templates : Templates String) json,
      (∀ html, ∃ pages, libraries.readPages (templates.writePdf html) = .ok pages) →
      previewSchema json = true →
      (∀ template, json.get? "template" = some template → AttachmentStored libraries templates template) →
      PageCountAgrees libraries templates json := by
  intro always
  have agrees := always tightTemplates bilingualLetter tightTemplates_rendered (by decide) bilingualLetter_stored
  have independent := ((agrees_of_dated lawful reliable tightTemplates_rendered (by decide) rfl rfl
    (bilingualLetter_stored _ rfl)).mp agrees).2 rfl
  have long : renderedPages libraries tightTemplates bilingualLetter none .english true =
      [blankPage, blankPage] := by
    rw [renderedPages, show tightTemplates.writePdf _ = encodePages [blankPage, blankPage] from rfl,
      readPages_encodePages]
  have short : renderedPages libraries tightTemplates bilingualLetter none .english false = [blankPage] := by
    rw [renderedPages, show tightTemplates.writePdf _ = encodePages [blankPage] from rfl, readPages_encodePages]
  rw [long, short] at independent
  cases independent

/-- A renderer for which every text fits on one page. -/
def roomyTemplates : Templates String := { tightTemplates with writePdf := fun _ => encodePages [blankPage] }

theorem bilingual_letter_agrees : PageCountAgrees libraries roomyTemplates bilingualLetter := by
  have rendered (html : String) : ∃ pages, libraries.readPages (roomyTemplates.writePdf html) = .ok pages :=
    ⟨[blankPage], readPages_encodePages _⟩
  refine (page_count_agrees_iff lawful reliable rendered (by decide) bilingualLetter_stored).mpr
    (.inr ⟨none, _, rfl, rfl, ?_, fun _ => ?_⟩)
  · intro attachment present
    cases present
  · have alike (includesFirstPage : Bool) :
        renderedPages libraries roomyTemplates bilingualLetter none .english includesFirstPage = [blankPage] := by
      rw [renderedPages, show roomyTemplates.writePdf _ = encodePages [blankPage] from rfl, readPages_encodePages]
    rw [alike, alike]

end InMemory

end TemplatePreview.TemplatedLetters
