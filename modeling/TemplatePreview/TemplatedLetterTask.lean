import TemplatePreview.TemplatedLetters
import TemplatePreview.RewriteStages
import TemplatePreview.LetterTasks
import TemplatePreview.LetterColours

/-! The task that makes the PDF of a letter from its template, stores it and sends a
message about it. The number of pages of the whole PDF decides where it is stored and
what the message is. -/
namespace TemplatePreview.TemplatedLetterTask
open Pdf Outcomes EmbeddedFonts Workers ObjectStore LetterTasks TemplatedLetters RewriteStages

variable {K σ Date : Type}

/-- The buckets that the task writes to. -/
inductive PdfBucket where
  | invalidPdf
  | testLetters
  | lettersPdf
  deriving DecidableEq, Repr

inductive TaskName where
  | updateBillableUnitsForLetter
  | updateValidationFailedForTemplatedLetter
  deriving DecidableEq, Repr

/-- A message with the arguments of the task it starts. -/
structure Message where
  name : TaskName
  notificationId : Json
  pageCount : Nat

/-- What `html.write_pdf()` raises. -/
inductive RenderingError where
  | weasyprintError (text : String)
  | other (error : LibraryError)
  deriving DecidableEq, Repr

/-- What the task is run with. `writePdf` renders a letter and `retry` is what
`task.retry` raises. -/
structure Printing (Date : Type) where
  templates : Templates Date
  writePdf : TemplateArguments Date → Except RenderingError Bytes
  retry : String → PyError
  letterMaxPageCount : Nat

abbrev PdfEvent : Type := ObjectStore.Event PdfBucket String S3Object String Message
abbrev PdfAction : Type := Action PdfBucket String S3Object String Message (Py Unit)

/-- A string argument. Others are refused before anything is stored. -/
def text : Json → Py String
  | .string text => return text
  | _ => throw .attributeError

/-- `letter_details["key_type"] == "test"`. -/
def isTest : Json → Bool
  | .string keyType => keyType == "test"
  | _ => false

/-- `_remove_folder_from_filename`. -/
def removeFolderFromFilename (filename : String) : String :=
  let filenameParts := (filename.toList.splitOn '/').map String.ofList
  let index := if 1 < filenameParts.length then 1 else 0
  filenameParts.getD index ""

section Task
variable (lib : Libraries K σ) (printing : Printing Date) (letterDetails : Json)

/-- The `LetterPrintTemplate` of `_create_pdf_for_letter`. -/
def letterPrintTemplate (language : Language) (includesFirstPage : Bool) : Py (TemplateArguments Date) := do
  let logoFilename ← getItem letterDetails "logo_filename"
  let template ← getItem letterDetails "template"
  let values ← getItem letterDetails "values"
  let contactBlock ← getItem letterDetails "letter_contact_block"
  let date ← getDatetimeFromJson printing.templates letterDetails
  return { template := template
           values := if values.truthy then some values else none
           contactBlock := contactBlock
           logoFileName :=
             if logoFilename.truthy then some (printing.templates.str logoFilename ++ ".svg") else none
           date := date
           language := language
           includesFirstPage := includesFirstPage }

/-- `_create_pdf_for_letter`. -/
def createPdfForLetter (language : Language) (includesFirstPage : Bool) : Py MemoryFile := do
  let template ← letterPrintTemplate printing letterDetails language includesFirstPage
  match printing.writePdf template with
  | .ok pdf => return { bytes := pdf }
  | .error (.weasyprintError exc) => throw (printing.retry exc)
  | .error (.other error) => throw (.library error)

/-- `_prepare_pdf`. -/
def preparePdf : Py MemoryFile :=
  generateTemplatedPdf lib printing.templates letterDetails (createPdfForLetter printing) .print

/-- Where a PDF is to be stored, and the message about it. -/
structure PreparedLetter where
  bucketName : PdfBucket
  filename : String
  filedata : S3Object
  message : Message

/-- `create_pdf_for_templated_letter` up to the upload. -/
def prepareLetter : Py PreparedLetter := do
  let notificationId ← getItem letterDetails "notification_id"
  let cmykPdf ← preparePdf lib printing letterDetails
  let pageCount ← getPageCountForPdf lib cmykPdf
  let pdf := (cmykPdf.seek 0).read.1
  let filename ← text (← getItem letterDetails "letter_filename")
  if printing.letterMaxPageCount < pageCount then
    let metadata := [("validation_status", "failed"), ("message", "letter-too-long"),
      ("page_count", toString pageCount)]
    return ⟨.invalidPdf, removeFolderFromFilename filename, ⟨pdf, metadata⟩,
      ⟨.updateValidationFailedForTemplatedLetter, notificationId, pageCount⟩⟩
  else do
    let keyType ← getItem letterDetails "key_type"
    let bucketName := if isTest keyType then .testLetters else .lettersPdf
    return ⟨bucketName, filename, ⟨pdf, []⟩, ⟨.updateBillableUnitsForLetter, notificationId, pageCount⟩⟩

/-- `create_pdf_for_templated_letter`. -/
def createPdfForTemplatedLetter : PdfAction :=
  match prepareLetter lib printing letterDetails with
  | .error error => return .error error
  | .ok letter => do
    match ← upload letter.bucketName letter.filename letter.filedata with
    | .error failure => return caught failure
    | .ok () => do
      send letter.message
      return .ok ()

/-! ## The parts of a letter -/

/-- The languages a letter is rendered in, and which of them has the first page. -/
def partsOf (template : Json) : List (Language × Bool) :=
  if isWelshThenEnglish (template.get? "letter_languages") then [(.welsh, true), (.english, false)]
  else [(.english, true)]

/-- A part is rendered as these pages. -/
def Rendered (part : Language × Bool) (pages : List (Page K σ)) : Prop :=
  ∃ file, createPdfForLetter printing letterDetails part.1 part.2 = .ok file ∧ lib.readPages file.bytes = .ok pages

/-- Rendering a part raises `WeasyprintError`. -/
def RaisesWeasyprintError (part : Language × Bool) : Prop :=
  ∃ template exc, letterPrintTemplate printing letterDetails part.1 part.2 = .ok template ∧
    printing.writePdf template = .error (.weasyprintError exc)

/-- The Welsh pages of a letter, if any, and its English pages. -/
def TemplatedPages (template : Json) (welsh english : List (Page K σ)) : Prop :=
  if isWelshThenEnglish (template.get? "letter_languages") then
    Rendered lib printing letterDetails (.welsh, true) welsh ∧
      Rendered lib printing letterDetails (.english, false) english
  else welsh = [] ∧ Rendered lib printing letterDetails (.english, true) english

/-- The pages of the attachment, none when there is no attachment. -/
def AttachedPages (template : Json) (pages : List (Page K σ)) : Prop :=
  match (template.get? "letter_attachment").filter Json.truthy with
  | none => pages = []
  | some attachment => ∃ serviceId attachmentId file, template.get? "service" = some serviceId ∧
    attachment.get? "id" = some attachmentId ∧
    printing.templates.attachmentPdf (printing.templates.str serviceId) (printing.templates.str attachmentId) =
      .ok file ∧ lib.readPages file.bytes = .ok pages

/-- The pages of a letter: its templated part converted to CMYK, then its attachment
as it is. -/
def LetterPages (cmyk : Page K σ → Page K σ) (pages : List (Page K σ)) : Prop :=
  ∃ template welsh english attachment, letterDetails.get? "template" = some template ∧
    TemplatedPages lib printing letterDetails template welsh english ∧
    AttachedPages lib printing template attachment ∧ pages = (welsh ++ english).map cmyk ++ attachment

/-- Ghostscript converts pages one by one, and rendered letters can be read. -/
structure PrintLaws (cmyk : Page K σ → Page K σ) : Prop where
  converted : ∀ {file out pages}, lib.readPages file.bytes = .ok pages → Rewritten lib .convertToCmyk file out →
    lib.readPages out.bytes = .ok (pages.map cmyk)
  readable : ∀ {arguments bytes}, printing.writePdf arguments = .ok bytes → ∃ pages, lib.readPages bytes = .ok pages

/-- Bucket, name, metadata and message belong to the number of pages of the PDF. -/
structure Consistent (letter : PreparedLetter) (pageCount : Nat) : Prop where
  counted : letter.message.pageCount = pageCount
  addressed : letterDetails.get? "notification_id" = some letter.message.notificationId
  tooLong : printing.letterMaxPageCount < pageCount → letter.bucketName = .invalidPdf ∧
    letter.message.name = .updateValidationFailedForTemplatedLetter ∧
    letter.filedata.metadata =
      [("validation_status", "failed"), ("message", "letter-too-long"), ("page_count", toString pageCount)] ∧
    ∃ filename, letterDetails.get? "letter_filename" = some (.string filename) ∧
      letter.filename = removeFolderFromFilename filename
  fits : pageCount ≤ printing.letterMaxPageCount →
    (letter.bucketName = .testLetters ↔ letterDetails.get? "key_type" = some (.string "test")) ∧
    (letter.bucketName = .lettersPdf ↔ letterDetails.get? "key_type" ≠ some (.string "test")) ∧
    letter.message.name = .updateBillableUnitsForLetter ∧ letter.filedata.metadata = [] ∧
    letterDetails.get? "letter_filename" = some (.string letter.filename)

/-- What is stored is the PDF of the letter, with what belongs to its number of
pages. -/
def StoresLetter (cmyk : Page K σ → Page K σ) (letter : PreparedLetter) : Prop :=
  ∃ pages, lib.readPages letter.filedata.filedata = .ok pages ∧ LetterPages lib printing letterDetails cmyk pages ∧
    Consistent printing letterDetails letter pages.length

end Task

section Preparation
variable {lib : Libraries K σ} {render : Page K σ → Image} {printing : Printing Date}
  {letterDetails template : Json}
  {cmyk : Page K σ → Page K σ} {language : Language} {includesFirstPage : Bool} {part : Language × Bool}
  {file firstPdf secondPdf pdf : MemoryFile} {letter : PreparedLetter}

/-- A rendered part begins at its start. -/
theorem createPdfForLetter_eq_ok (laws : PrintLaws lib printing cmyk)
    (created : createPdfForLetter printing letterDetails language includesFirstPage = .ok file) :
    file.position = 0 ∧ ∃ pages, Rendered lib printing letterDetails (language, includesFirstPage) pages ∧
      lib.readPages file.bytes = .ok pages := by
  obtain ⟨arguments, made, written⟩ := bind_eq_ok.mp created
  split at written
  · rename_i bytes rendered
    cases written
    obtain ⟨pages, read⟩ := laws.readable rendered
    exact ⟨rfl, pages, ⟨_, created, read⟩, read⟩
  · cases written
  · cases written

theorem stitchPdfs_eq_ok (lawful : lib.Lawful render) (stitched : stitchPdfs lib firstPdf secondPdf = .ok pdf) :
    pdf.position = 0 ∧ ∃ first second, lib.readPages firstPdf.bytes = .ok first ∧
      lib.readPages secondPdf.bytes = .ok second ∧ lib.readPages pdf.bytes = .ok (first ++ second) := by
  obtain ⟨first, readFirst, stitched⟩ := bind_eq_ok.mp stitched
  obtain ⟨second, readSecond, stitched⟩ := bind_eq_ok.mp stitched
  obtain ⟨bytes, written, stitched⟩ := bind_eq_ok.mp stitched
  cases stitched
  exact ⟨rfl, first, second, call_eq_ok.mp readFirst, call_eq_ok.mp readSecond,
    lawful.written (call_eq_ok.mp written)⟩

theorem get_eq_ok {json : Json} {key : String} {item : Option Json} (found : get json key = .ok item) :
    item = json.get? key := by
  cases json with
  | object entries => exact (Except.ok.inj found).symm
  | _ => cases found

/-- The part that is made from the template has the Welsh and the English pages. -/
private theorem templated_eq_ok (lawful : lib.Lawful render) (laws : PrintLaws lib printing cmyk)
    (rendering : (do
      if isWelshThenEnglish (← get template "letter_languages") then do
        let welshPdf ← createPdfForLetter printing letterDetails .welsh true
        let englishPdf ← createPdfForLetter printing letterDetails .english false
        stitchPdfs lib welshPdf englishPdf
      else createPdfForLetter printing letterDetails .english true) = .ok file) :
    file.position = 0 ∧ ∃ welsh english, TemplatedPages lib printing letterDetails template welsh english ∧
      lib.readPages file.bytes = .ok (welsh ++ english) := by
  obtain ⟨languages, languagesFound, rendering⟩ := bind_eq_ok.mp rendering
  obtain rfl := get_eq_ok languagesFound
  split at rendering
  · rename_i bilingual
    obtain ⟨welshPdf, welshMade, rendering⟩ := bind_eq_ok.mp rendering
    obtain ⟨englishPdf, englishMade, rendering⟩ := bind_eq_ok.mp rendering
    obtain ⟨start, welsh, english, readWelsh, readEnglish, read⟩ := stitchPdfs_eq_ok lawful rendering
    refine ⟨start, welsh, english, ?_, read⟩
    rw [TemplatedPages, if_pos bilingual]
    exact ⟨⟨_, welshMade, readWelsh⟩, ⟨_, englishMade, readEnglish⟩⟩
  · rename_i monolingual
    obtain ⟨start, english, rendered, read⟩ := createPdfForLetter_eq_ok laws rendering
    refine ⟨start, [], english, ?_, read⟩
    rw [TemplatedPages, if_neg monolingual]
    exact ⟨rfl, rendered⟩

/-- An attachment is stitched to what is there before it. -/
private theorem attached_eq_ok (lawful : lib.Lawful render) {pages : List (Page K σ)}
    (read : lib.readPages file.bytes = .ok pages)
    (attaching : (match template.get? "letter_attachment" with
      | none => (return file : Py MemoryFile)
      | some letterAttachment =>
        if letterAttachment.truthy then do
          let serviceId ← getItem template "service"
          addAttachmentToLetter lib printing.templates serviceId file letterAttachment
        else return file) = .ok pdf) :
    ∃ attachment, AttachedPages lib printing template attachment ∧
      lib.readPages pdf.bytes = .ok (pages ++ attachment) := by
  unfold AttachedPages
  cases present : template.get? "letter_attachment" with
  | none =>
    rw [present] at attaching
    cases attaching
    exact ⟨[], rfl, by simpa using read⟩
  | some object =>
    rw [present] at attaching
    dsimp only at attaching
    split at attaching
    · rename_i truthy
      obtain ⟨serviceId, service, attaching⟩ := bind_eq_ok.mp attaching
      obtain ⟨attachmentId, id, attaching⟩ := bind_eq_ok.mp attaching
      obtain ⟨attachmentPdf, downloaded, attaching⟩ := bind_eq_ok.mp attaching
      obtain ⟨_, first, attachment, readFirst, readAttachment, readWhole⟩ := stitchPdfs_eq_ok lawful attaching
      cases read.symm.trans readFirst
      refine ⟨attachment, ?_, readWhole⟩
      rw [Option.filter_some, if_pos truthy]
      exact ⟨serviceId, attachmentId, attachmentPdf, get?_of_getItem service, get?_of_getItem id, downloaded,
        readAttachment⟩
    · rename_i falsy
      cases attaching
      refine ⟨[], ?_, by simpa using read⟩
      rw [Option.filter_some, if_neg falsy]

/-- The PDF of a letter has the pages of its parts, in order. -/
theorem preparePdf_eq_ok (lawful : lib.Lawful render) (laws : PrintLaws lib printing cmyk)
    (prepared : preparePdf lib printing letterDetails = .ok pdf) :
    ∃ pages, lib.readPages pdf.bytes = .ok pages ∧ LetterPages lib printing letterDetails cmyk pages := by
  obtain ⟨template, templateFound, prepared⟩ := bind_eq_ok.mp prepared
  obtain ⟨templated, rendering, prepared⟩ := bind_eq_ok.mp prepared
  obtain ⟨converted, converting, prepared⟩ := bind_eq_ok.mp prepared
  obtain ⟨attachment, attachmentFound, prepared⟩ := bind_eq_ok.mp prepared
  obtain rfl := get_eq_ok attachmentFound
  obtain ⟨start, welsh, english, rendered, readTemplated⟩ := templated_eq_ok lawful laws rendering
  obtain ⟨cmykPdf, ran, rewound⟩ := bind_eq_ok.mp converting
  have readConverted := laws.converted readTemplated (convertPdfToCmyk_eq_ok start ran)
  obtain rfl : cmykPdf.seek 0 = converted := Except.ok.inj rewound
  obtain ⟨attachment, attached, read⟩ :=
    attached_eq_ok lawful (show lib.readPages (cmykPdf.seek 0).bytes = .ok _ from readConverted) prepared
  exact ⟨_, read, template, welsh, english, attachment, get?_of_getItem templateFound, rendered, attached, rfl⟩

theorem text_eq_ok {json : Json} {value : String} (read : text json = .ok value) : json = .string value := by
  cases json with
  | string => exact congrArg Json.string (Except.ok.inj read)
  | _ => cases read

theorem isTest_iff {json : Json} : isTest json = true ↔ json = .string "test" := by
  cases json <;> simp [isTest]

/-- A letter that was prepared stores its PDF and matches its number of pages. -/
theorem prepareLetter_eq_ok (lawful : lib.Lawful render) (laws : PrintLaws lib printing cmyk)
    (prepared : prepareLetter lib printing letterDetails = .ok letter) :
    StoresLetter lib printing letterDetails cmyk letter := by
  obtain ⟨notificationId, notification, prepared⟩ := bind_eq_ok.mp prepared
  obtain ⟨cmykPdf, made, prepared⟩ := bind_eq_ok.mp prepared
  obtain ⟨pageCount, counting, prepared⟩ := bind_eq_ok.mp prepared
  obtain ⟨filenameItem, named, prepared⟩ := bind_eq_ok.mp prepared
  obtain ⟨filename, spelled, prepared⟩ := bind_eq_ok.mp prepared
  obtain ⟨pages, read, whole⟩ := preparePdf_eq_ok lawful laws made
  have addressed := get?_of_getItem notification
  have filenameFound := get?_of_getItem named
  rw [text_eq_ok spelled] at filenameFound
  have counted : pageCount = pages.length := by
    obtain ⟨again, readAgain, counting⟩ := bind_eq_ok.mp counting
    cases counting
    cases read.symm.trans (call_eq_ok.mp readAgain)
    rfl
  have stored : (cmykPdf.seek 0).read.1 = cmykPdf.bytes := MemoryFile.read_start _ rfl
  rw [stored] at prepared
  split at prepared
  · rename_i long
    cases prepared
    refine ⟨pages, read, whole, counted, addressed, fun _ => ?_, fun short => ?_⟩
    · exact ⟨rfl, rfl, by rw [counted], filename, filenameFound, rfl⟩
    · omega
  · rename_i short
    obtain ⟨keyType, keyFound, prepared⟩ := bind_eq_ok.mp prepared
    have kind := get?_of_getItem keyFound
    have decided : isTest keyType = true ↔ letterDetails.get? "key_type" = some (.string "test") := by
      rw [isTest_iff, kind, Option.some.injEq]
    cases prepared
    refine ⟨pages, read, whole, counted, addressed, fun long => by omega,
      fun _ => ⟨?_, ?_, rfl, rfl, filenameFound⟩⟩
    · rw [← decided]
      simp
    · rw [Ne, ← decided]
      simp

/-- A letter with a part that WeasyPrint cannot render is not prepared. -/
theorem prepareLetter_unrendered (found : letterDetails.get? "template" = some template)
    (member : part ∈ partsOf template) (raises : RaisesWeasyprintError printing letterDetails part) :
    ∃ error, prepareLetter lib printing letterDetails = .error error := by
  cases prepared : prepareLetter lib printing letterDetails with
  | error error => exact ⟨error, rfl⟩
  | ok letter =>
    obtain ⟨notificationId, notification, prepared⟩ := bind_eq_ok.mp prepared
    obtain ⟨cmykPdf, made, _⟩ := bind_eq_ok.mp prepared
    obtain ⟨again, templateFound, made⟩ := bind_eq_ok.mp made
    obtain ⟨templated, rendering, _⟩ := bind_eq_ok.mp made
    obtain ⟨languages, languagesFound, rendering⟩ := bind_eq_ok.mp rendering
    obtain rfl := get_eq_ok languagesFound
    cases found.symm.trans (get?_of_getItem templateFound)
    obtain ⟨arguments, exc, formatted, raised⟩ := raises
    have failed : createPdfForLetter printing letterDetails part.1 part.2 = .error (printing.retry exc) := by
      rw [createPdfForLetter, formatted, ok_bind, raised]
      rfl
    unfold partsOf at member
    split at rendering
    · rename_i bilingual
      obtain ⟨welshPdf, welshMade, rendering⟩ := bind_eq_ok.mp rendering
      obtain ⟨englishPdf, englishMade, _⟩ := bind_eq_ok.mp rendering
      rw [if_pos bilingual] at member
      rcases List.mem_pair.mp member with rfl | rfl
      · cases failed.symm.trans welshMade
      · cases failed.symm.trans englishMade
    · rename_i monolingual
      rw [if_neg monolingual] at member
      cases List.mem_singleton.mp member
      cases failed.symm.trans rendering

/-- The part that is made from the template is rendered when its pages are there. -/
private theorem templated_returns (lawful : lib.Lawful render) (reliable : lib.Reliable)
    (laws : PrintLaws lib printing cmyk) {welsh english : List (Page K σ)}
    (rendered : TemplatedPages lib printing letterDetails template welsh english) :
    ∃ file, (if isWelshThenEnglish (template.get? "letter_languages") then do
        let welshPdf ← createPdfForLetter printing letterDetails .welsh true
        let englishPdf ← createPdfForLetter printing letterDetails .english false
        stitchPdfs lib welshPdf englishPdf
      else createPdfForLetter printing letterDetails .english true) = .ok file ∧ file.position = 0 ∧
      lib.readPages file.bytes = .ok (welsh ++ english) := by
  unfold TemplatedPages at rendered
  split at rendered
  · rename_i bilingual
    obtain ⟨⟨welshPdf, welshMade, readWelsh⟩, englishPdf, englishMade, readEnglish⟩ := rendered
    obtain ⟨file, stitched, read⟩ := stitchPdfs_pages lawful reliable readWelsh readEnglish
    refine ⟨file, ?_, (stitchPdfs_eq_ok lawful stitched).1, read⟩
    rw [if_pos bilingual, welshMade, ok_bind, englishMade, ok_bind, stitched]
  · rename_i monolingual
    obtain ⟨rfl, file, made, read⟩ := rendered
    exact ⟨file, by rw [if_neg monolingual, made], (createPdfForLetter_eq_ok laws made).1, read⟩

/-- The PDF of a letter is made when its parts are there and ghostscript can convert
them. -/
theorem preparePdf_returns (lawful : lib.Lawful render) (reliable : lib.Reliable)
    (laws : PrintLaws lib printing cmyk)
    (converts : ∀ {file pages}, file.position = 0 → lib.readPages file.bytes = .ok pages →
      Returns (convertPdfToCmyk lib file))
    {fields : List (String × Json)} (found : letterDetails.get? "template" = some (.object fields))
    {pages : List (Page K σ)} (whole : LetterPages lib printing letterDetails cmyk pages) :
    Returns (preparePdf lib printing letterDetails) := by
  obtain ⟨template, welsh, english, attachment, again, rendered, attached, rfl⟩ := whole
  cases found.symm.trans again
  obtain ⟨templated, rendering, start, readTemplated⟩ := templated_returns lawful reliable laws rendered
  obtain ⟨converted, converting⟩ := converts start readTemplated
  have readConverted := laws.converted readTemplated (convertPdfToCmyk_eq_ok start converting)
  rw [preparePdf, generateTemplatedPdf, getItem_ok found, ok_bind, get_object, ok_bind, rendering, ok_bind,
    if_pos rfl, converting, ok_bind, pure_eq_ok, ok_bind, get_object, ok_bind]
  unfold AttachedPages at attached
  cases present : (Json.object fields).get? "letter_attachment" with
  | none => exact ⟨_, rfl⟩
  | some object =>
    dsimp only
    split
    · rename_i truthy
      rw [present, Option.filter_some, if_pos truthy] at attached
      obtain ⟨serviceId, attachmentId, file, service, id, downloaded, read⟩ := attached
      obtain ⟨whole, stitched, _⟩ := stitchPdfs_pages lawful reliable
        (show lib.readPages (converted.seek 0).bytes = .ok _ from readConverted) read
      refine ⟨whole, ?_⟩
      rw [getItem_ok service, ok_bind, addAttachmentToLetter, getItem_ok id, ok_bind, downloaded, ok_bind, stitched]
    · exact ⟨_, rfl⟩

/-- A letter is prepared when its PDF is made and what else is read of it is there. -/
theorem prepareLetter_returns (lawful : lib.Lawful render) (laws : PrintLaws lib printing cmyk)
    (made : Returns (preparePdf lib printing letterDetails)) {notificationId keyType : Json} {filename : String}
    (addressed : letterDetails.get? "notification_id" = some notificationId)
    (named : letterDetails.get? "letter_filename" = some (.string filename))
    (kind : letterDetails.get? "key_type" = some keyType) : Returns (prepareLetter lib printing letterDetails) := by
  obtain ⟨pdf, prepared⟩ := made
  obtain ⟨pages, read, _⟩ := preparePdf_eq_ok lawful laws prepared
  have counted : getPageCountForPdf lib pdf = .ok pages.length := by
    rw [getPageCountForPdf, read]
    rfl
  have spelled : text (.string filename) = .ok filename := rfl
  rw [prepareLetter, getItem_ok addressed, ok_bind, prepared, ok_bind, counted, ok_bind]
  dsimp only
  rw [getItem_ok named, ok_bind, spelled, ok_bind]
  split
  · exact ⟨_, rfl⟩
  · rw [getItem_ok kind]
    exact ⟨_, rfl⟩

end Preparation

/-! ## Runs of the task -/

section Runs
variable (lib : Libraries K σ) (printing : Printing Date) (letterDetails : Json) (cmyk : Page K σ → Page K σ)

/-- How the task ends, with its calls: it cannot prepare the letter and makes none, the
only upload of the prepared letter fails, or the upload is followed by the message. -/
inductive LetterRun : List PdfEvent → Py Unit → Prop where
  | raised (error : PyError) (unprepared : prepareLetter lib printing letterDetails = .error error) :
      LetterRun [] (.error error)
  | uploadFailed (letter : PreparedLetter) (failure : ObjectStore.Failure)
      (prepared : prepareLetter lib printing letterDetails = .ok letter)
      (stores : StoresLetter lib printing letterDetails cmyk letter) :
      LetterRun [Event.uploaded letter.bucketName letter.filename letter.filedata (.error failure)] (caught failure)
  | announced (letter : PreparedLetter) (prepared : prepareLetter lib printing letterDetails = .ok letter)
      (stores : StoresLetter lib printing letterDetails cmyk letter) :
      LetterRun [Event.uploaded letter.bucketName letter.filename letter.filedata (.ok ()),
        Event.sent letter.message] (.ok ())

variable {lib printing letterDetails cmyk} {render : Page K σ → Image} {history : List PdfEvent} {result : Py Unit}

theorem LetterRun.stores {letter : PreparedLetter} (run : LetterRun lib printing letterDetails cmyk history result)
    (prepared : prepareLetter lib printing letterDetails = .ok letter) :
    StoresLetter lib printing letterDetails cmyk letter := by
  cases run with
  | raised error unprepared => cases prepared.symm.trans unprepared
  | uploadFailed other failure again stores | announced other again stores =>
    cases prepared.symm.trans again
    exact stores

/-- The calls of the task for a letter that was prepared. -/
theorem createPdfForTemplatedLetter_finishes {letter : PreparedLetter}
    (prepared : prepareLetter lib printing letterDetails = .ok letter) :
    (createPdfForTemplatedLetter lib printing letterDetails).Finishes history result ↔
      (∃ failure, history = [Event.uploaded letter.bucketName letter.filename letter.filedata (.error failure)] ∧
        result = caught failure) ∨
      history = [Event.uploaded letter.bucketName letter.filename letter.filedata (.ok ()),
        Event.sent letter.message] ∧ result = .ok () := by
  rw [createPdfForTemplatedLetter, prepared]
  constructor
  · intro finishes
    obtain ⟨answer, later, rfl, rest⟩ := Program.finishes_request_iff.mp finishes
    cases answer with
    | error failure =>
      obtain ⟨rfl, rfl⟩ := Program.finishes_pure.mp rest
      exact .inl ⟨failure, rfl, rfl⟩
    | ok done =>
      obtain ⟨_, last, rfl, ending⟩ := Program.finishes_request_iff.mp rest
      obtain ⟨rfl, rfl⟩ := Program.finishes_pure.mp ending
      exact .inr ⟨rfl, rfl⟩
  · rintro (⟨failure, rfl, rfl⟩ | ⟨rfl, rfl⟩)
    · exact Program.finishes_request_iff.mpr ⟨.error failure, [], rfl, Program.finishes_pure.mpr ⟨rfl, rfl⟩⟩
    · refine Program.finishes_request_iff.mpr ⟨.ok (), [Event.sent letter.message], rfl, ?_⟩
      exact Program.finishes_request_iff.mpr ⟨(), [], rfl, Program.finishes_pure.mpr ⟨rfl, rfl⟩⟩

/-- Whatever rendering and uploading do, the task stores the whole letter at most
once, where its number of pages belongs, and sends the message with this number exactly
when it stored it. It makes no call only when the letter cannot be prepared, as when
WeasyPrint could not render a part. -/
theorem templated_letter_stored_and_announced (lawful : lib.Lawful render) (laws : PrintLaws lib printing cmyk)
    (ran : (createPdfForTemplatedLetter lib printing letterDetails).Finishes history result) :
    LetterRun lib printing letterDetails cmyk history result ∧
    ∀ template part, letterDetails.get? "template" = some template → part ∈ partsOf template →
      RaisesWeasyprintError printing letterDetails part → history = [] := by
  cases prepared : prepareLetter lib printing letterDetails with
  | error error =>
    rw [createPdfForTemplatedLetter, prepared] at ran
    obtain ⟨rfl, rfl⟩ := Program.finishes_pure.mp ran
    exact ⟨.raised error prepared, fun _ _ _ _ _ => rfl⟩
  | ok letter =>
    have stores := prepareLetter_eq_ok lawful laws prepared
    refine ⟨?_, fun template part found member raises => ?_⟩
    · rcases (createPdfForTemplatedLetter_finishes prepared).mp ran with ⟨failure, rfl, rfl⟩ | ⟨rfl, rfl⟩
      · exact .uploadFailed letter failure prepared stores
      · exact .announced letter prepared stores
    · obtain ⟨error, failed⟩ : ∃ error, prepareLetter lib printing letterDetails = .error error :=
        prepareLetter_unrendered found member raises
      cases prepared.symm.trans failed

end Runs

section InMemory
open InMemoryLibraries LetterColours

/-- Every part is rendered as a blank page, and the attachment has nine pages. -/
def blankPrinting : Printing String where
  templates :=
    { tightTemplates with attachmentPdf := fun _ _ => .ok { bytes := encodePages (List.replicate 9 blankPage) } }
  writePdf _ := .ok (encodePages [blankPage])
  retry exc := .exception exc
  letterMaxPageCount := 10

/-- A letter in two languages whose attachment makes it too long. -/
def longLetter : Json :=
  .object [("notification_id", .string "1234"), ("letter_filename", .string "2018-01-13/NOTIFY.PDF"),
    ("key_type", .string "normal"), ("logo_filename", .null), ("letter_contact_block", .null), ("values", .null),
    ("template", .object [("subject", .string "Subject"), ("content", .string "Content"),
      ("service", .string "1234"), ("letter_languages", .string "welsh_then_english"),
      ("letter_attachment", .object [("id", .string "5678"), ("page_count", .number 9)])])]

theorem blankPrinting_laws : PrintLaws coloured blankPrinting pageInCmyk where
  converted := coloured_pagewise
  readable := by
    rintro arguments bytes ⟨⟩
    exact ⟨_, coloured_encodePages _⟩

theorem coloured_converts {file : MemoryFile} {pages : List TextPage} (start : file.position = 0)
    (read : coloured.readPages file.bytes = .ok pages) : Returns (convertPdfToCmyk coloured file) := by
  cases file
  cases start
  exact ⟨_, coloured_converted ((coloured_readPages _).symm.trans read)⟩

theorem longLetter_pages : LetterPages coloured blankPrinting longLetter pageInCmyk
    (([blankPage] ++ [blankPage]).map pageInCmyk ++ List.replicate 9 blankPage) := by
  refine ⟨_, [blankPage], [blankPage], List.replicate 9 blankPage, rfl, ?_, ?_, rfl⟩
  · unfold TemplatedPages
    split
    · exact ⟨⟨_, rfl, coloured_encodePages _⟩, _, rfl, coloured_encodePages _⟩
    · rename_i monolingual
      exact absurd rfl monolingual
  · exact ⟨_, _, _, rfl, rfl, rfl, coloured_encodePages _⟩

private theorem rendered_blank {part : Language × Bool} {pages : List TextPage}
    (rendered : Rendered coloured blankPrinting longLetter part pages) : pages = [blankPage] := by
  obtain ⟨file, created, read⟩ := rendered
  obtain ⟨arguments, _, written⟩ := bind_eq_ok.mp created
  cases written
  exact (Except.ok.inj ((coloured_encodePages [blankPage]).symm.trans read)).symm

theorem longLetter_length {pages : List TextPage}
    (whole : LetterPages coloured blankPrinting longLetter pageInCmyk pages) : pages.length = 11 := by
  obtain ⟨template, welsh, english, attachment, ⟨⟩, templated, ⟨_, _, file, _, _, given, read⟩, rfl⟩ := whole
  cases given
  cases (coloured_encodePages (List.replicate 9 blankPage)).symm.trans read
  unfold TemplatedPages at templated
  split at templated
  · rw [rendered_blank templated.1, rendered_blank templated.2]
    simp
  · rename_i monolingual
    exact absurd rfl monolingual

/-- The letter of eleven pages is too long. -/
theorem longLetter_run : ∃ letter : PreparedLetter,
    (createPdfForTemplatedLetter coloured blankPrinting longLetter).Finishes
      [Event.uploaded letter.bucketName letter.filename letter.filedata (.ok ()), Event.sent letter.message]
      (.ok ()) ∧
    letter.bucketName = .invalidPdf ∧ letter.filename = "NOTIFY.PDF" ∧ letter.message.pageCount = 11 := by
  have made : Returns (preparePdf coloured blankPrinting longLetter) := preparePdf_returns coloured_lawful
    coloured_reliable blankPrinting_laws coloured_converts rfl longLetter_pages
  obtain ⟨letter, prepared⟩ := prepareLetter_returns coloured_lawful blankPrinting_laws made rfl rfl rfl
  have ran := (createPdfForTemplatedLetter_finishes prepared).mpr (.inr ⟨rfl, rfl⟩)
  have run := (templated_letter_stored_and_announced coloured_lawful blankPrinting_laws ran).1
  obtain ⟨pages, _, whole, consistent⟩ := run.stores prepared
  rw [longLetter_length whole] at consistent
  obtain ⟨invalid, _, _, filename, found, named⟩ := consistent.tooLong (by decide)
  cases found
  exact ⟨letter, ran, invalid, named.trans (by decide), consistent.counted⟩

end InMemory

end TemplatePreview.TemplatedLetterTask
