import TemplatePreview.AddressRewrite
import TemplatePreview.EmbeddedFonts
import TemplatePreview.Base64

/-! A letter or an attachment is validated, rewritten and returned as base 64, or
the reason why not is. Whatever a stage raises, the result has one of two shapes. -/
namespace TemplatePreview.Sanitisation
open Region PageLayout Pdf Outcomes Overlays TextExtraction PageValidation AddressWindow AddressRewrite
open EmbeddedFonts

variable {K σ : Type} [Field K] [LinearOrder K]

/-- The dictionary that `sanitise_file_contents` returns. -/
structure SanitisationDetails where
  recipientAddress : Option String
  pageCount : Option Nat
  message : Option String
  invalidPages : Option (List Nat)
  file : Option String
  deriving DecidableEq, Repr

def maxFilesize : Nat := 2 * 1024 * 1024
def allowedFilesizeInflationPercentage : Nat := 50

/-- `_warn_if_filesize_has_grown`: the growth is a quotient of the two sizes. -/
def warnIfFilesizeHasGrown (origFilesize newFilesize : Nat) : Py Unit :=
  if maxFilesize < newFilesize then return ()
  else if origFilesize * (100 + allowedFilesizeInflationPercentage) < newFilesize * 100 then
    if origFilesize = 0 then throw .zeroDivisionError else return ()
  else return ()

/-- `log_metadata_for_letter`. -/
def logMetadataForLetter (lib : Libraries K σ) (srcPdf : MemoryFile) : Py MemoryFile := do
  let pdf ← call (lib.pdfReader srcPdf.bytes)
  call pdf.metadata
  return lib.leave .pypdf srcPdf

/-- `add_notify_tag_to_letter`. -/
def addNotifyTagToLetter (lib : Libraries K σ) (srcPdf : MemoryFile) : Py MemoryFile := do
  let pdf ← call (lib.readPages srcPdf.bytes)
  match pdf with
  | [] => throw .indexError
  | page :: rest => do
    call (lib.registerFont font)
    let x := notifyTagFromLeftOfPage * mm
    let y := page.mediabox.y1 - (notifyTagFromTopOfPage + notifyTagLineHeight) * mm
    let can := (NotifyCanvas.new white).drawString font notifyTagFontSize x y notifyTagText
    let page ← call (lib.mergePage page can)
    bytesioFromPdf lib (page :: rest)

/-- `rewrite_pdf`. -/
def rewritePdf (lib : Libraries K σ) (fileData : MemoryFile) (pageCount : Nat) (allowInternationalLetters : Bool) :
    Py (MemoryFile × String) := do
  let fileData ← logMetadataForLetter lib fileData
  let (fileData, recipientAddress) ← rewriteAddressBlock lib fileData pageCount allowInternationalLetters
  let fileData ← normaliseFontsAndColours lib fileData
  let (present, fileData) ← isNotifyTagPresent lib fileData
  if !present then do
    let fileData ← addNotifyTagToLetter lib fileData
    return (fileData, recipientAddress)
  else return (fileData, recipientAddress)

/-- The `try` block of `sanitise_file_contents` after validation: the file that is
produced and the address of a letter. -/
def produce (lib : Libraries K σ) (fileData : MemoryFile) (pageCount : Nat)
    (allowInternationalLetters isAnAttachment : Bool) :
    Py (MemoryFile × Option String) :=
  if isAnAttachment then do
    let fileData ← normaliseFontsAndColours lib fileData
    return (fileData, none)
  else do
    let (fileData, recipientAddress) ← rewritePdf lib fileData pageCount allowInternationalLetters
    return (fileData, some recipientAddress)

/-- The `try` block of `sanitise_file_contents`. -/
def sanitise (lib : Libraries K σ) (encodedString : Bytes) (allowInternationalLetters isAnAttachment : Bool) :
    Py SanitisationDetails := do
  let fileData : MemoryFile := { bytes := encodedString }
  let pageCount ← call (lib.pdfPageCount fileData.bytes)
  let fileData := lib.leave .pageCount fileData
  if lib.isLetterTooLong pageCount then
    throw (.validationFailed "letter-too-long" none (some pageCount) 400)
  else do
    let ((message, invalidPages), fileData) ← getInvalidPagesWithMessage lib fileData isAnAttachment
    if message ≠ "" then
      throw (.validationFailed message (some invalidPages) (some pageCount) 400)
    else do
      let (fileData, recipientAddress) ← produce lib fileData pageCount allowInternationalLetters isAnAttachment
      let rawFile := fileData.read.1
      warnIfFilesizeHasGrown encodedString.length rawFile.length
      return { recipientAddress := recipientAddress, pageCount := some pageCount, message := none,
               invalidPages := none, file := some (Base64.b64encode rawFile) }

/-- The two handlers of `sanitise_file_contents`. -/
def handled : PyError → SanitisationDetails
  | .validationFailed message invalidPages pageCount _ =>
    { pageCount := pageCount, recipientAddress := none, message := some message,
      invalidPages := invalidPages, file := none }
  | _ =>
    { pageCount := none, recipientAddress := none, message := some "unable-to-read-the-file",
      invalidPages := none, file := none }

/-- `sanitise_file_contents`. -/
def sanitiseFileContents (lib : Libraries K σ) (encodedString : Bytes)
    (allowInternationalLetters isAnAttachment : Bool) : SanitisationDetails :=
  match sanitise lib encodedString allowInternationalLetters isAnAttachment with
  | .ok details => details
  | .error error => handled error

/-- `sanitisation_details.get("message")` is true. -/
def SanitisationDetails.failed (details : SanitisationDetails) : Bool :=
  match details.message with
  | some message => message ≠ ""
  | none => false

structure Response where
  json : SanitisationDetails
  statusCode : Nat
  deriving DecidableEq, Repr

/-- `sanitise_precompiled_letter`, from the body and the two arguments of the
request. -/
def sanitisePrecompiledLetter (lib : Libraries K σ) (encodedString : Bytes)
    (allowInternationalLetters isAnAttachment : Option String) : Py Response :=
  if encodedString = [] then throw (.invalidRequest "no-encoded-string" 400)
  else
    let sanitiseJson := sanitiseFileContents lib encodedString (allowInternationalLetters == some "true")
      (isAnAttachment == some "true")
    return { json := sanitiseJson, statusCode := if sanitiseJson.failed then 400 else 200 }

/-! ## Only validation raises `ValidationFailed` -/

/-- Everything but `ValidationFailed`. -/
def Internal : PyError → Prop
  | .validationFailed .. => False
  | _ => True

section Internal
variable {lib : Libraries K σ} {file : MemoryFile} {page : Page K σ} {pages : List (Page K σ)} {rect : Box K}
  {can : NotifyCanvas K} {object : PdfObject} {getObject : Nat → Except LibraryError PdfObject}

local instance : Raises Internal (call outcome : Py α) where
  only error same := by
    cases outcome with
    | ok value => cases same
    | error raised =>
      cases same
      trivial

local instance : Raises Internal (throw .indexError : Py α) := .throw trivial
local instance : Raises Internal (throw .typeError : Py α) := .throw trivial
local instance : Raises Internal (throw .recursionError : Py α) := .throw trivial
local instance : Raises Internal (throw .zeroDivisionError : Py α) := .throw trivial
local instance : Raises Internal (throw .unicodeDecodeError : Py α) := .throw trivial
local instance : Raises Internal (throw (.exception text) : Py α) := .throw trivial
local instance : Raises Internal (throw (.invalidRequest text code) : Py α) := .throw trivial
local instance : Raises Internal (throw (.library error) : Py α) := .throw trivial

local instance : Raises Internal (bytesioFromPdf lib pages) := by
  unfold bytesioFromPdf
  infer_instance

local instance : Raises Internal (overlayPrintableAreasOfAddressBlockPageWithWhite lib pages) := by
  unfold overlayPrintableAreasOfAddressBlockPageWithWhite
  cases pages <;> infer_instance

local instance : Raises Internal (overlayPrintableAreasWithWhite lib file isAnAttachment) := by
  unfold overlayPrintableAreasWithWhite overlayContentPagesWithWhite
  infer_instance

local instance : Raises Internal (extractTextFromPage lib page rect) := by
  unfold extractTextFromPage
  infer_instance

local instance : Raises Internal (extractTextFromFirstPageOfPdf lib file rect) := by
  apply Raises.bind inferInstance
  intro doc _
  cases doc <;> infer_instance

local instance : Raises Internal (isNotifyTagPresent lib file) := by
  unfold isNotifyTagPresent
  infer_instance

local instance : Raises Internal (getPagesWithInvalidOrientationOrSize lib file) := by
  unfold getPagesWithInvalidOrientationOrSize
  infer_instance

local instance : Raises Internal (getOutOfBoundsPages lib file) := by
  unfold getOutOfBoundsPages
  infer_instance

local instance {numbered : Page K σ × Nat} : Raises Internal (tagReport lib numbered) := by
  unfold tagReport
  infer_instance

local instance : Raises Internal (getPagesWithNotifyTag lib file isAnAttachment) := by
  unfold getPagesWithNotifyTag
  infer_instance

local instance : Raises Internal (getInvalidPagesWithMessage lib file isAnAttachment) := by
  unfold getInvalidPagesWithMessage
  infer_instance

local instance : Raises Internal (extractAddressBlock lib file) := by
  unfold extractAddressBlock
  infer_instance

local instance : Raises Internal (redactPrecompiledLetterAddressBlock lib file) := by
  apply Raises.bind inferInstance
  intro doc _
  cases doc <;> infer_instance

local instance : Raises Internal (overlayFirstPageOfPdfWithNewContent lib pages can) := by
  unfold overlayFirstPageOfPdfWithNewContent
  cases pages <;> infer_instance

local instance : Raises Internal (addAddressToPrecompiledLetter lib file address) := by
  unfold addAddressToPrecompiledLetter
  infer_instance

local instance : Raises Internal (addNotifyTagToLetter lib file) := by
  apply Raises.bind inferInstance
  intro pdf _
  cases pdf <;> infer_instance

local instance : Raises Internal (hashable object) := by
  cases object <;> unfold hashable <;> infer_instance

local instance : Raises Internal (item getObject object) := by
  cases object <;> unfold item <;> infer_instance

local instance : Raises Internal (searchType3 object) := by
  cases object <;> unfold searchType3 <;> infer_instance

local instance : Raises Internal (visit getObject entries fonts) := by
  unfold visit
  refine Raises.bind ?_ fun fonts _ => Raises.bind ?_ fun fonts _ => ?_
  · cases entries.lookup "/BaseFont" <;> infer_instance
  · cases entries.lookup "/FontName" <;> infer_instance
  · cases entries.lookup "/Subtype" <;> infer_instance

local instance {pdf : PdfReader K σ} {room : Nat} : Raises Internal (walk pdf room object fonts) := by
  induction room generalizing object fonts with
  | zero =>
    unfold walk
    infer_instance
  | succ room ih =>
    unfold walk
    split
    · infer_instance
    · cases object <;> infer_instance

local instance : Raises Internal (containsUnembeddedFonts lib file) := by
  unfold containsUnembeddedFonts
  infer_instance

local instance : Raises Internal (unembeddedConcat unembedded) := by
  unfold unembeddedConcat
  infer_instance

local instance : Raises Internal (decodeUtf8 bytes) := by
  unfold decodeUtf8
  split <;> infer_instance

local instance : Raises Internal (embedFonts lib file) := by
  unfold embedFonts
  infer_instance

local instance : Raises Internal (convertPdfToCmyk lib file) := by
  unfold convertPdfToCmyk
  infer_instance

local instance : Raises Internal (anyImageHasColorspace lib pages colourspace images) := by
  induction images with
  | nil =>
    unfold anyImageHasColorspace
    infer_instance
  | cons xref rest ih =>
    unfold anyImageHasColorspace
    infer_instance

local instance {doc : List (Page K σ)} {index : Nat} :
    Raises Internal (anyPageHasColorspace lib doc colourspace pages index) := by
  induction pages generalizing index with
  | nil =>
    unfold anyPageHasColorspace
    infer_instance
  | cons page rest ih =>
    unfold anyPageHasColorspace
    split <;> infer_instance

local instance : Raises Internal (normaliseFontsAndColours lib file) := by
  unfold normaliseFontsAndColours doesPdfContainCmyk doesPdfContainRgb doesPdfContainColorspace
  infer_instance

local instance : Raises Internal (logMetadataForLetter lib file) := by
  unfold logMetadataForLetter
  infer_instance

local instance : Raises Internal (warnIfFilesizeHasGrown orig new) := by
  unfold warnIfFilesizeHasGrown
  infer_instance

/-! ## What can be reported -/

/-- The pages that a `ValidationFailed` names are pages of the document. -/
def Reportable : PyError → Prop
  | .validationFailed message invalidPages pageCount _ => message ≠ "" ∧
    (invalidPages = none ∨ ∃ numbers count, invalidPages = some numbers ∧ pageCount = some count ∧
      numbers ≠ [] ∧ numbers.Pairwise (· < ·) ∧ ∀ number ∈ numbers, 1 ≤ number ∧ number ≤ count)
  | _ => True

theorem Reportable.of_internal {outcome : Py α} (internal : Raises Internal outcome) :
    Raises Reportable outcome :=
  internal.mono fun error permitted => by cases error <;> trivial

theorem errorCode_ne_empty {address : PostalAddress} {allow : Bool} {code : String}
    (found : errorCode address allow = some code) : code ≠ "" := by
  rintro rfl
  unfold errorCode at found
  split_ifs at found <;> simp at found

section Reporting
variable {render : Page K σ → Image}

/-- Only a document with a page has an address to reject. -/
theorem rewriteAddressBlock_raises (lawful : lib.Lawful render) (read : lib.readPages file.bytes = .ok pages)
    (allow : Bool) : Raises Reportable (rewriteAddressBlock lib file pages.length allow) := by
  apply Raises.bind (Reportable.of_internal inferInstance)
  rintro ⟨text, restored⟩ extracted
  have positive : 1 ≤ pages.length := by
    obtain ⟨doc, opened, rest⟩ := bind_eq_ok.mp extracted
    have same := lawful.opened read (call_eq_ok.mp opened)
    subst same
    cases doc with
    | nil => cases rest
    | cons page others => simp
  apply Raises.bind (Reportable.of_internal inferInstance)
  intro address _
  cases found : errorCode address allow with
  | none => exact Reportable.of_internal inferInstance
  | some code =>
    exact Raises.throw ⟨errorCode_ne_empty found, .inr ⟨[1], pages.length, rfl, rfl, by simp, by simp,
      by simpa using positive⟩⟩

omit [Field K] [LinearOrder K] in
theorem logMetadataForLetter_bytes {out : MemoryFile} (returned : logMetadataForLetter lib file = .ok out) :
    out.bytes = file.bytes := by
  obtain ⟨pdf, _, returned⟩ := bind_eq_ok.mp returned
  obtain ⟨_, _, returned⟩ := bind_eq_ok.mp returned
  cases returned
  rfl

/-- The file that was validated is the file that is rewritten. -/
theorem produce_raises (lawful : lib.Lawful render) (read : lib.readPages file.bytes = .ok pages)
    (allow isAnAttachment : Bool) :
    Raises Reportable (produce lib file pages.length allow isAnAttachment) := by
  cases isAnAttachment with
  | true => exact Reportable.of_internal (Raises.bind inferInstance fun produced _ => inferInstance)
  | false =>
    refine Raises.bind (Raises.bind (Reportable.of_internal inferInstance) fun logged same => ?_)
      fun value _ => Reportable.of_internal inferInstance
    rw [← logMetadataForLetter_bytes same] at read
    apply Raises.bind (rewriteAddressBlock_raises lawful read allow)
    intro value _
    exact Reportable.of_internal inferInstance

/-- Whatever stage fails, what is raised can be reported. -/
theorem sanitise_raises (lawful : lib.Lawful render) (encoded : Bytes) (allow isAnAttachment : Bool) :
    Raises Reportable (sanitise lib encoded allow isAnAttachment) := by
  apply Raises.bind (Reportable.of_internal inferInstance)
  intro pageCount counted
  obtain ⟨pages, read, rfl⟩ := lawful.pageCount (call_eq_ok.mp counted)
  dsimp only
  split
  · exact Raises.throw ⟨by decide, .inl rfl⟩
  apply Raises.bind (Reportable.of_internal inferInstance)
  rintro ⟨⟨message, invalidPages⟩, validated⟩ checked
  obtain ⟨⟨others, readAgain, verdict⟩, kept, _⟩ := getInvalidPagesWithMessage_eq_ok lawful checked
  rw [Libraries.leave_bytes, read] at readAgain
  cases readAgain
  dsimp only
  split
  · rename_i named
    exact Raises.throw ⟨named, .inr ⟨invalidPages, pages.length, rfl, rfl, verdict.named_pages named⟩⟩
  apply Raises.bind (produce_raises lawful (by rwa [kept]) allow isAnAttachment)
  intro value _
  exact Reportable.of_internal inferInstance

end Reporting

/-! ### Who raises `ValidationFailed` -/

theorem warnIfFilesizeHasGrown_internal : Raises Internal (warnIfFilesizeHasGrown orig new) := inferInstance

/-- The address of a file is refused with this error. -/
def AddressRefused (lib : Libraries K σ) (file : MemoryFile) (pageCount : Nat) (allow : Bool) (error : PyError) :
    Prop :=
  ∃ text restored address code, extractAddressBlock lib file = .ok (text, restored) ∧
    lib.postalAddress text allow = .ok address ∧ errorCode address allow = some code ∧
    error = .validationFailed code (some [1]) (some pageCount) 400

/-- While a file is rewritten only its address is refused. -/
theorem produce_refuses (pageCount : Nat) (allow isAnAttachment : Bool) :
    Raises (fun error => Internal error ∨ isAnAttachment = false ∧
      ∃ logged, logMetadataForLetter lib file = .ok logged ∧ AddressRefused lib logged pageCount allow error)
      (produce lib file pageCount allow isAnAttachment) := by
  have internal {α : Type} {outcome : Py α} {refused : PyError → Prop} (only : Raises Internal outcome) :
      Raises (fun error => Internal error ∨ refused error) outcome := only.mono fun _ => .inl
  cases isAnAttachment with
  | true => exact internal (Raises.bind inferInstance fun produced _ => inferInstance)
  | false =>
    refine Raises.bind (Raises.bind (internal inferInstance) fun logged logging => ?_)
      fun value _ => internal inferInstance
    refine Raises.bind (Raises.bind (internal inferInstance) ?_) fun value _ => internal inferInstance
    rintro ⟨text, restored⟩ extracted
    apply Raises.bind (internal inferInstance)
    intro address recognised
    cases found : errorCode address allow with
    | none => exact internal inferInstance
    | some code =>
      exact Raises.throw (.inr ⟨rfl, logged, logging, text, restored, address, code, extracted,
        call_eq_ok.mp recognised, found, rfl⟩)

end Internal

/-! ## The two shapes -/

/-- The file that is produced from a document that passed validation. -/
structure Produced (lib : Libraries K σ) (encoded : Bytes) (allow isAnAttachment : Bool) (pageCount : Nat)
    (produced : MemoryFile) (address : Option String) : Prop where
  rewritten : ∃ validated, validated.bytes = encoded ∧ validated.position = 0 ∧
    produce lib validated pageCount allow isAnAttachment = .ok (produced, address)
  start : produced.position = 0

structure Success (lib : Libraries K σ) (encoded : Bytes) (allow isAnAttachment : Bool)
    (details : SanitisationDetails) : Prop where
  message : details.message = none
  invalidPages : details.invalidPages = none
  pageCount : ∃ pages, lib.readPages encoded = .ok pages ∧ details.pageCount = some pages.length ∧
    lib.isLetterTooLong pages.length = false
  file : ∃ text count produced, details.file = some text ∧ details.pageCount = some count ∧
    Produced lib encoded allow isAnAttachment count produced details.recipientAddress ∧
    Base64.b64decode text = .ok produced.bytes
  address : details.recipientAddress = none ↔ isAnAttachment

structure Failure (details : SanitisationDetails) : Prop where
  message : ∃ message, details.message = some message ∧ message ≠ ""
  file : details.file = none
  address : details.recipientAddress = none
  invalidPages : details.invalidPages = none ∨ ∃ numbers count, details.invalidPages = some numbers ∧
    details.pageCount = some count ∧ numbers ≠ [] ∧ numbers.Pairwise (· < ·) ∧
    ∀ number ∈ numbers, 1 ≤ number ∧ number ≤ count

/-- The handlers turn what can be reported into a failure. -/
theorem handled_failure {error : PyError} (reportable : Reportable error) : Failure (handled error) := by
  cases error with
  | validationFailed message invalidPages pageCount code =>
    exact ⟨⟨message, rfl, reportable.1⟩, rfl, rfl, reportable.2⟩
  | _ => exact ⟨⟨"unable-to-read-the-file", rfl, by decide⟩, rfl, rfl, .inl rfl⟩

section Shape
variable {lib : Libraries K σ} {render : Page K σ → Image} {file out : MemoryFile} {encoded : Bytes}
  {allow isAnAttachment : Bool} {details : SanitisationDetails}

omit [Field K] [LinearOrder K] in
/-- Fonts are checked last, which leaves the file at its start. -/
theorem normaliseFontsAndColours_position (returned : normaliseFontsAndColours lib file = .ok out) :
    out.position = 0 := by
  obtain ⟨⟨cmyk, file⟩, _, returned⟩ := bind_eq_ok.mp returned
  obtain ⟨converted, _, returned⟩ := bind_eq_ok.mp returned
  obtain ⟨⟨unembedded, checked⟩, searched, returned⟩ := bind_eq_ok.mp returned
  obtain rfl := containsUnembeddedFonts_file searched
  dsimp only at returned
  split at returned
  · obtain ⟨_, _, returned⟩ := bind_eq_ok.mp returned
    obtain ⟨gs, _, returned⟩ := bind_eq_ok.mp returned
    split at returned
    · obtain ⟨_, _, returned⟩ := bind_eq_ok.mp returned
      cases returned
    · cases returned
      rfl
  · cases returned
    rfl

/-- The files that a letter becomes, from one stage to the next. -/
theorem rewritePdf_eq_ok {address : String}
    (returned : rewritePdf lib file pageCount allow = .ok (out, address)) :
    ∃ logged rewritten normalised tested present, logMetadataForLetter lib file = .ok logged ∧
      rewriteAddressBlock lib logged pageCount allow = .ok (rewritten, address) ∧
      normaliseFontsAndColours lib rewritten = .ok normalised ∧
      isNotifyTagPresent lib normalised = .ok (present, tested) ∧
      if present then out = tested else addNotifyTagToLetter lib tested = .ok out := by
  obtain ⟨logged, logging, returned⟩ := bind_eq_ok.mp returned
  obtain ⟨⟨rewritten, written⟩, rewriting, returned⟩ := bind_eq_ok.mp returned
  obtain ⟨normalised, normalising, returned⟩ := bind_eq_ok.mp returned
  obtain ⟨⟨present, tested⟩, testing, returned⟩ := bind_eq_ok.mp returned
  cases present with
  | true =>
    cases returned
    exact ⟨logged, rewritten, normalised, _, true, logging, rewriting, normalising, testing, rfl⟩
  | false =>
    obtain ⟨tagged, tagging, returned⟩ := bind_eq_ok.mp returned
    cases returned
    exact ⟨logged, rewritten, normalised, tested, false, logging, rewriting, normalising, testing, tagging⟩

/-- What the test for the tag compares, and the file put back at its start. -/
theorem isNotifyTagPresent_eq_ok (tested : isNotifyTagPresent lib file = .ok (present, after)) :
    after = file.seek 0 ∧ ∃ page rest words, lib.openDocument file.bytes = .ok (page :: rest) ∧
      lib.getTextWords page = .ok words ∧
      (present = true ↔ UnicodeForms.nfkd lib.unicode
        (joinLines (linesIn notifyTagBoundingBox words)) = notifyTagText) := by
  obtain ⟨⟨text, restored⟩, read, tested⟩ := bind_eq_ok.mp tested
  cases tested
  obtain ⟨doc, opened, read⟩ := bind_eq_ok.mp read
  cases doc with
  | nil => cases read
  | cons page rest =>
    obtain ⟨_, extracted, read⟩ := bind_eq_ok.mp read
    cases read
    obtain ⟨words, found, rfl⟩ := extractTextFromPage_eq_ok extracted
    exact ⟨rfl, page, rest, words, call_eq_ok.mp opened, found, beq_iff_eq⟩

/-- The tag is looked for last, or drawn on a new file. -/
theorem rewritePdf_position (returned : rewritePdf lib file pageCount allow = .ok (out, address)) :
    out.position = 0 := by
  obtain ⟨_, _, normalised, tested, present, _, _, _, testing, last⟩ := rewritePdf_eq_ok returned
  cases present with
  | true =>
    obtain rfl : out = tested := last
    rw [(isNotifyTagPresent_eq_ok testing).1]
    rfl
  | false =>
    obtain ⟨pdf, _, adding⟩ := bind_eq_ok.mp (show addNotifyTagToLetter lib tested = .ok out from last)
    cases pdf with
    | nil => cases adding
    | cons page rest =>
      obtain ⟨_, _, adding⟩ := bind_eq_ok.mp adding
      obtain ⟨page, _, adding⟩ := bind_eq_ok.mp adding
      obtain ⟨bytes, _, adding⟩ := bind_eq_ok.mp adding
      cases adding
      rfl

/-- A letter has an address, an attachment has none. -/
theorem produce_eq_ok (returned : produce lib file pageCount allow isAnAttachment = .ok (out, address)) :
    out.position = 0 ∧ (address = none ↔ isAnAttachment) := by
  cases isAnAttachment with
  | true =>
    obtain ⟨produced, normalised, returned⟩ := bind_eq_ok.mp returned
    cases returned
    exact ⟨normaliseFontsAndColours_position normalised, by simp⟩
  | false =>
    obtain ⟨⟨produced, written⟩, rewritten, returned⟩ := bind_eq_ok.mp returned
    cases returned
    exact ⟨rewritePdf_position rewritten, by simp⟩

theorem sanitise_eq_ok (lawful : lib.Lawful render)
    (returned : sanitise lib encoded allow isAnAttachment = .ok details) :
    Success lib encoded allow isAnAttachment details := by
  obtain ⟨pageCount, counted, returned⟩ := bind_eq_ok.mp returned
  obtain ⟨pages, read, rfl⟩ := lawful.pageCount (call_eq_ok.mp counted)
  dsimp only at returned
  split at returned
  · cases returned
  rename_i short
  obtain ⟨⟨⟨message, invalidPages⟩, validated⟩, checked, returned⟩ := bind_eq_ok.mp returned
  obtain ⟨_, kept, restored⟩ := getInvalidPagesWithMessage_eq_ok lawful checked
  dsimp only at returned
  split at returned
  · cases returned
  rename_i unnamed
  obtain ⟨⟨produced, address⟩, production, returned⟩ := bind_eq_ok.mp returned
  obtain ⟨_, _, returned⟩ := bind_eq_ok.mp returned
  cases returned
  obtain ⟨start, addressed⟩ := produce_eq_ok production
  refine ⟨rfl, rfl, ⟨pages, read, rfl, by simpa using short⟩, ?_, addressed⟩
  refine ⟨_, _, produced, rfl, rfl, ⟨⟨validated, kept, restored (not_not.mp unnamed), production⟩, start⟩, ?_⟩
  rw [MemoryFile.read_start produced start, Base64.b64decode_b64encode]

/-- Sanitisation ends in one of the two shapes. -/
theorem sanitiseFileContents_shape (lawful : lib.Lawful render) (encoded : Bytes) (allow isAnAttachment : Bool) :
    Success lib encoded allow isAnAttachment (sanitiseFileContents lib encoded allow isAnAttachment) ∨
      Failure (sanitiseFileContents lib encoded allow isAnAttachment) := by
  unfold sanitiseFileContents
  cases outcome : sanitise lib encoded allow isAnAttachment with
  | ok details => exact .inl (sanitise_eq_ok lawful outcome)
  | error error =>
    exact .inr (handled_failure ((sanitise_raises lawful encoded allow isAnAttachment).only error outcome))

theorem Success.not_failed (success : Success lib encoded allow isAnAttachment details) :
    details.failed = false := by
  simp [SanitisationDetails.failed, success.message]

theorem Failure.failed (failure : Failure details) : details.failed = true := by
  obtain ⟨message, same, nonempty⟩ := failure.message
  simp [SanitisationDetails.failed, same, nonempty]

/-- The message tells the two shapes apart. -/
theorem failed_iff_failure (lawful : lib.Lawful render) (encoded : Bytes) (allow isAnAttachment : Bool) :
    (sanitiseFileContents lib encoded allow isAnAttachment).failed = true ↔
      Failure (sanitiseFileContents lib encoded allow isAnAttachment) := by
  refine ⟨fun failed => ?_, Failure.failed⟩
  rcases sanitiseFileContents_shape lawful encoded allow isAnAttachment with success | failure
  · rw [success.not_failed] at failed
    cases failed
  · exact failure

end Shape

section InMemory
open InMemoryLibraries

private theorem blankPage_unwritten (index : Nat) :
    wordsOn (underOverlay true index blankPage) = [] := rfl

private theorem blankPage_passes (check : Check) :
    AllPass libraries InMemoryLibraries.render true [blankPage] check := by
  intro index page found
  obtain ⟨rfl, rfl⟩ : index = 0 ∧ page = blankPage := by
    cases index with
    | zero => exact ⟨rfl, (Option.some.inj found).symm⟩
    | succ => cases found
  cases check with
  | orientationAndSize => exact (by decide +kernel : Page.isA4Portrait blankPage = true)
  | printableArea =>
    rw [Passes, InMemoryLibraries.render, if_pos (blankPage_unwritten 0)]
    simp
  | notifyTag =>
    refine .inr fun tagged => ?_
    have words : libraries.getTextWords (underOverlay true 0 blankPage) = .ok [] :=
      congrArg Except.ok (blankPage_unwritten 0)
    rw [BearsTag, extractTextFromPage_ok reliable words] at tagged
    exact absurd tagged (by decide)

section Content
variable {content : Bytes} {pages : List TextPage}

/-- A document in memory is not mistaken for an error report. -/
theorem zeros_report_no_error (zeros : ∀ byte ∈ content, byte = 0) :
    ¬ (ascii "**** Error" <:+: content ∧ ascii "Output may be incorrect." <:+: content) :=
  fun found => absurd (zeros 42 (found.1.subset (by decide))) (by decide)

theorem no_unembedded_fonts (read : readDocument content = .ok pages) :
    containsUnembeddedFonts libraries { bytes := content } = .ok ([], { bytes := content }) := by
  have noFonts (rest : List TextPage) :
      rest.foldlM (fun fonts _ => walk (blankReader pages) libraries.stackRoom (.dictionary []) fonts) ⟨[], []⟩ =
        .ok ⟨[], []⟩ := by
    induction rest with
    | nil => rfl
    | cons page rest ih => exact ih
  have opened : libraries.pdfReader content = .ok (blankReader pages) := by
    simp [libraries, read]
  have given : (blankReader pages).pages = .ok pages ∧
      ∀ page, (blankReader pages).resources page = .ok (.dictionary []) := ⟨rfl, fun _ => rfl⟩
  simp [containsUnembeddedFonts, opened, given, noFonts, MemoryFile.seek]

private theorem blank_normalised (read : readDocument content = .ok pages) (zeros : ∀ byte ∈ content, byte = 0) :
    normaliseFontsAndColours libraries { bytes := content } = .ok { bytes := content } := by
  have plain : doesPdfContainCmyk libraries { bytes := content } = .ok (false, { bytes := content }) := by
    have noImages (rest : List TextPage) (i : Nat) :
        anyPageHasColorspace libraries pages "CMYK" rest i = .ok false := by
      induction rest generalizing i with
      | nil => rfl
      | cons page rest ih => exact ih (i + 1)
    have opened : libraries.openDocument content = .ok pages := read
    simp [doesPdfContainCmyk, doesPdfContainColorspace, opened, noImages, MemoryFile.seek]
  have converted : convertPdfToCmyk libraries { bytes := content } = .ok { bytes := content } := by
    simp [convertPdfToCmyk, libraries, MemoryFile.read, zeros_report_no_error zeros]
  simp [normaliseFontsAndColours, plain, converted, no_unembedded_fonts read]

private theorem blank_attachment_passes (read : readDocument content = .ok [blankPage])
    (zeros : ∀ byte ∈ content, byte = 0) :
    sanitiseFileContents libraries content false true =
      { recipientAddress := none, pageCount := some 1, message := none, invalidPages := none,
        file := some (Base64.b64encode content) } := by
  have readPages : libraries.readPages (libraries.leave .pageCount { bytes := content }).bytes =
      .ok [blankPage] := by
    rw [Libraries.leave_bytes, readPages_eq, read]
  obtain ⟨⟨⟨message, invalidPages⟩, after⟩, validated⟩ :=
    getInvalidPagesWithMessage_returns lawful reliable true readPages (by simp)
  obtain ⟨⟨pages, readAgain, verdict⟩, bytes, start⟩ := getInvalidPagesWithMessage_eq_ok lawful validated
  rw [readPages] at readAgain
  cases readAgain
  obtain ⟨rfl, rfl⟩ := verdict.accepts.mpr blankPage_passes
  have same : after = { bytes := content } := by
    cases after
    cases bytes
    cases start rfl
    rfl
  subst same
  have counted : libraries.pdfPageCount content = .ok 1 := by simp [libraries, read]
  have short : libraries.isLetterTooLong 1 = false := rfl
  have sanitised : sanitise libraries content false true = .ok
      { recipientAddress := none, pageCount := some 1, message := none, invalidPages := none,
        file := some (Base64.b64encode content) } := by
    have unchanged : warnIfFilesizeHasGrown content.length content.length = .ok () := by
      have level : ¬ content.length * (100 + allowedFilesizeInflationPercentage) < content.length * 100 := by
        rw [allowedFilesizeInflationPercentage]
        omega
      rw [warnIfFilesizeHasGrown, if_neg level]
      split <;> rfl
    simp [sanitise, counted, short, validated, produce, blank_normalised read zeros, MemoryFile.read, unchanged]
  rw [sanitiseFileContents, sanitised]

end Content

/-- A blank attachment is returned as it is. -/
theorem blankAttachment_sanitised : sanitiseFileContents libraries (encodePages [blankPage]) false true =
    { recipientAddress := none, pageCount := some 1, message := none, invalidPages := none,
      file := some (Base64.b64encode (encodePages [blankPage])) } :=
  blank_attachment_passes (readDocument_encodePages [blankPage]) fun _ => zero_of_mem_encodePages

end InMemory

end TemplatePreview.Sanitisation
