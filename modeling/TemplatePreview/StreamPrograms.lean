import TemplatePreview.SharedObjects
import TemplatePreview.Sanitisation

/-! Sanitisation as it is run: files are handed on by reference, their positions
change in place, and a library may leave a position anywhere. Reads that begin at
the current position are observed. -/
namespace TemplatePreview.StreamPrograms
open SharedObjects Pdf Outcomes TextExtraction AddressWindow AddressRewrite EmbeddedFonts Sanitisation
open Region PageLayout Overlays PageValidation

/-! ## Files -/

/-- Who reads from the current position. -/
inductive Consumer where
  | convertPdfToCmyk
  | embedFonts
  | getOutOfBoundsPages
  | sanitiseFileContents
  deriving DecidableEq, Repr

/-- A read from the current position, and all the file holds. -/
structure StreamRead where
  consumer : Consumer
  position : Nat
  received : Bytes
  contents : Bytes
  deriving DecidableEq, Repr

abbrev Streams : Type := Heap MemoryFile StreamRead
abbrev StreamAction (α : Type) : Type := Action MemoryFile StreamRead PyError α

def seek (file : Ref) (position : Nat) : StreamAction Unit := Action.change file fun stream => stream.seek position

def contents (file : Ref) : StreamAction Bytes := do return (← Action.look file).bytes

/-- `file.read()`. -/
def read (consumer : Consumer) (file : Ref) : StreamAction Bytes := do
  let stream ← Action.look file
  Action.observe { consumer := consumer, position := stream.position, received := stream.read.1,
                   contents := stream.bytes }
  Action.change file fun stream => stream.read.2
  return stream.read.1

/-- A library that was handed the file may leave its position anywhere, whether it
returns or raises. -/
def reading (file : Ref) (result : Py α) : StreamAction α := do
  let position ← Action.choose
  seek file position
  liftM result

variable {K σ : Type}

/-- `bytesio_from_pdf`. The pages are read from the file they came from. -/
def bytesioFromPdf (lib : Libraries K σ) (source : Ref) (pages : List (Page K σ)) : StreamAction Ref := do
  let bytes ← reading source (call (lib.pdfWriter pages))
  let pdfBytes ← Action.make { bytes := bytes, position := bytes.length }
  seek pdfBytes 0
  return pdfBytes

/-- `PdfReader(file).pages`. -/
def openPages (lib : Libraries K σ) (file : Ref) : StreamAction (List (Page K σ)) := do
  let bytes ← contents file
  let pdf ← reading file (call (lib.pdfReader bytes))
  reading file (call pdf.pages)

/-- `pymupdf.open("pdf", file)`. -/
def openDocument (lib : Libraries K σ) (file : Ref) : StreamAction (List (Page K σ)) := do
  let bytes ← contents file
  reading file (call (lib.openDocument bytes))

/-! ## Fonts and colours -/

def doesPdfContainColorspace (lib : Libraries K σ) (colourspace : String) (data : Ref) : StreamAction Bool := do
  let doc ← openDocument lib data
  let found ← reading data (anyPageHasColorspace lib doc colourspace doc 0)
  seek data 0
  return found

def doesPdfContainCmyk (lib : Libraries K σ) (data : Ref) : StreamAction Bool :=
  doesPdfContainColorspace lib "CMYK" data

def doesPdfContainRgb (lib : Libraries K σ) (data : Ref) : StreamAction Bool :=
  doesPdfContainColorspace lib "RGB" data

/-- The file that ghostscript wrote, or the exception of the caller. -/
def gsOutput (result : Py MemoryFile) : StreamAction Ref := do
  let stream ← (liftM result : StreamAction MemoryFile)
  Action.make stream

def convertPdfToCmyk (lib : Libraries K σ) (inputData : Ref) : StreamAction Ref := do
  let input ← read .convertPdfToCmyk inputData
  gsOutput (EmbeddedFonts.convertPdfToCmyk lib { bytes := input })

def containsUnembeddedFonts (lib : Libraries K σ) (pdfData : Ref) : StreamAction (List Hashable) := do
  let bytes ← contents pdfData
  let pdf ← reading pdfData (call (lib.pdfReader bytes))
  let pages ← reading pdfData (call pdf.pages)
  let fonts ← reading pdfData (pages.foldlM (fun fonts page => do
    let resources ← call (pdf.resources page)
    walk pdf lib.stackRoom resources fonts) ⟨[], []⟩)
  seek pdfData 0
  return fonts.fnt.filter fun font => font ∉ fonts.emb

def embedFonts (lib : Libraries K σ) (pdfData : Ref) : StreamAction Ref := do
  let input ← read .embedFonts pdfData
  gsOutput (EmbeddedFonts.embedFonts lib { bytes := input })

def normaliseFontsAndColours (lib : Libraries K σ) (fileData : Ref) : StreamAction Ref := do
  let containsCmyk ← doesPdfContainCmyk lib fileData
  let fileData ← (if !containsCmyk then convertPdfToCmyk lib fileData
    else do
      let containsRgb ← doesPdfContainRgb lib fileData
      if containsRgb then convertPdfToCmyk lib fileData else return fileData)
  let unembedded ← containsUnembeddedFonts lib fileData
  if unembedded ≠ [] then do
    liftM (unembeddedConcat unembedded)
    embedFonts lib fileData
  else return fileData

/-! ## Validation -/

section Letters
variable [Field K] [LinearOrder K]

def getPagesWithInvalidOrientationOrSize (lib : Libraries K σ) (srcPdf : Ref) : StreamAction (List Nat) := do
  let pages ← openPages lib srcPdf
  return pages.zipIdx.flatMap fun (page, pageNum) => if Page.isA4Portrait page then [] else [pageNum + 1]

def overlayPrintableAreasWithWhite (lib : Libraries K σ) (srcPdf : Ref) (isAnAttachment : Bool) :
    StreamAction Ref := do
  let pdf ← openPages lib srcPdf
  let pdf ← reading srcPdf (if isAnAttachment then pure pdf
    else overlayPrintableAreasOfAddressBlockPageWithWhite lib pdf)
  let pdf ← reading srcPdf (overlayContentPagesWithWhite lib pdf (if isAnAttachment then 0 else 1))
  let out ← bytesioFromPdf lib srcPdf pdf
  seek srcPdf 0
  return out

def getOutOfBoundsPages (lib : Libraries K σ) (srcPdfBytes : Ref) : StreamAction (List Nat) := do
  let bytes ← read .getOutOfBoundsPages srcPdfBytes
  let images ← (liftM (call (lib.convertFromBytes bytes)) : StreamAction (List Image))
  seek srcPdfBytes 0
  return (images.zipIdx 1).flatMap fun (image, i) => outOfBounds lib image i

def getPagesWithNotifyTag (lib : Libraries K σ) (srcPdfBytes : Ref) (isAnAttachment : Bool) :
    StreamAction (List Nat) := do
  seek srcPdfBytes 0
  let doc ← openDocument lib srcPdfBytes
  let startingPageIndex := if isAnAttachment then 0 else 1
  if doc.length = startingPageIndex then do
    seek srcPdfBytes 0
    return []
  else do
    let pages ← reading srcPdfBytes (call (lib.documentPages doc startingPageIndex))
    let invalidPages ← reading srcPdfBytes (pages.mapM (tagReport lib))
    seek srcPdfBytes 0
    return invalidPages.flatten

def getInvalidPagesWithMessage (lib : Libraries K σ) (srcPdf : Ref) (isAnAttachment : Bool) :
    StreamAction (String × List Nat) := do
  let invalidPages ← getPagesWithInvalidOrientationOrSize lib srcPdf
  if 0 < invalidPages.length then
    return ("letter-not-a4-portrait-oriented", invalidPages)
  else do
    let pdfToValidate ← overlayPrintableAreasWithWhite lib srcPdf isAnAttachment
    let invalidPages ← getOutOfBoundsPages lib pdfToValidate
    if 0 < invalidPages.length then
      return ("content-outside-printable-area", invalidPages)
    else do
      let invalidPages ← getPagesWithNotifyTag lib pdfToValidate isAnAttachment
      if 0 < invalidPages.length then
        return ("notify-tag-found-in-content", invalidPages)
      else
        return ("", [])

/-! ## Letters -/

def extractTextFromFirstPageOfPdf (lib : Libraries K σ) (pdf : Ref) (rect : Box K) : StreamAction String := do
  seek pdf 0
  let doc ← openDocument lib pdf
  let ret ← reading pdf (match doc with
    | [] => throw .indexError
    | page :: _ => extractTextFromPage lib page rect)
  seek pdf 0
  return ret

def extractAddressBlock (lib : Libraries K σ) (pdf : Ref) : StreamAction String :=
  extractTextFromFirstPageOfPdf lib pdf addressBoundingBox

def isNotifyTagPresent (lib : Libraries K σ) (pdf : Ref) : StreamAction Bool := do
  let text ← extractTextFromFirstPageOfPdf lib pdf notifyTagBoundingBox
  return text == notifyTagText

def redactPrecompiledLetterAddressBlock (lib : Libraries K σ) (pdf : Ref) : StreamAction Ref := do
  seek pdf 0
  let doc ← openDocument lib pdf
  match doc with
  | [] => throw .indexError
  | firstPage :: rest => do
    let firstPage ← reading pdf (call (lib.applyRedaction firstPage addressBoundingBox))
    let bytes ← reading pdf (call (lib.documentToBytes (firstPage :: rest)))
    Action.make { bytes := bytes }

/-- `overlay_first_page_of_pdf_with_new_content`, on the pages read from a file. -/
def overlayFirstPageOfPdfWithNewContent (lib : Libraries K σ) (source : Ref) (oldPdfReader : List (Page K σ))
    (newPage : NotifyCanvas K) : StreamAction Ref :=
  match oldPdfReader with
  | [] => throw .indexError
  | existingPage :: rest => do
    let existingPage ← reading source (call (lib.mergePage existingPage newPage))
    bytesioFromPdf lib source (existingPage :: rest)

def addAddressToPrecompiledLetter (lib : Libraries K σ) (pdf : Ref) (address : String) : StreamAction Ref := do
  let oldPdf ← openPages lib pdf
  let _ ← (liftM (call (lib.registerFont font)) : StreamAction Unit)
  overlayFirstPageOfPdfWithNewContent lib pdf oldPdf (addressCanvas address)

def rewriteAddressBlock (lib : Libraries K σ) (pdf : Ref) (pageCount : Nat) (allowInternationalLetters : Bool) :
    StreamAction (Ref × String) := do
  let text ← extractAddressBlock lib pdf
  let address ← (liftM (call (lib.postalAddress text allowInternationalLetters)) : StreamAction PostalAddress)
  match errorCode address allowInternationalLetters with
  | some code => throw (.validationFailed code (some [1]) (some pageCount) 400)
  | none => do
    let pdf ← redactPrecompiledLetterAddressBlock lib pdf
    let pdf ← addAddressToPrecompiledLetter lib pdf address.normalised
    return (pdf, address.normalised)

def logMetadataForLetter (lib : Libraries K σ) (srcPdf : Ref) : StreamAction Unit := do
  let bytes ← contents srcPdf
  let pdf ← reading srcPdf (call (lib.pdfReader bytes))
  reading srcPdf (call pdf.metadata)

def addNotifyTagToLetter (lib : Libraries K σ) (srcPdf : Ref) : StreamAction Ref := do
  let pdf ← openPages lib srcPdf
  match pdf with
  | [] => throw .indexError
  | page :: rest => do
    let _ ← (liftM (call (lib.registerFont font)) : StreamAction Unit)
    let x := notifyTagFromLeftOfPage * mm
    let y := page.mediabox.y1 - (notifyTagFromTopOfPage + notifyTagLineHeight) * mm
    let can := (NotifyCanvas.new white).drawString font notifyTagFontSize x y notifyTagText
    let page ← reading srcPdf (call (lib.mergePage page can))
    bytesioFromPdf lib srcPdf (page :: rest)

def rewritePdf (lib : Libraries K σ) (fileData : Ref) (pageCount : Nat) (allowInternationalLetters : Bool) :
    StreamAction (Ref × String) := do
  logMetadataForLetter lib fileData
  let (fileData, recipientAddress) ← rewriteAddressBlock lib fileData pageCount allowInternationalLetters
  let fileData ← normaliseFontsAndColours lib fileData
  let present ← isNotifyTagPresent lib fileData
  if !present then do
    let fileData ← addNotifyTagToLetter lib fileData
    return (fileData, recipientAddress)
  else return (fileData, recipientAddress)

def produce (lib : Libraries K σ) (fileData : Ref) (pageCount : Nat)
    (allowInternationalLetters isAnAttachment : Bool) : StreamAction (Ref × Option String) :=
  if isAnAttachment then do
    let fileData ← normaliseFontsAndColours lib fileData
    return (fileData, none)
  else do
    let (fileData, recipientAddress) ← rewritePdf lib fileData pageCount allowInternationalLetters
    return (fileData, some recipientAddress)

def sanitise (lib : Libraries K σ) (encodedString : Bytes) (allowInternationalLetters isAnAttachment : Bool) :
    StreamAction SanitisationDetails := do
  let fileData ← Action.make { bytes := encodedString }
  let bytes ← contents fileData
  let pageCount ← reading fileData (call (lib.pdfPageCount bytes))
  if lib.isLetterTooLong pageCount then
    throw (.validationFailed "letter-too-long" none (some pageCount) 400)
  else do
    let (message, invalidPages) ← getInvalidPagesWithMessage lib fileData isAnAttachment
    if message ≠ "" then
      throw (.validationFailed message (some invalidPages) (some pageCount) 400)
    else do
      let (fileData, recipientAddress) ← produce lib fileData pageCount allowInternationalLetters isAnAttachment
      let rawFile ← read .sanitiseFileContents fileData
      liftM (warnIfFilesizeHasGrown encodedString.length rawFile.length)
      return { recipientAddress := recipientAddress, pageCount := some pageCount, message := none,
               invalidPages := none, file := some (Base64.b64encode rawFile) }

/-- `sanitise_file_contents`. -/
def sanitiseFileContents (lib : Libraries K σ) (encodedString : Bytes)
    (allowInternationalLetters isAnAttachment : Bool) : StreamAction SanitisationDetails :=
  tryCatch (sanitise lib encodedString allowInternationalLetters isAnAttachment) fun error => return handled error

end Letters

end TemplatePreview.StreamPrograms
