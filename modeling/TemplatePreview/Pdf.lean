import TemplatePreview.PageLayout
import TemplatePreview.UnicodeForms
import TemplatePreview.Outcomes

/-! Files, documents and the libraries that read, draw on and write them. The
libraries are a parameter: what is assumed of them is stated as laws, and every
call to one of them may raise. -/
namespace TemplatePreview.Pdf
open Region PageLayout Outcomes

abbrev Bytes : Type := List UInt8

/-- `io.BytesIO`: a file in memory with a current position. -/
structure MemoryFile where
  bytes : Bytes
  position : Nat := 0
  deriving DecidableEq, Repr

namespace MemoryFile

def seek (file : MemoryFile) (position : Nat) : MemoryFile := { file with position := position }

/-- Reads from the current position to the end. -/
def read (file : MemoryFile) : Bytes × MemoryFile :=
  (file.bytes.drop file.position, { file with position := max file.position file.bytes.length })

@[simp] theorem seek_bytes (file : MemoryFile) (position : Nat) : (file.seek position).bytes = file.bytes := rfl

/-- Only a read from the start receives the whole file. -/
theorem read_start (file : MemoryFile) (start : file.position = 0) : file.read.1 = file.bytes := by
  simp [read, start]

end MemoryFile

/-! ## Exceptions -/

/-- What a library raises. -/
inductive LibraryError where
  | pdfReadError (text : String)
  | runtimeError (text : String)
  | other (text : String)
  deriving DecidableEq, Repr

/-- What the application's own code raises, or lets through from a library. -/
inductive PyError where
  | validationFailed (message : String) (invalidPages : Option (List Nat)) (pageCount : Option Nat)
      (code : Nat)
  | invalidRequest (message : String) (code : Nat)
  | httpException (code : Nat) (description : String)
  | indexError
  | keyError (key : String)
  | typeError
  | attributeError
  | zeroDivisionError
  | recursionError
  | binasciiError
  | unicodeDecodeError
  | exception (text : String)
  | library (error : LibraryError)
  deriving DecidableEq, Repr

abbrev Py : Type → Type := Except PyError

/-- A call into a library: what it raises propagates. -/
def call (outcome : Except LibraryError α) : Py α := outcome.mapError .library

@[simp] theorem call_ok (value : α) : call (.ok value) = .ok value := rfl

@[simp] theorem call_eq_ok {outcome : Except LibraryError α} {value : α} :
    call outcome = .ok value ↔ outcome = .ok value := by
  cases outcome <;> simp [call, Except.mapError]

theorem call_bind (first : Except LibraryError α) (next : α → Except LibraryError β) :
    call (first >>= next) = call first >>= fun value => call (next value) := by
  cases first <;> rfl

/-! ## Documents -/

/-- A page as it is displayed: its box in user space, its rotation and whether the
`/Rotate` of the page only refers to that, what it held originally and what was merged
onto it since. -/
structure Page (K σ : Type) where
  mediabox : Box K
  rotate : Option Int
  rotateIsIndirect : Bool := false
  source : σ
  merged : List (Operation K) := []
  deriving DecidableEq, Repr

/-- The values of `/Rotate` as they stand on a page. -/
inductive RotateEntry where
  | none
  | number (degrees : Int)
  | indirectObject
  deriving DecidableEq, Repr

/-- `page.get("/Rotate")`, which does not follow a reference. -/
def Page.getRotate (page : Page K σ) : RotateEntry :=
  if page.rotateIsIndirect then .indirectObject
  else
    match page.rotate with
    | none => .none
    | some degrees => .number degrees

@[simp] theorem Page.getRotate_eq_none {page : Page K σ} :
    page.getRotate = .none ↔ page.rotateIsIndirect = false ∧ page.rotate = none := by
  cases indirect : page.rotateIsIndirect <;> cases rotation : page.rotate <;> simp [getRotate, indirect, rotation]

@[simp] theorem Page.getRotate_eq_number {page : Page K σ} {degrees : Int} :
    page.getRotate = .number degrees ↔ page.rotateIsIndirect = false ∧ page.rotate = some degrees := by
  cases indirect : page.rotateIsIndirect <;> cases rotation : page.rotate <;> simp [getRotate, indirect, rotation]

/-- `PageObject.merge_page` with a page made by a canvas. -/
def Page.merge (page : Page K σ) (can : NotifyCanvas K) : Page K σ :=
  { page with merged := page.merged ++ can.operations }

/-- One word of `get_text_words`, its box measured in points from the top left. -/
structure Word (K : Type) where
  box : Box K
  text : String
  block : Nat
  line : Nat
  word : Nat
  deriving DecidableEq, Repr

/-- An object of a PDF. Names and text are strings; numbers and other values
without parts are atoms. -/
inductive PdfObject where
  | dictionary (entries : List (String × PdfObject))
  | array (items : List PdfObject)
  | reference (number : Nat)
  | text (text : String)
  | atom (value : Nat)
  deriving Repr

/-- An opened document. Its parts are only read on first access. `lookupDepth` is how
deep the calls are nested that look at an object: those that find its keys and what its
items refer to. -/
structure PdfReader (K σ : Type) where
  pages : Except LibraryError (List (Page K σ))
  metadata : Except LibraryError Unit
  resources : Page K σ → Except LibraryError PdfObject
  getObject : Nat → Except LibraryError PdfObject
  lookupDepth : PdfObject → Nat

abbrev Rgb : Type := UInt8 × UInt8 × UInt8

/-- The pixels of a page image in mode RGB. -/
abbrev Image : Type := List Rgb

/-- What ghostscript left behind when it ended. -/
structure GsOutput where
  stdout : Bytes
  stderr : Bytes
  returncode : Int
  deriving DecidableEq, Repr

inductive GsJob where
  | convertToCmyk
  | embedFonts
  deriving DecidableEq, Repr

/-- The properties of `PostalAddress` that validation reads. -/
structure PostalAddress where
  nonempty : Bool
  hasEnoughLines : Bool
  hasTooManyLines : Bool
  hasAlphanumericCharacterInAddressLines1And2 : Bool
  hasInvalidCountryForBfpoAddress : Bool
  hasValidLastLine : Bool
  international : Bool
  hasInvalidCharacters : Bool
  hasNoFixedAbodeAddress : Bool
  normalised : String
  deriving DecidableEq, Repr

/-- The libraries that are handed a file and move its position. -/
inductive Reader where
  | pageCount
  | pypdf
  | pymupdf
  deriving DecidableEq, Repr

/-- The libraries the application is built on. `leavesAt` is where a reader
leaves the position of a file it was handed. `stackRoom` is how many nested calls
Python's stack still has room for where `contains_unembedded_fonts` calls `walk`: the
recursion limit less the calls that are running then. -/
structure Libraries (K σ : Type) where
  leavesAt : Reader → MemoryFile → Nat
  pdfPageCount : Bytes → Except LibraryError Nat
  isLetterTooLong : Nat → Bool
  postalAddress : String → Bool → Except LibraryError PostalAddress
  postalAddressesDiffer : String → String → Except LibraryError Bool
  pdfReader : Bytes → Except LibraryError (PdfReader K σ)
  mergePage : Page K σ → NotifyCanvas K → Except LibraryError (Page K σ)
  registerFont : String → Except LibraryError Unit
  pdfWriter : List (Page K σ) → Except LibraryError Bytes
  convertFromBytes : Bytes → Except LibraryError (List Image)
  getcolors : Image → Option (List (Nat × Rgb))
  openDocument : Bytes → Except LibraryError (List (Page K σ))
  documentPages : List (Page K σ) → Nat → Except LibraryError (List (Page K σ × Nat))
  getTextWords : Page K σ → Except LibraryError (List (Word K))
  getText : Page K σ → Box K → Except LibraryError String
  applyRedaction : Page K σ → Box K → Except LibraryError (Page K σ)
  documentToBytes : List (Page K σ) → Except LibraryError Bytes
  getPageImages : Page K σ → Except LibraryError (List Nat)
  pixmapColorspace : List (Page K σ) → Nat → Except LibraryError String
  ghostscript : GsJob → Bytes → Except LibraryError GsOutput
  unicode : UnicodeForms.Database
  stackRoom : Nat

namespace Libraries
variable (lib : Libraries K σ)

/-- The file after a library has read it. -/
def leave (reader : Reader) (file : MemoryFile) : MemoryFile := file.seek (lib.leavesAt reader file)

@[simp] theorem leave_bytes (reader : Reader) (file : MemoryFile) :
    (lib.leave reader file).bytes = file.bytes := rfl

/-- The pages that `PdfReader(file).pages` gives. -/
def readPages (bytes : Bytes) : Except LibraryError (List (Page K σ)) := do
  let pdf ← lib.pdfReader bytes
  pdf.pages

/-- What the libraries give when they do not raise. `render` is the image of a
page. -/
structure Lawful (render : Page K σ → Image) : Prop where
  pageCount : ∀ {bytes count}, lib.pdfPageCount bytes = .ok count →
    ∃ pages, lib.readPages bytes = .ok pages ∧ pages.length = count
  merged : ∀ {page can after}, lib.mergePage page can = .ok after → after = page.merge can
  written : ∀ {pages bytes}, lib.pdfWriter pages = .ok bytes → lib.readPages bytes = .ok pages
  rendered : ∀ {bytes pages images}, lib.readPages bytes = .ok pages →
    lib.convertFromBytes bytes = .ok images → images = pages.map render
  manyColours : ∀ image, lib.getcolors image = none ↔ 256 < image.toFinset.card
  colours : ∀ {image counts}, lib.getcolors image = some counts →
    ∀ colour, colour ∈ image ↔ ∃ count, (count, colour) ∈ counts
  opened : ∀ {bytes pages document}, lib.readPages bytes = .ok pages →
    lib.openDocument bytes = .ok document → document = pages
  numbered : ∀ {document start pages}, lib.documentPages document start = .ok pages →
    pages = document.zipIdx.drop start
  saved : ∀ {document bytes}, lib.documentToBytes document = .ok bytes → lib.readPages bytes = .ok document

variable {lib} in
/-- The laws say nothing of text, of images and of ghostscript. -/
theorem Lawful.replaced {render : Page K σ → Image} (lawful : lib.Lawful render)
    (getTextWords : Page K σ → Except LibraryError (List (Word K)))
    (applyRedaction : Page K σ → Box K → Except LibraryError (Page K σ))
    (getPageImages : Page K σ → Except LibraryError (List Nat))
    (pixmapColorspace : List (Page K σ) → Nat → Except LibraryError String)
    (ghostscript : GsJob → Bytes → Except LibraryError GsOutput) :
    Lawful { lib with
      getTextWords := getTextWords
      applyRedaction := applyRedaction
      getPageImages := getPageImages
      pixmapColorspace := pixmapColorspace
      ghostscript := ghostscript } render :=
  ⟨lawful.pageCount, lawful.merged, lawful.written, lawful.rendered, lawful.manyColours, lawful.colours,
    lawful.opened, lawful.numbered, lawful.saved⟩

variable {lib} in
/-- Pages may be rendered in another way. -/
theorem Lawful.rerendered {render shown : Page K σ → Image} (lawful : lib.Lawful render)
    {convertFromBytes : Bytes → Except LibraryError (List Image)}
    (rendered : ∀ {bytes pages images}, lib.readPages bytes = .ok pages → convertFromBytes bytes = .ok images →
      images = pages.map shown) : Lawful { lib with convertFromBytes := convertFromBytes } shown :=
  ⟨lawful.pageCount, lawful.merged, lawful.written, rendered, lawful.manyColours, lawful.colours, lawful.opened,
    lawful.numbered, lawful.saved⟩

/-- The libraries do not raise on a document that can be read. `pages(start=…)`
still raises when there is no such page. -/
structure Reliable : Prop where
  merge : ∀ page can, ∃ after, lib.mergePage page can = .ok after
  write : ∀ pages, ∃ bytes, lib.pdfWriter pages = .ok bytes
  convert : ∀ {bytes pages}, lib.readPages bytes = .ok pages →
    ∃ images, lib.convertFromBytes bytes = .ok images
  openDocument : ∀ {bytes pages}, lib.readPages bytes = .ok pages →
    ∃ document, lib.openDocument bytes = .ok document
  documentPages : ∀ document start, start < document.length →
    ∃ pages, lib.documentPages document start = .ok pages
  getTextWords : ∀ page, ∃ words, lib.getTextWords page = .ok words
  getText : ∀ page rect, ∃ text, lib.getText page rect = .ok text
  applyRedaction : ∀ page rect, ∃ after, lib.applyRedaction page rect = .ok after
  documentToBytes : ∀ document, ∃ bytes, lib.documentToBytes document = .ok bytes
  registerFont : ∀ font, lib.registerFont font = .ok ()
  postalAddressesDiffer : ∀ one other, ∃ differ, lib.postalAddressesDiffer one other = .ok differ

variable {lib} in
theorem Reliable.replaced (reliable : lib.Reliable) (words : Page K σ → List (Word K))
    (redact : Page K σ → Box K → Page K σ)
    (getPageImages : Page K σ → Except LibraryError (List Nat))
    (pixmapColorspace : List (Page K σ) → Nat → Except LibraryError String)
    (ghostscript : GsJob → Bytes → Except LibraryError GsOutput) :
    Reliable { lib with
      getTextWords := fun page => .ok (words page)
      applyRedaction := fun page rect => .ok (redact page rect)
      getPageImages := getPageImages
      pixmapColorspace := pixmapColorspace
      ghostscript := ghostscript } :=
  ⟨reliable.merge, reliable.write, reliable.convert, reliable.openDocument, reliable.documentPages,
    fun _ => ⟨_, rfl⟩, reliable.getText, fun _ _ => ⟨_, rfl⟩, reliable.documentToBytes, reliable.registerFont,
    reliable.postalAddressesDiffer⟩

variable {lib} in
theorem Reliable.rerendered (reliable : lib.Reliable)
    {convertFromBytes : Bytes → Except LibraryError (List Image)}
    (convert : ∀ {bytes pages}, lib.readPages bytes = .ok pages → ∃ images, convertFromBytes bytes = .ok images) :
    Reliable { lib with convertFromBytes := convertFromBytes } :=
  ⟨reliable.merge, reliable.write, convert, reliable.openDocument, reliable.documentPages, reliable.getTextWords,
    reliable.getText, reliable.applyRedaction, reliable.documentToBytes, reliable.registerFont,
    reliable.postalAddressesDiffer⟩

end Libraries

/-- `bytesio_from_pdf`. -/
def bytesioFromPdf (lib : Libraries K σ) (pages : List (Page K σ)) : Py MemoryFile := do
  let bytes ← call (lib.pdfWriter pages)
  return { bytes := bytes }

/-- `stitch_pdfs`. -/
def stitchPdfs (lib : Libraries K σ) (firstPdf secondPdf : MemoryFile) : Py MemoryFile := do
  let first ← call (lib.readPages firstPdf.bytes)
  let second ← call (lib.readPages secondPdf.bytes)
  bytesioFromPdf lib (first ++ second)

end TemplatePreview.Pdf
