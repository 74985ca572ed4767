import TemplatePreview.Pdf
import TemplatePreview.BytesLiteral

/-! Which fonts a document uses without embedding them, and the two ghostscript
jobs that rewrite a document. -/
namespace TemplatePreview.EmbeddedFonts
open Pdf Outcomes BytesLiteral

variable {K σ : Type}

/-- A value that can be kept in a set. -/
inductive Hashable where
  | text (text : String)
  | atom (value : Nat)
  | reference (number : Nat)
  deriving DecidableEq, Repr

/-- The fonts used so far and the fonts embedded so far. -/
structure Fonts where
  fnt : List Hashable
  emb : List Hashable
  deriving DecidableEq, Repr

/-- Dictionaries and arrays cannot be kept in a set. -/
def hashable : PdfObject → Py Hashable
  | .text text => return .text text
  | .atom value => return .atom value
  | .reference number => return .reference number
  | .dictionary _ | .array _ => throw .typeError

/-- An item of a dictionary, followed to the object it refers to. -/
def item (getObject : Nat → Except LibraryError PdfObject) : PdfObject → Py PdfObject
  | .reference number => call (getObject number)
  | object => return object

/-- Whether "Type3" is in a value: part of a text or an element of a container. -/
def searchType3 : PdfObject → Py Unit
  | .atom _ => throw .typeError
  | _ => return ()

/-- What `walk` does with the keys of a dictionary before it goes on to its
items. -/
def visit (getObject : Nat → Except LibraryError PdfObject) (entries : List (String × PdfObject)) (fonts : Fonts) :
    Py Fonts := do
  let fonts ← (match entries.lookup "/BaseFont" with
    | none => pure fonts
    | some value => do
      let font ← hashable (← item getObject value)
      return { fonts with fnt := fonts.fnt.insert font })
  let fonts ← (match entries.lookup "/FontName" with
    | none => pure fonts
    | some value =>
      if ["/FontFile", "/FontFile2", "/FontFile3"].any fun key => (entries.lookup key).isSome then do
        let font ← hashable (← item getObject value)
        return { fonts with emb := fonts.emb.insert font }
      else pure fonts)
  match entries.lookup "/Subtype" with
  | none => return fonts
  | some value => do
    searchType3 (← item getObject value)
    return fonts

/-- `walk`, with the nested calls that the stack still has room for. The call itself is
one of them; so are those that look at the object. -/
def walk (pdf : PdfReader K σ) : Nat → PdfObject → Fonts → Py Fonts
  | 0, _, _ => throw .recursionError
  | room + 1, object, fonts =>
    if room < pdf.lookupDepth object then throw .recursionError
    else
      match object with
      | .dictionary entries => do
        let fonts ← visit pdf.getObject entries fonts
        entries.foldlM (fun fonts entry => do walk pdf room (← item pdf.getObject entry.2) fonts) fonts
      | .array items => items.foldlM (fun fonts child => walk pdf room child fonts) fonts
      | .reference number => do walk pdf room (← call (pdf.getObject number)) fonts
      | .text _ | .atom _ => return fonts

/-- `contains_unembedded_fonts`: the fonts, and the file put back at its start. -/
def containsUnembeddedFonts (lib : Libraries K σ) (pdfData : MemoryFile) : Py (List Hashable × MemoryFile) := do
  let pdf ← call (lib.pdfReader pdfData.bytes)
  let pdfData := lib.leave .pypdf pdfData
  let pages ← call pdf.pages
  let fonts ← pages.foldlM (fun fonts page => do
    let resources ← call (pdf.resources page)
    walk pdf lib.stackRoom resources fonts) ⟨[], []⟩
  return (fonts.fnt.filter fun font => font ∉ fonts.emb, pdfData.seek 0)

/-- `", ".join(sorted(…))`, which only texts can be part of. -/
def unembeddedConcat (unembedded : List Hashable) : Py Unit :=
  if unembedded.all fun font => match font with
    | .text _ => true
    | .atom _ | .reference _ => false
  then return () else throw .typeError

/-- `bytes.decode("utf-8")`. -/
def decodeUtf8 (bytes : Bytes) : Py String :=
  match String.fromUTF8? ⟨bytes.toArray⟩ with
  | none => throw .unicodeDecodeError
  | some text => return text

/-- `embed_fonts`. -/
def embedFonts (lib : Libraries K σ) (pdfData : MemoryFile) : Py MemoryFile := do
  let gs ← call (lib.ghostscript .embedFonts pdfData.read.1)
  if gs.returncode ≠ 0 then do
    let stderr ← decodeUtf8 gs.stderr
    throw (.exception
      s!"ghostscript font embed process failed with return code: {gs.returncode}\nstderr:\n{stderr}")
  else
    return { bytes := gs.stdout }

/-- The bytes of a text of ASCII characters. -/
def ascii (text : String) : Bytes := text.toList.map fun character => UInt8.ofNat character.toNat

/-- `convert_pdf_to_cmyk`. -/
def convertPdfToCmyk (lib : Libraries K σ) (inputData : MemoryFile) : Py MemoryFile := do
  let gs ← call (lib.ghostscript .convertToCmyk inputData.read.1)
  let errorInStream := ascii "**** Error" <:+: gs.stdout ∧ ascii "Output may be incorrect." <:+: gs.stdout
  if errorInStream then
    throw (.exception "ghostscript cmyk transformation failed to read all content streams")
  else if gs.returncode ≠ 0 then
    throw (.exception (s!"ghostscript cmyk transformation failed with return code: {gs.returncode}\n" ++
      s!"stdout: {strOfBytes gs.stdout}\nstderr:{strOfBytes gs.stderr}"))
  else
    return { bytes := gs.stdout }

/-- The loop over the images of a page, up to the first one with the colour
space. -/
def anyImageHasColorspace (lib : Libraries K σ) (doc : List (Page K σ)) (colourspace : String) :
    List Nat → Py Bool
  | [] => return false
  | xref :: rest => do
    let name ← call (lib.pixmapColorspace doc xref)
    if colourspace.toList <:+: name.toList then return true
    else anyImageHasColorspace lib doc colourspace rest

/-- The loop over the pages from index `i` on. -/
def anyPageHasColorspace (lib : Libraries K σ) (doc : List (Page K σ)) (colourspace : String) :
    List (Page K σ) → Nat → Py Bool
  | [], _ => return false
  | page :: rest, i =>
    match lib.getPageImages page with
    | .error (.runtimeError _) => throw (.invalidRequest s!"Invalid PDF on page {i + 1}" 400)
    | .error error => throw (.library error)
    | .ok images => do
      if ← anyImageHasColorspace lib doc colourspace images then return true
      else anyPageHasColorspace lib doc colourspace rest (i + 1)

/-- `_does_pdf_contain_colorspace`. -/
def doesPdfContainColorspace (lib : Libraries K σ) (colourspace : String) (data : MemoryFile) :
    Py (Bool × MemoryFile) := do
  let doc ← call (lib.openDocument data.bytes)
  let data := lib.leave .pymupdf data
  let found ← anyPageHasColorspace lib doc colourspace doc 0
  return (found, data.seek 0)

def doesPdfContainCmyk (lib : Libraries K σ) (data : MemoryFile) : Py (Bool × MemoryFile) :=
  doesPdfContainColorspace lib "CMYK" data

def doesPdfContainRgb (lib : Libraries K σ) (data : MemoryFile) : Py (Bool × MemoryFile) :=
  doesPdfContainColorspace lib "RGB" data

/-- `normalise_fonts_and_colours`. -/
def normaliseFontsAndColours (lib : Libraries K σ) (fileData : MemoryFile) : Py MemoryFile := do
  let (containsCmyk, fileData) ← doesPdfContainCmyk lib fileData
  let fileData ← (if !containsCmyk then convertPdfToCmyk lib fileData
    else do
      let (containsRgb, fileData) ← doesPdfContainRgb lib fileData
      if containsRgb then convertPdfToCmyk lib fileData else return fileData)
  let (unembedded, fileData) ← containsUnembeddedFonts lib fileData
  if unembedded ≠ [] then do
    unembeddedConcat unembedded
    embedFonts lib fileData
  else return fileData

/-- The walk over the fonts puts the file back at its start. -/
theorem containsUnembeddedFonts_file {lib : Libraries K σ} {file out : MemoryFile} {unembedded : List Hashable}
    (returned : containsUnembeddedFonts lib file = .ok (unembedded, out)) : out = file.seek 0 := by
  obtain ⟨pdf, _, returned⟩ := bind_eq_ok.mp returned
  obtain ⟨pages, _, returned⟩ := bind_eq_ok.mp returned
  obtain ⟨fonts, _, returned⟩ := bind_eq_ok.mp returned
  cases returned
  rfl

end TemplatePreview.EmbeddedFonts
