import TemplatePreview.TextExtraction
import Mathlib.Tactic.DeriveEncodable
import Mathlib.Data.Rat.Encodable
import Mathlib.Tactic.Linarith

/-! Libraries whose documents are lists of pages and whose pages are lists of words.
All the assumptions about libraries hold of them together. -/
namespace TemplatePreview.InMemoryLibraries
open Region PageLayout Pdf Outcomes TextExtraction

/-! ## Documents as bytes -/

instance encodableChar : Encodable Char :=
  Encodable.ofLeftInjection Char.toNat (fun code => some (Char.ofNat code)) (by simp)

instance encodableString : Encodable String :=
  Encodable.ofEquiv (List Char) ⟨String.toList, String.ofList, fun _ => by simp, fun _ => by simp⟩

deriving instance Encodable for Box, Color, Operation, Word, Page

/-- A page with the words it had from the start. -/
abbrev TextPage : Type := Page ℚ (List (Word ℚ))

/-- A document is written as its number of zero bytes. That number is too large to
be evaluated. -/
@[irreducible] def encodePages (pages : List TextPage) : Bytes := List.replicate (Encodable.encode pages) 0

def decodePages (bytes : Bytes) : Option (List TextPage) :=
  if bytes.all (· == 0) then Encodable.decode bytes.length else none

theorem decodePages_encodePages (pages : List TextPage) : decodePages (encodePages pages) = some pages := by
  simp [decodePages, encodePages]

theorem zero_of_mem_encodePages {pages : List TextPage} {byte : UInt8} (member : byte ∈ encodePages pages) :
    byte = 0 := by
  unfold encodePages at member
  exact List.eq_of_mem_replicate member

@[simp] theorem decodePages_nil : decodePages [] = some [] := by simp [decodePages]

theorem encodePages_ne_nil {pages : List TextPage} (nonempty : pages ≠ []) : encodePages pages ≠ [] := by
  intro empty
  have decoded := decodePages_encodePages pages
  rw [empty, decodePages_nil] at decoded
  exact nonempty (Option.some.inj decoded).symm

/-! ## Words -/

def splitText (separator : Char) (text : String) : List String := (text.toList.splitOn separator).map String.ofList

def linesOf (text : String) : List (List String) :=
  ((splitText '\n' text).map fun line => (splitText ' ' line).filter (· ≠ "")).filter (· ≠ [])

/-- Every character is as wide as the font is high. -/
def textWidth (_ : String) (size : ℚ) (text : String) : ℚ := size * text.length

/-- The words of a line next to one another from `left` on. -/
def placeLine (size left top : ℚ) (block line : Nat) : Nat → List String → List (Word ℚ)
  | _, [] => []
  | number, text :: rest =>
    ⟨⟨left, top, left + size * text.length, top + size⟩, text, block, line, number⟩ ::
      placeLine size (left + size * (text.length + 1)) top block line (number + 1) rest

/-- The lines of a text in a block of their own. -/
def placeText (mediabox : Box ℚ) (size leading rise x y : ℚ) (block : Nat) (lines : List (List String)) :
    List (List (Word ℚ)) :=
  lines.zipIdx.map fun line =>
    placeLine size (x - mediabox.x0) (mediabox.y1 - (y - line.2 * leading + rise) - size) block line.2 0 line.1

/-- A block number that no word has. -/
def nextBlock (words : List (Word ℚ)) : Nat := (words.map Word.block).foldr max 0 + 1

/-- The words of a page after one more operation. -/
def drawOn (mediabox : Box ℚ) (words : List (Word ℚ)) : Operation ℚ → List (Word ℚ)
  | .rect .. => words
  | .text _ _ size leading rise x y text =>
    words ++ (placeText mediabox size leading rise x y (nextBlock words) (linesOf text)).flatten

def wordsOn (page : TextPage) : List (Word ℚ) := page.merged.foldl (drawOn page.mediabox) page.source

/-- The words stay that the rectangle does not touch; drawn rectangles stay. -/
def redact (page : TextPage) (rect : Box ℚ) : TextPage :=
  { page with
    source := (wordsOn page).filter fun word => ¬ word.box.Intersects rect
    merged := page.merged.filter fun operation => match operation with
      | .rect .. => true
      | .text .. => false }

/-! ## The libraries -/

/-- A page without words is white. -/
def render (page : TextPage) : Image :=
  if wordsOn page = [] then [(255, 255, 255)] else [(255, 255, 255), (0, 0, 0)]

def getcolors (image : Image) : Option (List (Nat × Rgb)) :=
  if 256 < image.dedup.length then none else some (image.dedup.map fun colour => (image.count colour, colour))

def readDocument (bytes : Bytes) : Except LibraryError (List TextPage) :=
  match decodePages bytes with
  | none => .error (.pdfReadError "EOF marker not found")
  | some pages => .ok pages

/-- An address is what it says line by line. -/
def postalAddress (text : String) : PostalAddress where
  nonempty := text ≠ ""
  hasEnoughLines := 3 ≤ (linesOf text).length
  hasTooManyLines := 7 < (linesOf text).length
  hasAlphanumericCharacterInAddressLines1And2 := true
  hasInvalidCountryForBfpoAddress := false
  hasValidLastLine := true
  international := false
  hasInvalidCharacters := false
  hasNoFixedAbodeAddress := false
  normalised := textOf (linesOf text)

/-- A document without fonts. -/
def blankReader (pages : List TextPage) : PdfReader ℚ (List (Word ℚ)) where
  pages := .ok pages
  metadata := .ok ()
  resources _ := .ok (.dictionary [])
  getObject _ := .ok (.dictionary [])
  lookupDepth _ := 10

def libraries : Libraries ℚ (List (Word ℚ)) where
  leavesAt _ file := file.bytes.length
  pdfPageCount bytes := do return (← readDocument bytes).length
  isLetterTooLong count := 10 < count
  postalAddress text _ := .ok (postalAddress text)
  postalAddressesDiffer one other := .ok (one ≠ other)
  pdfReader bytes := do
    let pages ← readDocument bytes
    return blankReader pages
  mergePage page can := .ok (page.merge can)
  registerFont _ := .ok ()
  pdfWriter pages := .ok (encodePages pages)
  convertFromBytes bytes := do return (← readDocument bytes).map render
  getcolors := getcolors
  openDocument := readDocument
  documentPages document start :=
    if start < document.length then .ok (document.zipIdx.drop start) else .error (.other "page not in document")
  getTextWords page := .ok (wordsOn page)
  getText page rect := .ok (joinLines (linesIn rect (wordsOn page)))
  applyRedaction page rect := .ok (redact page rect)
  documentToBytes document := .ok (encodePages document)
  getPageImages _ := .ok []
  pixmapColorspace _ _ := .error (.other "no image")
  ghostscript _ bytes := .ok ⟨bytes, [], 0⟩
  unicode := ⟨fun character => [character], fun _ => 0⟩
  stackRoom := 900

theorem readPages_eq (bytes : Bytes) : libraries.readPages bytes = readDocument bytes := by
  simp only [Libraries.readPages, libraries]
  cases readDocument bytes <;> rfl

@[simp] theorem readDocument_encodePages (pages : List TextPage) :
    readDocument (encodePages pages) = .ok pages := by
  rw [readDocument, decodePages_encodePages]

theorem readPages_encodePages (pages : List TextPage) : libraries.readPages (encodePages pages) = .ok pages := by
  rw [readPages_eq, readDocument_encodePages]

theorem readPages_file (pages : List TextPage) :
    libraries.readPages (MemoryFile.mk (encodePages pages) 0).bytes = .ok pages := readPages_encodePages pages

/-- No text is changed by normalization. -/
theorem stable (text : String) : UnicodeForms.Stable libraries.unicode text := by
  have kept : ∀ characters, UnicodeForms.reorder libraries.unicode characters = characters := by
    intro characters
    induction characters with
    | nil => rfl
    | cons mark rest ih =>
      have tail : rest.foldr (UnicodeForms.insertMark libraries.unicode) [] = rest := ih
      rw [UnicodeForms.reorder, List.foldr_cons, tail]
      cases rest <;> rfl
  rw [UnicodeForms.Stable, UnicodeForms.nfkd, kept]
  simp [libraries]

/-- A blank page of A4 size. -/
def blankPage : TextPage := { mediabox := ⟨0, 0, 210 * mm, 297 * mm⟩, rotate := none, source := [] }

/-- A page with one word in its address window. -/
def addressedPage : TextPage := { blankPage with source := [⟨⟨100, 130, 130, 140⟩, "London", 0, 0, 0⟩] }

theorem lawful : libraries.Lawful render where
  pageCount := by
    intro bytes count counted
    obtain ⟨pages, read, rest⟩ := bind_eq_ok.mp counted
    cases rest
    exact ⟨pages, by rw [readPages_eq, read], rfl⟩
  merged := by
    rintro page can after ⟨⟩
    rfl
  written := by
    rintro pages bytes ⟨⟩
    exact readPages_encodePages pages
  rendered := by
    intro bytes pages images read converted
    rw [readPages_eq] at read
    obtain ⟨others, readAgain, rest⟩ := bind_eq_ok.mp converted
    rw [read] at readAgain
    cases readAgain
    cases rest
    rfl
  manyColours := by
    intro image
    simp [libraries, getcolors, List.card_toFinset]
  colours := by
    intro image counts listed colour
    simp only [libraries, getcolors] at listed
    split at listed
    · cases listed
    cases listed
    simp
  opened := by
    intro bytes pages document read opened
    rw [readPages_eq] at read
    exact Except.ok.inj (opened.symm.trans read)
  numbered := by
    intro document start pages numbered
    simp only [libraries] at numbered
    split at numbered
    · exact (Except.ok.inj numbered).symm
    · cases numbered
  saved := by
    rintro document bytes ⟨⟩
    exact readPages_encodePages document

theorem reliable : libraries.Reliable where
  merge _ _ := ⟨_, rfl⟩
  write _ := ⟨_, rfl⟩
  convert := by
    intro bytes pages read
    rw [readPages_eq] at read
    exact ⟨pages.map render, by simp [libraries, read]⟩
  openDocument := by
    intro bytes pages read
    rw [readPages_eq] at read
    exact ⟨pages, read⟩
  documentPages document start bound := ⟨document.zipIdx.drop start, by simp [libraries, bound]⟩
  getTextWords _ := ⟨_, rfl⟩
  getText _ _ := ⟨_, rfl⟩
  applyRedaction _ _ := ⟨_, rfl⟩
  documentToBytes _ := ⟨_, rfl⟩
  registerFont _ := rfl
  postalAddressesDiffer _ _ := ⟨_, rfl⟩

/-! ## The laws of text -/

theorem splitText_intercalate {separator : Char} {pieces : List String} (nonempty : pieces ≠ [])
    (plain : ∀ piece ∈ pieces, separator ∉ piece.toList) :
    splitText separator ((String.singleton separator).intercalate pieces) = pieces := by
  simp only [splitText, String.toList_intercalate, String.toList_singleton]
  rw [List.splitOn_intercalate _ (by simpa using plain) (by simpa using nonempty)]
  simp

private theorem space_notMem_word {word : String} (plain : ∀ character ∈ word.toList, ¬ character.isWhitespace) :
    ' ' ∉ word.toList := fun member => plain _ member (by decide)

/-- A single-spaced text is read as the lines it was put together from. -/
theorem linesOf_textOf {lines : List (List String)} (spaced : SingleSpaced lines) :
    linesOf (textOf lines) = lines := by
  rcases eq_or_ne lines [] with rfl | nonempty
  · rfl
  have pieces : splitText '\n' (textOf lines) = lines.map fun words => " ".intercalate words := by
    apply splitText_intercalate (by simpa using nonempty)
    intro piece member
    obtain ⟨words, inLines, rfl⟩ := List.mem_map.mp member
    exact newline_notMem_line fun word inLine => (spaced.words words inLines word inLine).2
  have words : ∀ line ∈ lines, (splitText ' ' (" ".intercalate line)).filter (· ≠ "") = line := by
    intro line member
    rw [show " " = String.singleton ' ' from rfl, splitText_intercalate]
    · exact List.filter_eq_self.mpr fun word inLine => by simpa using (spaced.words line member word inLine).1
    · rintro rfl
      exact spaced.filled member
    · exact fun word inLine => space_notMem_word (spaced.words line member word inLine).2
  have reads : (lines.map fun words => " ".intercalate words).map
      (fun line => (splitText ' ' line).filter (· ≠ "")) = lines := by
    rw [List.map_map]
    exact (List.map_congr_left words).trans (List.map_id lines)
  rw [linesOf, pieces, reads]
  exact List.filter_eq_self.mpr fun line member => by
    simpa using fun empty : line = [] => spaced.filled (empty ▸ member)

/-! Words of a placed line. -/

section Placed
variable {size left top : ℚ} {block line : Nat}

theorem placeLine_texts (texts : List String) (left : ℚ) (number : Nat) :
    (placeLine size left top block line number texts).map Word.text = texts := by
  induction texts generalizing left number with
  | nil => rfl
  | cons text rest ih => simp [placeLine, ih]

private theorem length_intercalate_cons {text : String} {rest : List String} (nonempty : rest ≠ []) :
    (" ".intercalate (text :: rest)).length = text.length + 1 + (" ".intercalate rest).length := by
  cases rest with
  | nil => exact absurd rfl nonempty
  | cons next others =>
    rw [String.intercalate_cons_cons, String.length_append, String.length_append]
    rfl

private theorem length_le_intercalate {text : String} {rest : List String} :
    text.length ≤ (" ".intercalate (text :: rest)).length := by
  rcases eq_or_ne rest [] with rfl | nonempty
  · simp
  · rw [length_intercalate_cons nonempty]
    omega

private theorem number_le_of_mem {texts : List String} {left : ℚ} {number : Nat} {word : Word ℚ}
    (member : word ∈ placeLine size left top block line number texts) : number ≤ word.word := by
  induction texts generalizing left number with
  | nil => cases member
  | cons text rest ih =>
    rcases List.mem_cons.mp member with rfl | later
    · exact le_refl _
    · exact (Nat.le_succ _).trans (ih later)

/-- Where the words of a line stand: in its line, from `left` on, as high as the
font and within the width of the text. -/
theorem placeLine_bounds (font : String) (positive : 0 < size)
    {texts : List String} (filled : ∀ text ∈ texts, text ≠ "")
    {number : Nat} {word : Word ℚ} (member : word ∈ placeLine size left top block line number texts) :
    Word.blockLine word = (block, line) ∧ word.box.Proper ∧ left ≤ word.box.x0 ∧
      word.box.x1 ≤ left + textWidth font size (" ".intercalate texts) ∧
      word.box.y0 = top ∧ word.box.y1 = top + size := by
  induction texts generalizing left number with
  | nil => cases member
  | cons text rest ih =>
    have long : (1 : ℚ) ≤ text.length := by
      have nonempty : text.length ≠ 0 := by simpa using filled text (by simp)
      exact_mod_cast Nat.one_le_iff_ne_zero.mpr nonempty
    have wide : 0 < size * text.length := mul_pos positive (zero_lt_one.trans_le long)
    rcases List.mem_cons.mp member with rfl | later
    · refine ⟨rfl, ⟨?_, ?_⟩, le_refl _, ?_, rfl, rfl⟩
      · simpa using wide
      · simpa using positive
      · exact add_le_add_right (mul_le_mul_of_nonneg_left (by exact_mod_cast length_le_intercalate) positive.le) _
    · obtain ⟨lineOf, proper, start, stop, high, low⟩ :=
        ih (fun other inside => filled other (List.mem_cons_of_mem _ inside)) later
      have further : left + size * (text.length + 1) + textWidth font size (" ".intercalate rest) =
          left + textWidth font size (" ".intercalate (text :: rest)) := by
        rw [textWidth, textWidth, length_intercalate_cons (fun empty => by simp [empty, placeLine] at later)]
        push_cast
        ring
      refine ⟨lineOf, proper, ?_, further ▸ stop, high, low⟩
      exact le_trans (by nlinarith) start

theorem placeLine_numbered (texts : List String) (left : ℚ) (number : Nat) :
    (placeLine size left top block line number texts).Pairwise fun one other => one.word < other.word := by
  induction texts generalizing left number with
  | nil => exact .nil
  | cons text rest ih =>
    refine List.pairwise_cons.mpr ⟨fun other member => ?_, ih _ _⟩
    exact Nat.lt_of_succ_le (number_le_of_mem member)

end Placed

/-- A text with non-empty words is drawn where it should be. -/
theorem placeText_drawn {page : TextPage} {font : String} {size leading rise x y : ℚ} (positive : 0 < size)
    (block : Nat)
    {lines : List (List String)} (filled : ∀ line ∈ lines, ∀ text ∈ line, text ≠ "") :
    Drawn page textWidth font size leading rise x y lines
      (placeText page.mediabox size leading rise x y block lines) := by
  have placed {line : List (Word ℚ)} (member : line ∈ placeText page.mediabox size leading rise x y block lines) :
      ∃ (texts : List String) (index : ℕ), texts ∈ lines ∧ line = placeLine size (x - page.mediabox.x0)
        (page.mediabox.y1 - (y - index * leading + rise) - size) block index 0 texts := by
    obtain ⟨⟨texts, index⟩, inLines, rfl⟩ := List.mem_map.mp member
    exact ⟨texts, index, List.fst_mem_of_mem_zipIdx inLines, rfl⟩
  constructor
  case texts =>
    simp only [placeText, List.map_map, Function.comp_def, placeLine_texts]
    exact List.zipIdx_map_fst 0 lines
  case alike =>
    intro line member one oneIn other otherIn
    obtain ⟨texts, index, inLines, rfl⟩ := placed member
    rw [(placeLine_bounds font positive (filled texts inLines) oneIn).1,
      (placeLine_bounds font positive (filled texts inLines) otherIn).1]
  case numbered =>
    intro line member
    obtain ⟨texts, index, _, rfl⟩ := placed member
    exact placeLine_numbered _ _ _
  case ordered =>
    rw [placeText, List.pairwise_map, List.pairwise_iff_getElem]
    intro i j iBound jBound less one oneIn other otherIn
    simp only [List.getElem_zipIdx, zero_add] at oneIn otherIn
    have first := (placeLine_bounds font positive (filled _ (List.getElem_mem _)) oneIn).1
    have second := (placeLine_bounds font positive (filled _ (List.getElem_mem _)) otherIn).1
    simp only [Word.blockLine, Prod.mk.injEq] at first second
    exact .inr ⟨first.1.trans second.1.symm, by omega⟩
  case proper =>
    intro line member word inLine
    obtain ⟨texts, index, inLines, rfl⟩ := placed member
    exact (placeLine_bounds font positive (filled texts inLines) inLine).2.1
  case horizontally =>
    intro line member word inLine
    obtain ⟨texts, index, inLines, rfl⟩ := placed member
    obtain ⟨_, _, start, stop, _⟩ := placeLine_bounds font positive (filled texts inLines) inLine
    exact ⟨start, by rwa [placeLine_texts]⟩
  case vertically =>
    intro index line found word inLine
    simp only [placeText, List.getElem?_map, List.getElem?_zipIdx, Option.map_map, Option.map_eq_some_iff,
      Function.comp_apply, zero_add] at found
    obtain ⟨texts, inLines, rfl⟩ := found
    obtain ⟨_, _, _, _, high, low⟩ :=
      placeLine_bounds font positive (filled texts (List.mem_of_getElem? inLines)) inLine
    rw [high, low]
    exact ⟨le_refl _, by linarith⟩

/-- What redaction leaves of the operations adds no word. -/
theorem foldl_redacted {draw : List (Word ℚ) → Operation ℚ → List (Word ℚ)} (page : TextPage) (rect : Box ℚ)
    (still : ∀ words fill x y width height, draw words (.rect fill x y width height) = words)
    (words : List (Word ℚ)) : (redact page rect).merged.foldl draw words = words := by
  unfold redact
  dsimp only
  induction page.merged generalizing words with
  | nil => rfl
  | cons operation rest ih =>
    cases operation with
    | rect => rw [List.filter_cons_of_pos rfl, List.foldl_cons, still, ih]
    | text => rw [List.filter_cons_of_neg (by simp), ih]

theorem textLaws : TextLaws libraries textWidth where
  redacted := by
    rintro page after rect words ⟨⟩ ⟨⟩
    exact ⟨rfl, rfl, congrArg Except.ok (foldl_redacted page rect (fun _ _ _ _ _ _ => rfl) _)⟩
  drawn := by
    rintro page can words fill background left bottom width height font size leading rise x y lines _ positive
      operations spaced ⟨⟩
    refine ⟨_, placeText_drawn positive (nextBlock (wordsOn page)) fun line member text inLine =>
      (spaced.words line member text inLine).1, congrArg Except.ok ?_⟩
    simp only [wordsOn, Page.merge, operations, List.foldl_append, List.foldl_cons, List.foldl_nil, drawOn,
      linesOf_textOf spaced]

end TemplatePreview.InMemoryLibraries
