import TemplatePreview.Pdf
import TemplatePreview.Grouping

/-! How text is read from a rectangle of a page: the words that intersect it, put
back in reading order and joined into lines. -/
namespace TemplatePreview.TextExtraction
open Region PageLayout Pdf Outcomes Grouping

variable {K σ : Type} [Field K] [LinearOrder K]

/-- `itemgetter(-3, -2, -1)`: tuples are compared component by component. -/
def Word.position (word : Word K) : ℕ ×ₗ ℕ ×ₗ ℕ := toLex (word.block, toLex (word.line, word.word))

/-- `itemgetter(5, 6)`. -/
def Word.blockLine (word : Word K) : ℕ × ℕ := (word.block, word.line)

/-- The lines of a page in a rectangle: the intersecting words in order of their
positions, grouped by line. -/
def linesIn (rect : Box K) (words : List (Word K)) : List (List (Word K)) :=
  groupRuns Word.blockLine (sortBy Word.position (words.filter fun word => word.box.Intersects rect))

/-- The words of a line separated by spaces, the lines by newlines. -/
def joinLines (lines : List (List (Word K))) : String :=
  "\n".intercalate (lines.map fun words => " ".intercalate (words.map Word.text))

/-- `_extract_text_from_page`. Outside the tag box two other ways of finding the
lines are tried, for the log only. -/
def extractTextFromPage (lib : Libraries K σ) (page : Page K σ) (rect : Box K) : Py String := do
  let words ← call (lib.getTextWords page)
  let mywords := sortBy Word.position (words.filter fun word => word.box.Intersects rect)
  let extractedText := joinLines (groupRuns Word.blockLine mywords)
  if rect ≠ notifyTagBoundingBox then
    let clipped ← call (lib.getText page rect)
    let _ ← call (lib.postalAddressesDiffer clipped extractedText)
    let groupedByY2 := joinLines (groupRuns (fun word => word.box.y1) mywords)
    let _ ← call (lib.postalAddressesDiffer groupedByY2 extractedText)
  return UnicodeForms.nfkd lib.unicode extractedText

/-- `_extract_text_from_first_page_of_pdf`. -/
def extractTextFromFirstPageOfPdf (lib : Libraries K σ) (pdf : MemoryFile) (rect : Box K) :
    Py (String × MemoryFile) := do
  let pdf := pdf.seek 0
  let doc ← call (lib.openDocument pdf.bytes)
  let pdf := lib.leave .pymupdf pdf
  match doc with
  | [] => throw .indexError
  | page :: _ => do
    let ret ← extractTextFromPage lib page rect
    return (ret, pdf.seek 0)

/-- `is_notify_tag_present`. -/
def isNotifyTagPresent (lib : Libraries K σ) (pdf : MemoryFile) : Py (Bool × MemoryFile) := do
  let (text, pdf) ← extractTextFromFirstPageOfPdf lib pdf notifyTagBoundingBox
  return (text == notifyTagText, pdf)

/-! ## What the libraries do with text -/

/-- Words put together as they are drawn: spaces within a line, newlines between
lines. -/
def textOf (lines : List (List String)) : String := "\n".intercalate (lines.map fun words => " ".intercalate words)

/-- A text of non-empty single-spaced lines. -/
structure SingleSpaced (lines : List (List String)) : Prop where
  filled : [] ∉ lines
  words : ∀ line ∈ lines, ∀ word ∈ line, word ≠ "" ∧ ∀ character ∈ word.toList, ¬ character.isWhitespace

/-- The words of a line hold no newline. -/
theorem newline_notMem_line {words : List String}
    (plain : ∀ word ∈ words, ∀ character ∈ word.toList, ¬ character.isWhitespace) :
    '\n' ∉ (" ".intercalate words).toList := by
  induction words with
  | nil => simp
  | cons word rest ih =>
    have head : '\n' ∉ word.toList := fun member => plain word (by simp) _ member (by decide)
    have tail := ih fun other member => plain other (List.mem_cons_of_mem _ member)
    cases rest with
    | nil => simpa using head
    | cons next rest =>
      rw [String.intercalate_cons_cons]
      simp only [String.toList_append, List.mem_append, not_or]
      exact ⟨⟨head, by decide⟩, tail⟩

/-- Where the words of a text drawn at `x` and `y` end up on an upright page.
Every line is a line of its own, in drawing order, its words numbered from left
to right. A word reaches at most one em above and 0.3 em below its baseline. -/
structure Drawn (page : Page K σ) (textWidth : String → K → String → K) (font : String)
    (size leading rise x y : K) (lines : List (List String)) (drawn : List (List (Word K))) : Prop where
  texts : drawn.map (List.map Word.text) = lines
  alike : ∀ line ∈ drawn, ∀ one ∈ line, ∀ other ∈ line, Word.blockLine one = Word.blockLine other
  numbered : ∀ line ∈ drawn, line.Pairwise fun one other => one.word < other.word
  ordered : drawn.Pairwise fun before after => ∀ one ∈ before, ∀ other ∈ after,
    one.block < other.block ∨ (one.block = other.block ∧ one.line < other.line)
  proper : ∀ line ∈ drawn, ∀ word ∈ line, word.box.Proper
  horizontally : ∀ line ∈ drawn, ∀ word ∈ line, x - page.mediabox.x0 ≤ word.box.x0 ∧
    word.box.x1 ≤ x - page.mediabox.x0 + textWidth font size (" ".intercalate (line.map Word.text))
  vertically : ∀ (index : ℕ) line, drawn[index]? = some line → ∀ word ∈ line,
    page.mediabox.y1 - (y - (index : K) * leading + rise) - size ≤ word.box.y0 ∧
      word.box.y1 ≤ page.mediabox.y1 - (y - (index : K) * leading + rise) + 0.3 * size

/-- Redaction removes exactly the words that intersect the rectangle, and text
that is drawn on an upright page is found there next to the words it had. -/
structure TextLaws (lib : Libraries K σ) (textWidth : String → K → String → K) : Prop where
  redacted : ∀ {page after rect words}, lib.getTextWords page = .ok words →
    lib.applyRedaction page rect = .ok after → after.mediabox = page.mediabox ∧
      after.rotate = page.rotate ∧
      lib.getTextWords after = .ok (words.filter fun word => ¬ word.box.Intersects rect)
  drawn : ∀ {page can words fill background left bottom width height font size leading rise x y lines},
    page.rotate = none ∨ page.rotate = some 0 → 0 < size →
    can.operations = [.rect background left bottom width height,
      .text fill font size leading rise x y (textOf lines)] →
    SingleSpaced lines → lib.getTextWords page = .ok words →
    ∃ drawn, Drawn page textWidth font size leading rise x y lines drawn ∧
      lib.getTextWords (page.merge can) = .ok (words ++ drawn.flatten)

variable {lib : Libraries K σ} {page : Page K σ} {rect : Box K}

/-- The text that is returned, when no library raises: the logging changes
nothing. -/
theorem extractTextFromPage_eq_ok {text : String} (extracted : extractTextFromPage lib page rect = .ok text) :
    ∃ words, lib.getTextWords page = .ok words ∧
      text = UnicodeForms.nfkd lib.unicode (joinLines (linesIn rect words)) := by
  obtain ⟨words, read, rest⟩ := bind_eq_ok.mp extracted
  refine ⟨words, call_eq_ok.mp read, ?_⟩
  split at rest
  · obtain ⟨clipped, _, rest⟩ := bind_eq_ok.mp rest
    obtain ⟨_, _, rest⟩ := bind_eq_ok.mp rest
    obtain ⟨_, _, rest⟩ := bind_eq_ok.mp rest
    cases rest
    rfl
  · cases rest
    rfl

/-- Extraction returns on every page when the libraries do not raise. -/
theorem extractTextFromPage_ok (reliable : lib.Reliable) {words : List (Word K)}
    (read : lib.getTextWords page = .ok words) :
    extractTextFromPage lib page rect =
      .ok (UnicodeForms.nfkd lib.unicode (joinLines (linesIn rect words))) := by
  have returns : ∃ text, extractTextFromPage lib page rect = .ok text := by
    unfold extractTextFromPage
    rw [read]
    obtain ⟨clipped, clip⟩ := reliable.getText page rect
    obtain ⟨one, first⟩ := reliable.postalAddressesDiffer clipped (joinLines (linesIn rect words))
    obtain ⟨two, second⟩ := reliable.postalAddressesDiffer
      (joinLines (groupRuns (fun word => word.box.y1)
        (sortBy Word.position (words.filter fun word => word.box.Intersects rect))))
      (joinLines (linesIn rect words))
    simp only [linesIn] at first second
    simp only [call_ok, ok_bind, clip, first, second]
    split <;> exact ⟨_, rfl⟩
  obtain ⟨text, extracted⟩ := returns
  obtain ⟨other, found, same⟩ := extractTextFromPage_eq_ok extracted
  rw [read] at found
  cases found
  rw [extracted, same]

end TemplatePreview.TextExtraction
