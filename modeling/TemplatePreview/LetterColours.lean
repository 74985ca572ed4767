import TemplatePreview.TagDetection
import TemplatePreview.RewriteStages

/-! Which colours a rewritten letter holds. Whether it is converted to CMYK is decided
by its images alone, after the address has been drawn in RGB: a letter with CMYK images
and no RGB image keeps that address. -/
namespace TemplatePreview.LetterColours
open Region PageLayout Pdf Outcomes TextExtraction PageValidation AddressWindow AddressRewrite EmbeddedFonts
open Sanitisation TagDetection RewriteStages

inductive ColourSpace where
  | cmyk
  | rgb
  | grey
  deriving DecidableEq, Repr

/-- What the description of the colour space of a pixmap is searched for. -/
def ColourSpace.Named : ColourSpace → String → Prop
  | .cmyk, text => text = "CMYK"
  | .rgb, text => text = "RGB"
  | .grey, _ => False

/-- An image of a page. Where it is on the page is only known as far as this: whether
it is gone once the address has been redacted. -/
structure Picture where
  space : ColourSpace
  redacted : Bool
  deriving DecidableEq, Repr

/-- Drawn text or vector content. -/
structure Drawn where
  space : ColourSpace
  isTag : Bool
  deriving DecidableEq, Repr

structure Content where
  pictures : List Picture
  drawn : List Drawn
  deriving DecidableEq, Repr

namespace Content

def HasPicture (space : ColourSpace) (content : Content) : Prop :=
  ∃ picture ∈ content.pictures, picture.space = space

/-- No RGB content apart from the tag. -/
def WithoutRgb (content : Content) : Prop :=
  (∀ picture ∈ content.pictures, picture.space ≠ .rgb) ∧
    ∀ item ∈ content.drawn, item.space = .rgb → item.isTag

def InCmyk (content : Content) : Prop :=
  (∀ picture ∈ content.pictures, picture.space = .cmyk) ∧ ∀ item ∈ content.drawn, item.space = .cmyk

theorem InCmyk.withoutRgb {content : Content} (converted : content.InCmyk) : content.WithoutRgb := by
  constructor
  · intro picture member
    rw [converted.1 picture member]
    decide
  · intro item member rgb
    rw [converted.2 item member] at rgb
    cases rgb

end Content

variable {K σ : Type} [Field K] [LinearOrder K]

/-- Named colours are RGB, white and black among them. -/
def drawnBy : Operation K → Drawn
  | .rect .. => ⟨.rgb, false⟩
  | .text fill _ _ _ _ _ _ text => ⟨.rgb, fill = white ∧ text = notifyTagText⟩

/-- What is assumed of the colours of pages. The images of a page are listed and their
colour spaces are described by name, merging a canvas adds what it draws, redaction
takes the images away that it covers, conversion turns everything into CMYK and
embedding fonts keeps all colours. -/
structure ColourLaws (lib : Libraries K σ) (content : Page K σ → Content) : Prop where
  listed : ∀ {doc page xrefs}, page ∈ doc → lib.getPageImages page = .ok xrefs →
    List.Forall₂ (fun xref picture => ∀ description, lib.pixmapColorspace doc xref = .ok description →
      ∀ space text, ColourSpace.Named space text →
        (text.toList <:+: description.toList ↔ picture.space = space)) xrefs (content page).pictures
  merged : ∀ page can, content (page.merge can) =
    { content page with drawn := (content page).drawn ++ can.operations.map drawnBy }
  redacted : ∀ {page after}, lib.applyRedaction page addressBoundingBox = .ok after →
    (content after).pictures = (content page).pictures.filter fun picture => !picture.redacted
  converted : ∀ {file out pages}, lib.readPages file.bytes = .ok pages → Rewritten lib .convertToCmyk file out →
    ∃ after, lib.readPages out.bytes = .ok after ∧ ∀ page ∈ after, (content page).InCmyk
  embedded : ∀ {file out pages}, lib.readPages file.bytes = .ok pages → Rewritten lib .embedFonts file out →
    ∃ after, lib.readPages out.bytes = .ok after ∧ after.map content = pages.map content

/-! ## The decision to convert -/

section Decision
variable {lib : Libraries K σ} {content : Page K σ → Content} {file out : MemoryFile} {pages doc : List (Page K σ)}
  {space : ColourSpace} {text : String} {found : Bool}

/-- An image with the colour space is on one of the pages. -/
def SomePicture (content : Page K σ → Content) (space : ColourSpace) (pages : List (Page K σ)) : Prop :=
  ∃ page ∈ pages, (content page).HasPicture space

/-- The images of a letter call for its conversion. -/
def CallsForCmyk (content : Page K σ → Content) (pages : List (Page K σ)) : Prop :=
  ¬ SomePicture content .cmyk pages ∨ SomePicture content .rgb pages

omit [Field K] [LinearOrder K] in
/-- The loop over the images of a page finds a colour space exactly when an image has
it. -/
private theorem anyImageHasColorspace_iff {xrefs : List Nat} {pictures : List Picture}
    (described : List.Forall₂ (fun xref picture => ∀ description, lib.pixmapColorspace doc xref = .ok description →
      (text.toList <:+: description.toList ↔ picture.space = space)) xrefs pictures)
    (searched : anyImageHasColorspace lib doc text xrefs = .ok found) :
    found = true ↔ ∃ picture ∈ pictures, picture.space = space := by
  induction described with
  | nil =>
    cases searched
    simp
  | @cons xref picture xrefs pictures first _ ih =>
    obtain ⟨description, name, searched⟩ := bind_eq_ok.mp searched
    have same := first description (call_eq_ok.mp name)
    split at searched
    · rename_i named
      cases searched
      exact iff_of_true rfl ⟨picture, by simp, same.mp named⟩
    · rename_i other
      rw [ih searched, List.exists_mem_cons_iff, or_iff_right (mt same.mpr other)]

/-- The loop over the pages, likewise. -/
private theorem anyPageHasColorspace_iff (laws : ColourLaws lib content) (named : space.Named text)
    {rest : List (Page K σ)} (part : ∀ page ∈ rest, page ∈ doc) {i : Nat}
    (searched : anyPageHasColorspace lib doc text rest i = .ok found) :
    found = true ↔ SomePicture content space rest := by
  induction rest generalizing i with
  | nil =>
    cases searched
    simp [SomePicture]
  | cons page rest ih =>
    rw [SomePicture, List.exists_mem_cons_iff]
    rw [anyPageHasColorspace] at searched
    split at searched
    · cases searched
    · cases searched
    rename_i xrefs listed
    obtain ⟨here, looked, searched⟩ := bind_eq_ok.mp searched
    have onPage := anyImageHasColorspace_iff ((laws.listed (part page (by simp)) listed).imp
      fun _ _ described description name => described description name space text named) looked
    split at searched
    · rename_i present
      cases searched
      exact iff_of_true rfl (.inl (onPage.mp present))
    · rename_i absent
      rw [ih (fun other member => part other (List.mem_cons_of_mem _ member)) searched]
      exact (or_iff_right fun present => absent (onPage.mpr present)).symm

variable {render : Page K σ → Image}

/-- What the search for a colour space found in a document. -/
theorem doesPdfContainColorspace_iff (lawful : lib.Lawful render) (laws : ColourLaws lib content)
    (named : space.Named text) (read : lib.readPages file.bytes = .ok pages)
    (searched : doesPdfContainColorspace lib text file = .ok (found, out)) :
    found = true ↔ SomePicture content space pages := by
  obtain ⟨_, doc, opened, searched⟩ := doesPdfContainColorspace_eq_ok searched
  obtain rfl := lawful.opened read opened
  exact anyPageHasColorspace_iff laws named (fun _ member => member) searched

theorem doesPdfContainCmyk_iff (lawful : lib.Lawful render) (laws : ColourLaws lib content)
    (read : lib.readPages file.bytes = .ok pages) (searched : doesPdfContainCmyk lib file = .ok (found, out)) :
    found = true ↔ SomePicture content .cmyk pages :=
  doesPdfContainColorspace_iff lawful laws (show ColourSpace.Named .cmyk "CMYK" from rfl) read searched

theorem doesPdfContainRgb_iff (lawful : lib.Lawful render) (laws : ColourLaws lib content)
    (read : lib.readPages file.bytes = .ok pages) (searched : doesPdfContainRgb lib file = .ok (found, out)) :
    found = true ↔ SomePicture content .rgb pages :=
  doesPdfContainColorspace_iff lawful laws (show ColourSpace.Named .rgb "RGB" from rfl) read searched

/-- Normalisation turns all content into CMYK or keeps all colours, as the images
say. -/
theorem normaliseFontsAndColours_content (lawful : lib.Lawful render) (laws : ColourLaws lib content)
    (read : lib.readPages file.bytes = .ok pages) (returned : normaliseFontsAndColours lib file = .ok out) :
    ∃ after, lib.readPages out.bytes = .ok after ∧
      (CallsForCmyk content pages ∧ (∀ page ∈ after, (content page).InCmyk) ∨
        ¬ CallsForCmyk content pages ∧ after.map content = pages.map content) := by
  obtain ⟨containsCmyk, converted, searched, conversion, embedding⟩ := normaliseFontsAndColours_eq_ok returned
  have cmyk := doesPdfContainCmyk_iff lawful laws read searched
  have readAgain : lib.readPages (file.seek 0).bytes = .ok pages := read
  obtain ⟨middle, readMiddle, colours⟩ : ∃ middle, lib.readPages converted.bytes = .ok middle ∧
      (CallsForCmyk content pages ∧ (∀ page ∈ middle, (content page).InCmyk) ∨
        ¬ CallsForCmyk content pages ∧ middle.map content = pages.map content) := by
    rcases conversion with ⟨rewritten, because⟩ | ⟨rfl, seen, searchedRgb⟩
    · obtain ⟨middle, readMiddle, inCmyk⟩ := laws.converted readAgain rewritten
      refine ⟨middle, readMiddle, .inl ⟨?_, inCmyk⟩⟩
      by_cases present : containsCmyk = true
      · exact .inr ((doesPdfContainRgb_iff lawful laws readAgain (because present)).mp rfl)
      · exact .inl (mt cmyk.mpr present)
    · have rgb := doesPdfContainRgb_iff lawful laws readAgain searchedRgb
      refine ⟨pages, readAgain, .inr ⟨?_, rfl⟩⟩
      rintro (absent | present)
      · exact absent (cmyk.mp seen)
      · exact absurd (rgb.mpr present) (by decide)
  rcases embedding with rfl | rewritten
  · exact ⟨middle, readMiddle, colours⟩
  · obtain ⟨after, readAfter, same⟩ := laws.embedded readMiddle rewritten
    refine ⟨after, readAfter, colours.imp ?_ ?_⟩
    · apply And.imp_right
      intro inCmyk page member
      have kept : content page ∈ middle.map content := same ▸ List.mem_map_of_mem member
      obtain ⟨other, inMiddle, equal⟩ := List.mem_map.mp kept
      exact equal ▸ inCmyk other inMiddle
    · exact And.imp_right same.trans

end Decision

/-! ## Full letters -/

section Letter
variable {lib : Libraries K σ} {content : Page K σ → Content} {render : Page K σ → Image} {file out : MemoryFile}
  {page : Page K σ} {pages rest : List (Page K σ)} {pageCount : Nat} {allow : Bool} {address : String}
  {space : ColourSpace}

/-- The images that are left of a letter once its address has been redacted. -/
def picturesKept (content : Page K σ → Content) : List (Page K σ) → List Picture
  | [] => []
  | page :: rest => ((content page).pictures.filter fun picture => !picture.redacted) ++
      rest.flatMap fun page => (content page).pictures

/-- None of these images is CMYK, or some image is RGB. -/
def Convertible (pictures : List Picture) : Prop :=
  (∀ picture ∈ pictures, picture.space ≠ .cmyk) ∨ ∃ picture ∈ pictures, picture.space = .rgb

instance decidableConvertible (pictures : List Picture) : Decidable (Convertible pictures) :=
  inferInstanceAs (Decidable (_ ∨ _))

/-- No RGB content is in a file apart from the tag. -/
def FileWithoutRgb (lib : Libraries K σ) (content : Page K σ → Content) (file : MemoryFile) : Prop :=
  ∃ pages, lib.readPages file.bytes = .ok pages ∧ ∀ page ∈ pages, (content page).WithoutRgb

omit [Field K] [LinearOrder K] in
theorem fileWithoutRgb_iff (read : lib.readPages file.bytes = .ok pages) :
    FileWithoutRgb lib content file ↔ ∀ page ∈ pages, (content page).WithoutRgb := by
  constructor
  · rintro ⟨others, again, clean⟩
    cases read.symm.trans again
    exact clean
  · exact fun clean => ⟨pages, read, clean⟩

/-- The address is RGB. -/
theorem address_is_rgb (laws : ColourLaws lib content) :
    ¬ (content (page.merge (addressCanvas address))).WithoutRgb := by
  rintro ⟨_, onlyTag⟩
  rw [laws.merged] at onlyTag
  have covered := onlyTag ⟨.rgb, false⟩ (List.mem_append_right _ (List.mem_cons_self ..)) rfl
  cases covered

/-- The tag is RGB, and nothing else is drawn with it. -/
theorem tag_withoutRgb_iff (laws : ColourLaws lib content) :
    (content (page.merge (tagCanvas page))).WithoutRgb ↔ (content page).WithoutRgb := by
  have tag : (tagCanvas page).operations.map drawnBy = [⟨.rgb, true⟩] := by
    simp [tagCanvas, NotifyCanvas.drawString, NotifyCanvas.new, drawnBy]
  simp [laws.merged, tag, Content.WithoutRgb, or_imp, forall_and]

/-- Redaction and the address leave these images. -/
theorem somePicture_addressed (laws : ColourLaws lib content) {redacted : Page K σ}
    (redaction : lib.applyRedaction page addressBoundingBox = .ok redacted) :
    SomePicture content space (redacted.merge (addressCanvas address) :: rest) ↔
      ∃ picture ∈ picturesKept content (page :: rest), picture.space = space := by
  have kept : (content (redacted.merge (addressCanvas address))).pictures =
      (content page).pictures.filter fun picture => !picture.redacted := by
    rw [laws.merged]
    exact laws.redacted redaction
  rw [SomePicture, List.exists_mem_cons_iff, Content.HasPicture, kept, picturesKept]
  simp only [List.mem_append, List.mem_flatMap, or_and_right, exists_or, Content.HasPicture]
  refine or_congr_right ⟨?_, ?_⟩
  · rintro ⟨other, member, picture, onPage, same⟩
    exact ⟨picture, ⟨other, member, onPage⟩, same⟩
  · rintro ⟨picture, ⟨other, member, onPage⟩, same⟩
    exact ⟨other, member, picture, onPage, same⟩

/-- What becomes of a letter before the tag is added. -/
private theorem letter_before_tag (lawful : lib.Lawful render) (laws : ColourLaws lib content)
    (read : lib.readPages file.bytes = .ok (page :: rest))
    (returned : rewritePdf lib file pageCount allow = .ok (out, address)) :
    ∃ first others, (lib.readPages out.bytes = .ok (first :: others) ∨
        lib.readPages out.bytes = .ok (first.merge (tagCanvas first) :: others)) ∧
      (Convertible (picturesKept content (page :: rest)) ∧ (∀ page ∈ first :: others, (content page).InCmyk) ∨
        ¬ Convertible (picturesKept content (page :: rest)) ∧ ¬ (content first).WithoutRgb) := by
  obtain ⟨logged, rewritten, normalised, tested, present, logging, rewriting, normalising, testing, last⟩ :=
    rewritePdf_eq_ok returned
  rw [← logMetadataForLetter_bytes logging] at read
  obtain ⟨redacted, redaction, readRewritten⟩ := rewriteAddressBlock_eq_ok lawful read rewriting
  obtain ⟨after, readAfter, colours⟩ := normaliseFontsAndColours_content lawful laws readRewritten normalising
  have decision : CallsForCmyk content (redacted.merge (addressCanvas address) :: rest) ↔
      Convertible (picturesKept content (page :: rest)) := by
    rw [CallsForCmyk, somePicture_addressed laws redaction, somePicture_addressed laws redaction, Convertible]
    push Not
    rfl
  rw [decision] at colours
  obtain ⟨rfl, first, others, _, opened, _⟩ := isNotifyTagPresent_eq_ok testing
  obtain rfl := lawful.opened readAfter opened
  refine ⟨first, others, ?_, colours.imp_right (And.imp_right fun same => ?_)⟩
  · cases present with
    | true =>
      obtain rfl : out = normalised.seek 0 := last
      exact .inl readAfter
    | false =>
      obtain ⟨again, later, readTested, _, readOut⟩ := addNotifyTagToLetter_eq_ok lawful last
      cases readAfter.symm.trans readTested
      exact .inr readOut
  · rw [(List.cons.inj same).1]
    exact address_is_rgb laws

/-- The tag changes nothing in whether the letter is without RGB. -/
private theorem fileWithoutRgb_tagged (laws : ColourLaws lib content)
    (read : lib.readPages out.bytes = .ok (page :: rest) ∨
      lib.readPages out.bytes = .ok (page.merge (tagCanvas page) :: rest)) :
    FileWithoutRgb lib content out ↔ ∀ other ∈ page :: rest, (content other).WithoutRgb := by
  rcases read with plain | tagged
  · exact fileWithoutRgb_iff plain
  · rw [fileWithoutRgb_iff tagged, List.forall_mem_cons, List.forall_mem_cons, tag_withoutRgb_iff laws]

/-- A letter that is not converted keeps its address in RGB. -/
theorem unconverted_keeps_rgb (lawful : lib.Lawful render) (laws : ColourLaws lib content)
    (read : lib.readPages file.bytes = .ok (page :: rest))
    (returned : rewritePdf lib file pageCount allow = .ok (out, address))
    (unconverted : ¬ Convertible (picturesKept content (page :: rest))) : ¬ FileWithoutRgb lib content out := by
  obtain ⟨first, others, readOut, colours⟩ := letter_before_tag lawful laws read returned
  obtain ⟨convertible, _⟩ | ⟨_, rgb⟩ := colours
  · exact absurd convertible unconverted
  · rw [fileWithoutRgb_tagged laws readOut]
    exact fun clean => rgb (clean first (List.mem_cons_self ..))

theorem converted_has_no_rgb (lawful : lib.Lawful render) (laws : ColourLaws lib content)
    (read : lib.readPages file.bytes = .ok (page :: rest))
    (returned : rewritePdf lib file pageCount allow = .ok (out, address))
    (convertible : Convertible (picturesKept content (page :: rest))) : FileWithoutRgb lib content out := by
  obtain ⟨first, others, readOut, colours⟩ := letter_before_tag lawful laws read returned
  obtain ⟨_, inCmyk⟩ | ⟨unconverted, _⟩ := colours
  · rw [fileWithoutRgb_tagged laws readOut]
    exact fun other member => (inCmyk other member).withoutRgb
  · exact absurd convertible unconverted

/-- A letter is returned without RGB content exactly when none of the images that
redaction leaves is CMYK, or some image is RGB. -/
theorem letter_without_rgb_iff (lawful : lib.Lawful render) (laws : ColourLaws lib content)
    (read : lib.readPages file.bytes = .ok (page :: rest))
    (returned : rewritePdf lib file pageCount allow = .ok (out, address)) :
    FileWithoutRgb lib content out ↔ Convertible (picturesKept content (page :: rest)) := by
  constructor
  · intro clean
    by_contra unconverted
    exact unconverted_keeps_rgb lawful laws read returned unconverted clean
  · exact converted_has_no_rgb lawful laws read returned

end Letter

/-! ## Letters with images -/

section Coloured
open InMemoryLibraries

/-- Block 0 of a page is taken for its images, each the name of its colour space. -/
def isPicture (word : Word ℚ) : Bool := word.block = 0

def pictureOf (word : Word ℚ) : Picture where
  space := match word.text with
    | "DeviceCMYK" => .cmyk
    | "DeviceRGB" => .rgb
    | _ => .grey
  redacted := word.box.Intersects addressBoundingBox

def picturesOn (page : TextPage) : List (Word ℚ) := (wordsOn page).filter isPicture
def textOn (page : TextPage) : List (Word ℚ) := (wordsOn page).filter fun word => !isPicture word

/-- The text that a page had from the start is CMYK. -/
def contentOn (page : TextPage) : Content where
  pictures := (picturesOn page).map pictureOf
  drawn := ((page.source.filter fun word => !isPicture word).map fun _ => ⟨.cmyk, false⟩) ++ page.merged.map drawnBy

def wordInCmyk (word : Word ℚ) : Word ℚ := if isPicture word then { word with text := "DeviceCMYK" } else word

def pageInCmyk (page : TextPage) : TextPage := { page with source := (wordsOn page).map wordInCmyk, merged := [] }

def xrefOf : ColourSpace → Nat
  | .cmyk => 1
  | .rgb => 2
  | .grey => 3

def describe : Nat → String
  | 1 => "Colorspace(CS_CMYK) - DeviceCMYK"
  | 2 => "Colorspace(CS_RGB) - DeviceRGB"
  | _ => "Colorspace(CS_GRAY) - DeviceGray"

/-- Whether a word is under a rectangle. -/
def under (mediabox : Box ℚ) (word : Word ℚ) : Operation ℚ → Bool
  | .rect _ x y width height => x ≤ mediabox.x0 + word.box.x0 ∧ mediabox.x0 + word.box.x1 ≤ x + width ∧
    y ≤ mediabox.y1 - word.box.y1 ∧ mediabox.y1 - word.box.y0 ≤ y + height
  | .text .. => false

/-- A page is white when rectangles hide all its words. -/
def shown (page : TextPage) : Image :=
  if (wordsOn page).all fun word => page.merged.any (under page.mediabox word) then [(255, 255, 255)]
  else [(255, 255, 255), (0, 0, 0)]

def runGhostscript : GsJob → Bytes → Except LibraryError GsOutput
  | .convertToCmyk, bytes => do
    let pages ← readDocument bytes
    return ⟨encodePages (pages.map pageInCmyk), [], 0⟩
  | .embedFonts, bytes => .ok ⟨bytes, [], 0⟩

/-- Libraries whose pages also have images. -/
def coloured : Libraries ℚ (List (Word ℚ)) :=
  { libraries with
    convertFromBytes := fun bytes => do return (← readDocument bytes).map shown
    getTextWords := fun page => .ok (textOn page)
    getPageImages := fun page => .ok ((picturesOn page).map fun word => xrefOf (pictureOf word).space)
    pixmapColorspace := fun _ xref => .ok (describe xref)
    ghostscript := runGhostscript }

theorem coloured_readPages (bytes : Bytes) : coloured.readPages bytes = readDocument bytes := readPages_eq bytes

theorem coloured_encodePages (pages : List TextPage) : coloured.readPages (encodePages pages) = .ok pages :=
  readPages_encodePages pages

theorem coloured_lawful : coloured.Lawful shown :=
  (lawful.replaced (fun page => .ok (textOn page)) libraries.applyRedaction
    (fun page => .ok ((picturesOn page).map fun word => xrefOf (pictureOf word).space))
    (fun _ xref => .ok (describe xref)) runGhostscript).rerendered fun {_ _ _} read converted => by
      obtain ⟨others, again, rest⟩ := bind_eq_ok.mp converted
      cases ((coloured_readPages _).symm.trans read).symm.trans again
      exact (Except.ok.inj rest).symm

theorem coloured_reliable : coloured.Reliable :=
  (reliable.replaced textOn redact
    (fun page => .ok ((picturesOn page).map fun word => xrefOf (pictureOf word).space))
    (fun _ xref => .ok (describe xref)) runGhostscript).rerendered fun {_ pages} read =>
      ⟨pages.map shown, by rw [show readDocument _ = .ok pages from (coloured_readPages _).symm.trans read]; rfl⟩

private theorem not_picture_of_mem_placeLine {size left top : ℚ} {block line number : Nat} {texts : List String}
    (positive : block ≠ 0) {word : Word ℚ} (member : word ∈ placeLine size left top block line number texts) :
    isPicture word = false := by
  induction texts generalizing left number with
  | nil => cases member
  | cons text rest ih =>
    rcases List.mem_cons.mp member with rfl | later
    · simpa [isPicture] using positive
    · exact ih later

/-- Drawing adds no image. -/
theorem picturesOn_merge (page : TextPage) (can : NotifyCanvas ℚ) :
    picturesOn (page.merge can) = picturesOn page := by
  have kept : ∀ operations : List (Operation ℚ), ∀ words,
      (operations.foldl (drawOn page.mediabox) words).filter isPicture = words.filter isPicture := by
    intro operations
    induction operations with
    | nil => exact fun _ => rfl
    | cons operation rest ih =>
      intro words
      rw [List.foldl_cons, ih]
      cases operation with
      | rect => rfl
      | text fill font size leading rise x y text =>
        rw [drawOn, List.filter_append, List.append_right_eq_self, List.filter_eq_nil_iff]
        intro word member
        obtain ⟨line, inText, inLine⟩ := List.mem_flatten.mp member
        obtain ⟨texts, _, rfl⟩ := List.mem_map.mp inText
        rw [not_picture_of_mem_placeLine (Nat.succ_ne_zero _) inLine]
        decide
  rw [picturesOn, wordsOn, Page.merge, List.foldl_append]
  exact kept can.operations _

theorem wordsOn_redact (page : TextPage) (rect : Box ℚ) :
    wordsOn (redact page rect) = (wordsOn page).filter fun word => ¬ word.box.Intersects rect :=
  Except.ok.inj (textLaws.redacted (rfl : libraries.getTextWords page = .ok (wordsOn page)) rfl).2.2

theorem pageInCmyk_inCmyk (page : TextPage) : (contentOn (pageInCmyk page)).InCmyk := by
  constructor
  · intro picture member
    obtain ⟨word, inPictures, rfl⟩ := List.mem_map.mp member
    obtain ⟨inWords, isPic⟩ := List.mem_filter.mp inPictures
    obtain ⟨before, _, rfl⟩ := List.mem_map.mp inWords
    unfold wordInCmyk at isPic ⊢
    split at isPic
    · rename_i was
      rw [if_pos was]
      rfl
    · rename_i other
      exact absurd isPic other
  · intro item member
    rw [contentOn, pageInCmyk, List.map_nil, List.append_nil] at member
    obtain ⟨_, _, rfl⟩ := List.mem_map.mp member
    rfl

/-- Pages are converted one by one. -/
theorem coloured_pagewise {file out : MemoryFile} {pages : List TextPage}
    (read : coloured.readPages file.bytes = .ok pages) (rewritten : Rewritten coloured .convertToCmyk file out) :
    coloured.readPages out.bytes = .ok (pages.map pageInCmyk) := by
  obtain ⟨gs, ran, _, rfl⟩ := rewritten
  obtain ⟨others, again, rest⟩ := bind_eq_ok.mp ran
  cases ((coloured_readPages _).symm.trans read).symm.trans again
  cases rest
  exact coloured_encodePages _

theorem described (space : ColourSpace) : ∀ other text, ColourSpace.Named other text →
    (text.toList <:+: (describe (xrefOf space)).toList ↔ space = other) := by
  rintro (_ | _ | _) text named
  · subst named
    cases space <;> decide +kernel
  · subst named
    cases space <;> decide +kernel
  · cases named

theorem coloured_laws : ColourLaws coloured contentOn where
  listed := by
    rintro doc page xrefs _ ⟨⟩
    refine List.forall₂_map_left_iff.mpr (List.forall₂_map_right_iff.mpr (List.forall₂_same.mpr fun word _ => ?_))
    rintro description ⟨⟩
    exact described (pictureOf word).space
  merged page can := by
    simp only [contentOn, picturesOn_merge, Content.mk.injEq, true_and]
    simp [Page.merge]
  redacted := by
    rintro page after ⟨⟩
    simp only [contentOn, picturesOn, wordsOn_redact, List.filter_map, List.filter_filter,
      Function.comp_def, pictureOf]
    refine congrArg _ (List.filter_congr fun word _ => ?_)
    rw [Bool.and_comm, decide_not]
  converted := by
    rintro file out pages read rewritten
    refine ⟨_, coloured_pagewise read rewritten, fun page member => ?_⟩
    obtain ⟨before, _, rfl⟩ := List.mem_map.mp member
    exact pageInCmyk_inCmyk before
  embedded := by
    rintro file out pages read ⟨gs, ⟨⟩, _, rfl⟩
    exact ⟨pages, read, rfl⟩

theorem search_returns (doc rest : List TextPage) (text : String) (i : Nat) :
    Returns (anyPageHasColorspace coloured doc text rest i) := by
  have onPage : ∀ xrefs : List Nat, Returns (anyImageHasColorspace coloured doc text xrefs) := by
    intro xrefs
    induction xrefs with
    | nil => exact ⟨false, rfl⟩
    | cons xref rest ih =>
      apply Returns.bind ⟨_, rfl⟩
      intro description _
      split
      · exact ⟨true, rfl⟩
      · exact ih
  induction rest generalizing i with
  | nil => exact ⟨false, rfl⟩
  | cons page rest ih =>
    apply (onPage _).bind
    intro here _
    split
    · exact ⟨true, rfl⟩
    · exact ih (i + 1)

theorem coloured_converted {content : Bytes} {pages : List TextPage} (read : readDocument content = .ok pages) :
    convertPdfToCmyk coloured { bytes := content } = .ok { bytes := encodePages (pages.map pageInCmyk) } := by
  have ran : coloured.ghostscript .convertToCmyk content = .ok ⟨encodePages (pages.map pageInCmyk), [], 0⟩ := by
    simp [coloured, runGhostscript, read]
  have clean := zeros_report_no_error fun byte (member : byte ∈ encodePages (pages.map pageInCmyk)) =>
    zero_of_mem_encodePages member
  simp [convertPdfToCmyk, MemoryFile.read, ran, clean]

/-- A document is normalised as it is or converted. -/
theorem encodePages_normalised (pages : List TextPage) :
    ∃ after, after.length = pages.length ∧
      normaliseFontsAndColours coloured { bytes := encodePages pages } = .ok { bytes := encodePages after } := by
  have searched (text : String) : ∃ found, doesPdfContainColorspace coloured text { bytes := encodePages pages } =
      .ok (found, { bytes := encodePages pages }) := by
    obtain ⟨found, searched⟩ := search_returns pages pages text 0
    have opened : coloured.openDocument (encodePages pages) = .ok pages := readDocument_encodePages pages
    exact ⟨found, by simp [doesPdfContainColorspace, opened, searched, MemoryFile.seek]⟩
  have plain (after : List TextPage) : containsUnembeddedFonts coloured { bytes := encodePages after } =
      .ok ([], { bytes := encodePages after }) :=
    no_unembedded_fonts (readDocument_encodePages after)
  have converted := coloured_converted (readDocument_encodePages pages)
  obtain ⟨containsCmyk, searchedCmyk⟩ := searched "CMYK"
  obtain ⟨containsRgb, searchedRgb⟩ := searched "RGB"
  rw [← doesPdfContainCmyk] at searchedCmyk
  rw [← doesPdfContainRgb] at searchedRgb
  rw [normaliseFontsAndColours, searchedCmyk, ok_bind]
  cases containsCmyk with
  | false =>
    refine ⟨pages.map pageInCmyk, List.length_map .., ?_⟩
    simp [converted, plain]
  | true =>
    cases containsRgb with
    | true =>
      refine ⟨pages.map pageInCmyk, List.length_map .., ?_⟩
      simp [searchedRgb, converted, plain]
    | false =>
      refine ⟨pages, rfl, ?_⟩
      simp [searchedRgb, plain]

/-- The words of an address in its window. -/
def addressWords : List (Word ℚ) :=
  placeLine 8 80 130 1 0 0 ["1", "High", "Street"] ++ placeLine 8 80 140 1 1 0 ["London"] ++
    placeLine 8 80 150 1 2 0 ["N1", "7AA"]

/-- A letter of one page with an address and with images in these colour spaces. -/
def letterWith (names : List String) : TextPage :=
  { blankPage with source := addressWords ++ names.map fun name => ⟨⟨100, 400, 300, 500⟩, name, 0, 0, 0⟩ }

theorem letterWith_text (names : List String) : textOn (letterWith names) = addressWords := by
  have text : addressWords.filter (fun word => !isPicture word) = addressWords := by decide +kernel
  have images : (names.map fun name => (⟨⟨100, 400, 300, 500⟩, name, 0, 0, 0⟩ : Word ℚ)).filter
      (fun word => !isPicture word) = [] := by
    simp [isPicture]
  rw [textOn, show wordsOn (letterWith names) = (letterWith names).source from rfl, letterWith,
    List.filter_append, text, images, List.append_nil]

/-- The address of a letter in memory is redacted and drawn again. -/
theorem encodePages_rewritten {page : TextPage} {address : String} (position : Nat)
    (reads : joinLines (linesIn addressBoundingBox (textOn page)) = address)
    (accepted : errorCode (postalAddress address) false = none) :
    rewriteAddressBlock coloured ⟨encodePages [page], position⟩ 1 false =
      .ok ({ bytes := encodePages [(redact page addressBoundingBox).merge
        (addressCanvas (postalAddress address).normalised)] }, (postalAddress address).normalised) := by
  have read (page : TextPage) := coloured_encodePages [page]
  have extracted : extractAddressBlock coloured ⟨encodePages [page], position⟩ =
      .ok (address, { bytes := encodePages [page] }) := by
    rw [extractAddressBlock_ok coloured_lawful coloured_reliable (read page) rfl, reads]
    exact congrArg (fun text => Except.ok (text, _)) (stable address)
  have redacted : redactPrecompiledLetterAddressBlock coloured { bytes := encodePages [page] } =
      .ok { bytes := encodePages [redact page addressBoundingBox] } := by
    have opened : coloured.openDocument (encodePages [page]) = .ok [page] := readDocument_encodePages [page]
    rw [redactPrecompiledLetterAddressBlock, MemoryFile.seek_bytes, opened]
    rfl
  have added (page : TextPage) (address : String) :
      addAddressToPrecompiledLetter coloured { bytes := encodePages [page] } address =
        .ok { bytes := encodePages [page.merge (addressCanvas address)] } := by
    rw [addAddressToPrecompiledLetter, read]
    rfl
  have recognised : coloured.postalAddress address false = .ok (postalAddress address) := rfl
  simp [rewriteAddressBlock, extracted, recognised, accepted, redacted, added]

/-- A letter in memory with an acceptable address is rewritten. -/
theorem encodePages_returned {page : TextPage} {address : String}
    (reads : joinLines (linesIn addressBoundingBox (textOn page)) = address)
    (accepted : errorCode (postalAddress address) false = none) :
    ∃ out, rewritePdf coloured { bytes := encodePages [page] } 1 false =
      .ok (out, (postalAddress address).normalised) := by
  have logged : logMetadataForLetter coloured { bytes := encodePages [page] } =
      .ok ⟨encodePages [page], (encodePages [page]).length⟩ := by
    have opened : coloured.pdfReader (encodePages [page]) = .ok (blankReader [page]) := by
      simp [coloured, libraries]
    rw [logMetadataForLetter, opened]
    rfl
  have rewritten := encodePages_rewritten (encodePages [page]).length reads accepted
  obtain ⟨after, long, normalised⟩ := encodePages_normalised
    [(redact page addressBoundingBox).merge (addressCanvas (postalAddress address).normalised)]
  obtain ⟨first, rfl⟩ := List.length_eq_one_iff.mp long
  have read := coloured_encodePages [first]
  obtain ⟨present, tested, _⟩ := isNotifyTagPresent_ok coloured_lawful coloured_reliable
    (show coloured.readPages (MemoryFile.mk (encodePages [first]) 0).bytes = .ok [first] from read) rfl
  have tagged : addNotifyTagToLetter coloured { bytes := encodePages [first] } =
      .ok { bytes := encodePages [first.merge (tagCanvas first)] } := by
    rw [addNotifyTagToLetter, read]
    rfl
  cases present with
  | true =>
    refine ⟨{ bytes := encodePages [first] }, ?_⟩
    simp [rewritePdf, logged, rewritten, normalised, tested, MemoryFile.seek]
  | false =>
    refine ⟨{ bytes := encodePages [first.merge (tagCanvas first)] }, ?_⟩
    simp [rewritePdf, logged, rewritten, normalised, tested, MemoryFile.seek, tagged]

theorem letterWith_rewritten (names : List String) : ∃ out,
    rewritePdf coloured { bytes := encodePages [letterWith names] } 1 false = .ok (out, textOf highStreet) := by
  have normalised : (postalAddress (textOf highStreet)).normalised = textOf highStreet := by decide +kernel
  have reads : joinLines (linesIn addressBoundingBox (textOn (letterWith names))) = textOf highStreet := by
    rw [letterWith_text]
    decide +kernel
  obtain ⟨out, returned⟩ := encodePages_returned reads (by decide +kernel)
  exact ⟨out, normalised ▸ returned⟩

private theorem letterWith_passes (check : Check) :
    AllPass coloured shown false [letterWith ["DeviceCMYK"]] check := by
  intro index page found
  obtain ⟨rfl, rfl⟩ : index = 0 ∧ page = letterWith ["DeviceCMYK"] := by
    cases index with
    | zero => exact ⟨rfl, (Option.some.inj found).symm⟩
    | succ => cases found
  cases check with
  | orientationAndSize => exact (by decide +kernel : Page.isA4Portrait (letterWith ["DeviceCMYK"]) = true)
  | printableArea =>
    have hidden : shown (underOverlay false 0 (letterWith ["DeviceCMYK"])) = [(255, 255, 255)] := by decide +kernel
    rw [Passes, hidden]
    simp
  | notifyTag => exact .inl rfl

theorem letterWith_accepted : ∃ after, getInvalidPagesWithMessage coloured
    { bytes := encodePages [letterWith ["DeviceCMYK"]] } false = .ok (("", []), after) := by
  have read := coloured_encodePages [letterWith ["DeviceCMYK"]]
  obtain ⟨message, invalidPages, after, validated, accepts, _⟩ :=
    validation_is_exact coloured_lawful coloured_reliable false
      (show coloured.readPages (MemoryFile.mk (encodePages [letterWith ["DeviceCMYK"]]) 0).bytes = .ok _ from read)
      (by simp)
  obtain ⟨rfl, rfl⟩ := accepts.mpr letterWith_passes
  exact ⟨after, validated⟩

theorem mixedLetter_without_rgb : ∃ out,
    rewritePdf coloured { bytes := encodePages [letterWith ["DeviceCMYK", "DeviceRGB"]] } 1 false =
      .ok (out, textOf highStreet) ∧ FileWithoutRgb coloured contentOn out := by
  obtain ⟨out, rewritten⟩ := letterWith_rewritten ["DeviceCMYK", "DeviceRGB"]
  exact ⟨out, rewritten, (letter_without_rgb_iff coloured_lawful coloured_laws
    (coloured_encodePages [letterWith ["DeviceCMYK", "DeviceRGB"]]) rewritten).mpr (by decide +kernel)⟩

/-- An accepted letter with a CMYK image is returned with its address in RGB. -/
theorem cmykLetter_keeps_rgb :
    (∃ after, getInvalidPagesWithMessage coloured { bytes := encodePages [letterWith ["DeviceCMYK"]] } false =
      .ok (("", []), after)) ∧
    ∃ out, rewritePdf coloured { bytes := encodePages [letterWith ["DeviceCMYK"]] } 1 false =
      .ok (out, textOf highStreet) ∧ ¬ FileWithoutRgb coloured contentOn out := by
  obtain ⟨out, rewritten⟩ := letterWith_rewritten ["DeviceCMYK"]
  exact ⟨letterWith_accepted, out, rewritten, unconverted_keeps_rgb coloured_lawful coloured_laws
    (coloured_encodePages [letterWith ["DeviceCMYK"]]) rewritten (by decide +kernel)⟩

end Coloured

end TemplatePreview.LetterColours
