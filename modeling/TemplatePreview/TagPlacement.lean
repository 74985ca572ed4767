import TemplatePreview.TagDetection
import TemplatePreview.RewriteStages

/-! Where the NOTIFY tag is drawn. It is put at a distance from the left edge of user
space and from the top edge of the page, and looked for from the corner of the page:
the two agree while the page begins near the left edge of user space. -/
namespace TemplatePreview.TagPlacement
open Region PageLayout Pdf Outcomes TextExtraction PageValidation AddressRewrite EmbeddedFonts
open Sanitisation TagDetection RewriteStages

variable {K σ : Type} [Field K]

/-- How far the drawn tag reaches: to the right, above its baseline and below it. -/
structure TagSize (K : Type) where
  width : K
  above : K
  below : K

/-- The box of a text that is drawn as the tag is, from the top left corner of an
unrotated page. -/
def tagBox (size : TagSize K) (page : Page K σ) : Operation K → Option (Box K)
  | .rect .. => none
  | .text _ _ _ _ _ x y _ =>
    some ⟨x - page.mediabox.x0, page.mediabox.y1 - y - size.above, x - page.mediabox.x0 + size.width,
      page.mediabox.y1 - y + size.below⟩

/-- The box of a page, from its own top left corner. -/
def pageBox (page : Page K σ) : Box K :=
  ⟨0, 0, page.mediabox.x1 - page.mediabox.x0, page.mediabox.y1 - page.mediabox.y0⟩

variable [LinearOrder K]

/-- What is assumed of the size of the tag. -/
structure Small (size : TagSize K) : Prop where
  wide : 0 < size.width
  narrow : size.width ≤ 8.0 * mm
  tall : 0 < size.above + size.below
  above : size.above ≤ 6.0
  below : size.below ≤ 2.0

/-- What is assumed of the words of unrotated pages. A tag drawn on the page is one
word, text drawn from `x` on adds words that start there or further right, redaction
removes the words that intersect the rectangle, and ghostscript moves no words. -/
structure WordLaws (lib : Libraries K σ) (size : TagSize K) : Prop where
  tag : ∀ {page can fill x y words box}, page.rotate = none ∨ page.rotate = some 0 →
    can.operations = [.text fill font notifyTagFontSize 0 0 x y notifyTagText] →
    can.operations.filterMap (tagBox size page) = [box] → box.Inside (pageBox page) →
    lib.getTextWords page = .ok words →
    ∃ tag, tag.box = box ∧ tag.text = notifyTagText ∧ lib.getTextWords (page.merge can) = .ok (words ++ [tag])
  drawn : ∀ {page can words background left bottom width height fill font size leading rise x y text},
    page.rotate = none ∨ page.rotate = some 0 → 0 < size →
    can.operations = [.rect background left bottom width height, .text fill font size leading rise x y text] →
    lib.getTextWords page = .ok words →
    ∃ drawn, lib.getTextWords (page.merge can) = .ok (words ++ drawn) ∧
      ∀ word ∈ drawn, x - page.mediabox.x0 ≤ word.box.x0
  redacted : ∀ {page after rect words}, lib.getTextWords page = .ok words →
    lib.applyRedaction page rect = .ok after → after.mediabox = page.mediabox ∧
      after.rotate = page.rotate ∧
      lib.getTextWords after = .ok (words.filter fun word => ¬ word.box.Intersects rect)
  rewritten : ∀ {job file out page rest words}, lib.readPages file.bytes = .ok (page :: rest) →
    lib.getTextWords page = .ok words → Rewritten lib job file out →
    ∃ after others moved, lib.readPages out.bytes = .ok (after :: others) ∧
      lib.getTextWords after = .ok moved ∧ moved.Perm words

/-- Sanitising a letter again leaves the tag it has as it is. -/
def AddsNoSecondTag (lib : Libraries K σ) (file : MemoryFile) : Prop :=
  ∀ pageCount allow out address, rewritePdf lib file pageCount allow = .ok (out, address) →
    ∃ logged rewritten normalised, logMetadataForLetter lib file = .ok logged ∧
      rewriteAddressBlock lib logged pageCount allow = .ok (rewritten, address) ∧
      normaliseFontsAndColours lib rewritten = .ok normalised ∧ out.bytes = normalised.bytes

/-- The tag is where it belongs on the first page, it is found there, it is not added
again, and the other pages are as they were. -/
structure TagPlaced (lib : Libraries K σ) (size : TagSize K) (page : Page K σ) (rest : List (Page K σ))
    (out : MemoryFile) : Prop where
  inside : ∃ after others, lib.readPages out.bytes = .ok (after :: others) ∧
    ∀ box ∈ (after.merged.drop page.merged.length).filterMap (tagBox size after), box.Inside notifyTagBoundingBox
  present : ∃ tested, isNotifyTagPresent lib out = .ok (true, tested)
  once : AddsNoSecondTag lib out
  others : ∃ after, lib.readPages out.bytes = .ok (after :: rest)

section Placement
variable [IsStrictOrderedRing K] {lib : Libraries K σ} {render : Page K σ → Image} {size : TagSize K}
  {page : Page K σ} {rest : List (Page K σ)} {words : List (Word K)} {file out : MemoryFile}

/-- The page begins where the tag is still drawn in its box. -/
def NearLeftEdge (size : TagSize K) (page : Page K σ) : Prop :=
  1.8 * mm + size.width - 15.191 * mm ≤ page.mediabox.x0 ∧ page.mediabox.x0 ≤ 1.8 * mm

omit [LinearOrder K] [IsStrictOrderedRing K] in
theorem tagCanvas_boxes : (tagCanvas page).operations.filterMap (tagBox size page) =
    [⟨1.8 * mm - page.mediabox.x0, (1.8 + 6 * (1.0 / 72 * 25.4)) * mm - size.above,
      1.8 * mm - page.mediabox.x0 + size.width, (1.8 + 6 * (1.0 / 72 * 25.4)) * mm + size.below⟩] := by
  simp [tagCanvas, NotifyCanvas.drawString, NotifyCanvas.new, tagBox]

/-- The drawn tag is in its box exactly when the page begins near the left edge of
user space; it is never above or below it. -/
theorem tag_inside_iff (small : Small size) :
    (∀ box ∈ (tagCanvas page).operations.filterMap (tagBox size page), box.Inside notifyTagBoundingBox) ↔
      NearLeftEdge size page := by
  obtain ⟨wide, narrow, tall, above, below⟩ := small
  have unit : (mm : K) = 360 / 127 := mm_eq
  rw [tagCanvas_boxes, List.forall_mem_singleton, Box.Inside, NearLeftEdge]
  norm_num [notifyTagBoundingBox, unit] at above below ⊢
  constructor
  · rintro ⟨left, _, right, _⟩
    exact ⟨by linarith, by linarith⟩
  · rintro ⟨right, left⟩
    exact ⟨by linarith, by linarith, by linarith, by linarith⟩

/-- A tag in its box is on the page. -/
theorem tag_on_page (small : Small size) (unrotated : page.rotate = none ∨ page.rotate = some 0)
    (accepted : Page.isA4Portrait page) {box : Box K}
    (drawn : (tagCanvas page).operations.filterMap (tagBox size page) = [box])
    (inside : box.Inside notifyTagBoundingBox) : box.Inside (pageBox page) ∧ box.Proper := by
  obtain ⟨wide, narrow, tall, above, below⟩ := small
  have unit : (mm : K) = 360 / 127 := mm_eq
  obtain ⟨left, top, right, bottom⟩ := inside
  -- the page is at least 208 mm wide and 295 mm high
  have size : |pageHeight page - 297| ≤ 2 ∧ |pageWidth page - 210| ≤ 2 := by
    rcases (isA4Portrait_iff.mp accepted).2 with ⟨height, width, _⟩ | ⟨_, _, turned⟩
    · exact ⟨height, width⟩
    · rcases unrotated with same | same <;> simp [same] at turned
  have height := (abs_le.mp size.1).1
  have width := (abs_le.mp size.2).1
  rw [pageHeight, neg_le_sub_iff_le_add, ← sub_le_iff_le_add, le_div_iff₀ mm_pos] at height
  rw [pageWidth, neg_le_sub_iff_le_add, ← sub_le_iff_le_add, le_div_iff₀ mm_pos] at width
  have same := drawn.symm.trans tagCanvas_boxes
  have y0 := congrArg Box.y0 (List.cons.inj same).1
  have y1 := congrArg Box.y1 (List.cons.inj same).1
  have x0 := congrArg Box.x0 (List.cons.inj same).1
  have x1 := congrArg Box.x1 (List.cons.inj same).1
  norm_num [notifyTagBoundingBox, unit] at left top right bottom height width y0 y1 x0 x1
  refine ⟨⟨left, top, ?_, ?_⟩, ?_, ?_⟩
  · exact right.trans (le_trans (by norm_num) width)
  · exact bottom.trans (le_trans (by norm_num) height)
  · rw [x0, x1]
    linarith
  · rw [y0, y1]
    linarith

omit [IsStrictOrderedRing K] in
/-- The words of the first page stay, in some order, whatever ghostscript is asked to
do. -/
theorem normaliseFontsAndColours_words (laws : WordLaws lib size)
    (read : lib.readPages file.bytes = .ok (page :: rest)) (found : lib.getTextWords page = .ok words)
    (returned : normaliseFontsAndColours lib file = .ok out) :
    ∃ after others moved, lib.readPages out.bytes = .ok (after :: others) ∧
      lib.getTextWords after = .ok moved ∧ moved.Perm words := by
  obtain ⟨_, converted, _, conversion, embedding⟩ := normaliseFontsAndColours_eq_ok returned
  obtain ⟨middle, others, moved, readMiddle, foundMiddle, same⟩ : ∃ middle others moved,
      lib.readPages converted.bytes = .ok (middle :: others) ∧ lib.getTextWords middle = .ok moved ∧
        moved.Perm words := by
    rcases conversion with ⟨rewritten, _⟩ | ⟨rfl, _⟩
    · exact laws.rewritten read found rewritten
    · exact ⟨page, rest, words, read, found, .refl _⟩
  rcases embedding with rfl | rewritten
  · exact ⟨middle, others, moved, readMiddle, foundMiddle, same⟩
  · obtain ⟨after, later, again, readAfter, foundAfter, sameAgain⟩ :=
      laws.rewritten readMiddle foundMiddle rewritten
    exact ⟨after, later, again, readAfter, foundAfter, sameAgain.trans same⟩

/-- A tag that has its box to itself is still alone there after sanitising again, and
so it is found. -/
theorem adds_no_second_tag (lawful : lib.Lawful render) (laws : WordLaws lib size)
    (space : lib.unicode.Starter ' ') (newline : lib.unicode.Starter '\n')
    (plain : UnicodeForms.Stable lib.unicode notifyTagText) {tag : Word K}
    (read : lib.readPages file.bytes = .ok (page :: rest)) (unrotated : page.rotate = none ∨ page.rotate = some 0)
    (begins : page.mediabox.x0 ≤ 1.8 * mm) (found : lib.getTextWords page = .ok words)
    (alone : wordsInTagBox words = [tag]) (text : tag.text = notifyTagText)
    (inside : tag.box.Inside notifyTagBoundingBox) : AddsNoSecondTag lib file := by
  intro pageCount allow out address returned
  obtain ⟨logged, rewritten, normalised, tested, present, logging, rewriting, normalising, testing, last⟩ :=
    rewritePdf_eq_ok returned
  rw [← logMetadataForLetter_bytes logging] at read
  obtain ⟨redacted, redaction, readRewritten⟩ := rewriteAddressBlock_eq_ok lawful read rewriting
  obtain ⟨box, rotation, kept⟩ := laws.redacted found redaction
  obtain ⟨drawn, foundRewritten, right⟩ : ∃ drawn,
      lib.getTextWords (redacted.merge (addressCanvas address)) =
        .ok ((words.filter fun word => ¬ word.box.Intersects addressBoundingBox) ++ drawn) ∧
      ∀ word ∈ drawn, addressLeftFromLeftOfPage * mm - redacted.mediabox.x0 ≤ word.box.x0 :=
    laws.drawn (rotation ▸ unrotated) (by norm_num) rfl kept
  obtain ⟨after, others, moved, readAfter, foundAfter, same⟩ :=
    normaliseFontsAndColours_words laws readRewritten foundRewritten normalising
  have unit : (mm : K) = 360 / 127 := mm_eq
  -- the tag is not redacted, and the address is drawn to the right of the tag box
  have apart : ¬ tag.box.Intersects addressBoundingBox := by
    rintro ⟨_, _, _, reaches, _⟩
    have ends := inside.2.2.1
    norm_num [addressBoundingBox, notifyTagBoundingBox, unit] at reaches ends
    linarith
  have beside : drawn.filter (fun word => word.box.Intersects notifyTagBoundingBox) = [] := by
    apply List.filter_eq_nil_iff.mpr
    intro word member
    rw [decide_eq_true_iff]
    rintro ⟨_, _, reaches, _⟩
    have starts := right word member
    rw [box] at starts
    norm_num [notifyTagBoundingBox, unit] at reaches starts begins
    linarith
  have still : wordsInTagBox moved = [tag] := by
    refine List.perm_singleton.mp ((same.filter _).trans (List.Perm.of_eq ?_))
    rw [List.filter_append, beside, List.append_nil, List.filter_comm, ← wordsInTagBox, alone]
    simp [apart]
  obtain ⟨rfl, first, later, wordsOfFirst, opened, foundFirst, exact⟩ := isNotifyTagPresent_eq_ok testing
  cases lawful.opened readAfter opened
  cases foundAfter.symm.trans foundFirst
  have seen : present = true := exact.mpr ((text_eq_tag_iff space newline).mpr
    ⟨tag, still, by rw [text]; exact plain⟩)
  subst seen
  obtain rfl : out = normalised.seek 0 := last
  exact ⟨logged, rewritten, normalised, logging, rewriting, normalising, rfl⟩

/-- The tag of an accepted letter whose tag box is free is placed as it should be
exactly when the page begins near the left edge of user space. -/
theorem tag_placed_iff (lawful : lib.Lawful render) (reliable : lib.Reliable) (laws : WordLaws lib size)
    (small : Small size) (space : lib.unicode.Starter ' ') (newline : lib.unicode.Starter '\n')
    (plain : UnicodeForms.Stable lib.unicode notifyTagText)
    (read : lib.readPages file.bytes = .ok (page :: rest)) (unrotated : page.rotate = none ∨ page.rotate = some 0)
    (accepted : Page.isA4Portrait page) (found : lib.getTextWords page = .ok words)
    (free : ∀ word ∈ words, ¬ word.box.Intersects notifyTagBoundingBox)
    (added : addNotifyTagToLetter lib file = .ok out) :
    TagPlaced lib size page rest out ↔ NearLeftEdge size page := by
  obtain ⟨first, later, again, _, readOut⟩ := addNotifyTagToLetter_eq_ok lawful added
  cases read.symm.trans again
  have operations : (page.merge (tagCanvas page)).merged.drop page.merged.length = (tagCanvas page).operations :=
    List.drop_left
  rw [← tag_inside_iff small]
  constructor
  · rintro ⟨⟨after, others, readAfter, inside⟩, _, _, _⟩
    cases readOut.symm.trans readAfter
    rw [operations] at inside
    exact inside
  · intro inside
    obtain ⟨box, boxes⟩ : ∃ box, (tagCanvas page).operations.filterMap (tagBox size page) = [box] :=
      ⟨_, tagCanvas_boxes⟩
    have boxInside := inside box (by simp [boxes])
    obtain ⟨onPage, proper⟩ := tag_on_page small unrotated accepted boxes boxInside
    obtain ⟨tag, rfl, text, foundOut⟩ := laws.tag unrotated rfl boxes onPage found
    have meets : tag.box.Intersects notifyTagBoundingBox :=
      intersects_of_subset proper (Box.region_subset boxInside.1 boxInside.2.1 boxInside.2.2.1 boxInside.2.2.2)
    have alone : wordsInTagBox (words ++ [tag]) = [tag] := by
      rw [wordsInTagBox, List.filter_append, List.filter_eq_nil_iff.mpr (by simpa using free)]
      simp [meets]
    obtain ⟨present, tested, exact⟩ := isNotifyTagPresent_ok lawful reliable readOut foundOut
    have seen : present = true :=
      exact.mpr ((text_eq_tag_iff space newline).mpr ⟨tag, alone, by rw [text]; exact plain⟩)
    subst seen
    exact ⟨⟨_, _, readOut, by rwa [operations]⟩, ⟨_, tested⟩,
      adds_no_second_tag lawful laws space newline plain readOut unrotated
        ((tag_inside_iff small).mp inside).2 foundOut alone text boxInside, _, readOut⟩

end Placement

/-! ## A narrower font -/

section Condensed
open InMemoryLibraries

/-- The word in a font with half the width. -/
def halve (word : Word ℚ) : Word ℚ :=
  { word with box := { word.box with x1 := (word.box.x0 + word.box.x1) / 2 } }

def drawCondensed (mediabox : Box ℚ) (words : List (Word ℚ)) : Operation ℚ → List (Word ℚ)
  | .rect .. => words
  | .text _ _ size leading rise x y text =>
    words ++ (placeText mediabox size leading rise x y (nextBlock words) (linesOf text)).flatten.map halve

def condensedWordsOn (page : TextPage) : List (Word ℚ) :=
  page.merged.foldl (drawCondensed page.mediabox) page.source

def redactCondensed (page : TextPage) (rect : Box ℚ) : TextPage :=
  { redact page rect with source := (condensedWordsOn page).filter fun word => ¬ word.box.Intersects rect }

/-- Libraries that draw with a narrower font. -/
def condensed : Libraries ℚ (List (Word ℚ)) :=
  { libraries with
    getTextWords := fun page => .ok (condensedWordsOn page)
    applyRedaction := fun page rect => .ok (redactCondensed page rect) }

theorem condensed_lawful : condensed.Lawful render := lawful.replaced _ _ _ _ _

theorem condensed_reliable : condensed.Reliable := reliable.replaced _ _ _ _ _

def condensedTag : TagSize ℚ := ⟨18, 6, 0⟩

theorem condensedTag_small : Small condensedTag := by
  constructor <;> decide +kernel

private theorem left_le_of_mem_placeLine {size left top : ℚ} {block line number : Nat} {texts : List String}
    (positive : 0 < size) {word : Word ℚ} (member : word ∈ placeLine size left top block line number texts) :
    left ≤ word.box.x0 := by
  induction texts generalizing left number with
  | nil => cases member
  | cons text rest ih =>
    rcases List.mem_cons.mp member with rfl | later
    · exact le_refl left
    · exact le_trans (le_add_of_nonneg_right (by positivity)) (ih later)

theorem condensed_wordLaws : WordLaws condensed condensedTag where
  tag := by
    rintro page can fill x y words box _ operations boxes _ ⟨⟩
    rw [operations] at boxes
    obtain rfl := (List.cons.inj boxes).1
    have one : linesOf notifyTagText = [[notifyTagText]] := by decide +kernel
    refine ⟨halve
      ⟨⟨x - page.mediabox.x0, page.mediabox.y1 - y - 6, x - page.mediabox.x0 + 36, page.mediabox.y1 - y⟩,
      notifyTagText, nextBlock (condensedWordsOn page), 0, 0⟩, ?_, rfl, congrArg Except.ok ?_⟩
    · simp only [halve, condensedTag, Box.mk.injEq, true_and, add_zero]
      exact ⟨by ring, trivial⟩
    · have long : notifyTagText.length = 6 := by decide
      simp only [condensedWordsOn, Page.merge, operations, List.foldl_append, List.foldl_cons, List.foldl_nil,
        drawCondensed, one, placeText, List.zipIdx_cons, List.zipIdx_nil, List.map_cons, List.map_nil, placeLine,
        List.flatten_cons, List.flatten_nil, List.append_nil, long]
      norm_num
  drawn := by
    rintro page can words background left bottom width height fill font size leading rise x y text _ positive
      operations ⟨⟩
    refine ⟨(placeText page.mediabox size leading rise x y (nextBlock (condensedWordsOn page))
      (linesOf text)).flatten.map halve, congrArg Except.ok ?_, fun word member => ?_⟩
    · simp only [condensedWordsOn, Page.merge, operations, List.foldl_append, List.foldl_cons, List.foldl_nil,
        drawCondensed]
    · obtain ⟨whole, inLines, rfl⟩ := List.mem_map.mp member
      obtain ⟨line, lineMember, inLine⟩ := List.mem_flatten.mp inLines
      obtain ⟨texts, _, rfl⟩ := List.mem_map.mp lineMember
      have begins := left_le_of_mem_placeLine positive inLine
      exact begins
  redacted := by
    rintro page after rect words ⟨⟩ ⟨⟩
    exact ⟨rfl, rfl, congrArg Except.ok (foldl_redacted page rect (fun _ _ _ _ _ _ => rfl) _)⟩
  rewritten := by
    rintro job file out page rest words read found ⟨gs, ⟨⟩, _, rfl⟩
    exact ⟨page, rest, words, read, found, .refl _⟩

theorem condensed_readPages (page : TextPage) : condensed.readPages (encodePages [page]) = .ok [page] :=
  readPages_encodePages [page]

theorem addTag_inMemory (page : TextPage) :
    addNotifyTagToLetter condensed { bytes := encodePages [page] } =
      .ok { bytes := encodePages [page.merge (tagCanvas page)] } := by
  rw [addNotifyTagToLetter, condensed_readPages]
  rfl

theorem blankPage_tag_placed : TagPlaced condensed condensedTag blankPage []
    { bytes := encodePages [blankPage.merge (tagCanvas blankPage)] } :=
  (tag_placed_iff condensed_lawful condensed_reliable condensed_wordLaws condensedTag_small ⟨rfl, rfl⟩ ⟨rfl, rfl⟩
    (stable notifyTagText) (condensed_readPages blankPage) (.inl rfl) (by decide +kernel) rfl
    (by simp [condensedWordsOn, blankPage]) (addTag_inMemory blankPage)).mpr
    ⟨by decide +kernel, by decide +kernel⟩

/-- A blank page that begins 20 mm to the right of the origin of user space. -/
def shiftedPage : TextPage := { blankPage with mediabox := ⟨20 * mm, 0, 230 * mm, 297 * mm⟩ }

theorem shiftedPage_tag_not_placed : Page.isA4Portrait shiftedPage ∧ ∃ out,
    addNotifyTagToLetter condensed { bytes := encodePages [shiftedPage] } = .ok out ∧
      ¬ TagPlaced condensed condensedTag shiftedPage [] out := by
  refine ⟨by decide +kernel, _, addTag_inMemory shiftedPage, ?_⟩
  rintro ⟨⟨after, others, read, inside⟩, _, _, _⟩
  cases (condensed_readPages (shiftedPage.merge (tagCanvas shiftedPage))).symm.trans read
  have near : NearLeftEdge condensedTag shiftedPage := (tag_inside_iff condensedTag_small).mp inside
  exact absurd near.2 (by decide +kernel)

end Condensed

end TemplatePreview.TagPlacement
