import TemplatePreview.PageValidation

/-! Drawing measures a page from the bottom as if it were 297 mm high, reading
measures it from its real top. Over all accepted heights the rectangle that the
address is read from still separates the address window from everything else a
service may print. -/
namespace TemplatePreview.AddressWindow
open Region PageLayout Pdf Outcomes Overlays TextExtraction PageValidation

variable {K σ : Type} [Field K] [LinearOrder K]

/-- A box of the canvas as it is seen from the top left of a page of some height,
in points. -/
def seenFromTop (height : K) (box : Box K) : Box K := (box.scale mm).shift 0 (height - a4HeightInPts)

/-- Whether all of a box, measured from the top left of the page, is painted. -/
def Within (page : Page K σ) (operations : List (Operation K)) (box : Box K) : Prop :=
  ∀ u v, (u, v) ∈ box.region → (u, page.mediabox.y1 - v) ∈ painted white operations

/-- A page that is shown as it is stored, with its corner at the origin, and of a
size within the tolerance. -/
structure Upright (page : Page K σ) : Prop where
  unrotated : page.rotate = none ∨ page.rotate = some 0
  left : page.mediabox.x0 = 0
  bottom : page.mediabox.y0 = 0
  width : |pageWidth page - 210| ≤ 2
  height : |pageHeight page - 297| ≤ 2

/-! ## Redaction -/

/-- `redact_precompiled_letter_address_block`. -/
def redactPrecompiledLetterAddressBlock (lib : Libraries K σ) (pdf : MemoryFile) : Py MemoryFile := do
  let pdf := pdf.seek 0
  let doc ← call (lib.openDocument pdf.bytes)
  match doc with
  | [] => throw .indexError
  | firstPage :: rest => do
    let firstPage ← call (lib.applyRedaction firstPage addressBoundingBox)
    let bytes ← call (lib.documentToBytes (firstPage :: rest))
    return { bytes := bytes }

/-- `extract_address_block`: the text of the address, from which an address is
made when its properties are read. -/
def extractAddressBlock (lib : Libraries K σ) (pdf : MemoryFile) : Py (String × MemoryFile) :=
  extractTextFromFirstPageOfPdf lib pdf addressBoundingBox

section Geometry
variable [IsStrictOrderedRing K] {page : Page K σ} {height u v : K}

theorem mem_seenFromTop {box : Box K} :
    (u, v) ∈ (seenFromTop height box).region ↔ (u / mm, (a4HeightInPts - (height - v)) / mm) ∈ box.region := by
  have positive : (0 : K) < mm := mm_pos
  have moved : a4HeightInPts - (height - v) = v - (height - a4HeightInPts) := by ring
  simp only [seenFromTop, Box.scale, Box.shift, Box.mem_region, add_zero, moved, le_div_iff₀ positive,
    div_le_iff₀ positive, le_sub_iff_add_le, sub_le_iff_le_add]

/-- What rectangles paint, seen from the top of a page. -/
theorem painted_seenFromTop {boxes : List (Box K)} (proper : ∀ box ∈ boxes, box.Proper) :
    (u, height - v) ∈ painted white ((NotifyCanvas.new white).rects boxes).operations ↔
      (u, v) ∈ cover (boxes.map (seenFromTop height)) := by
  rw [eq_userPoint (u, height - v), mem_painted_rects proper]
  simp only [mem_cover, List.mem_map, exists_exists_and_eq_and, mem_seenFromTop]

theorem addressWindowWhite_eq :
    addressWindowWhite = ((NotifyCanvas.new white).rects [addressWindow.grow (1 : K)]).operations := by
  have drawn := congrArg NotifyCanvas.operations (whiteOverlay_eq_rects (K := K) true)
  simp only [whiteOverlay, ↓reduceIte] at drawn
  rw [addressWindowWhite, drawn]
  rfl

theorem otherAreasWhite_eq :
    otherAreasWhite = ((NotifyCanvas.new white).rects
      [body.grow (1 : K), serviceAddress.grow 1, logo.grow 1]).operations := by
  have drawn := congrArg NotifyCanvas.operations (whiteOverlay_eq_rects (K := K) true)
  simp only [whiteOverlay, ↓reduceIte] at drawn
  rw [otherAreasWhite, drawn]
  rfl

/-- No accepted height is more than 2 mm from the one that is drawn for. -/
theorem Upright.height_bound (upright : Upright page) :
    -(2 * mm) ≤ page.mediabox.y1 - a4HeightInPts ∧ page.mediabox.y1 - a4HeightInPts ≤ 2 * mm := by
  have positive : (0 : K) < mm := mm_pos
  have close := abs_le.mp upright.height
  have whole : page.mediabox.y1 = pageHeight page * mm := by
    rw [pageHeight, upright.bottom, sub_zero, div_mul_cancel₀ _ positive.ne']
  have paper : (a4HeightInPts : K) = 297 * mm := by norm_num [a4HeightInPts]
  rw [whole, paper, ← sub_mul, ← neg_mul]
  exact ⟨mul_le_mul_of_nonneg_right close.1 positive.le, mul_le_mul_of_nonneg_right close.2 positive.le⟩

/-- The gap around the address window that no other printable area reaches. It
holds the rectangle that the address is read from, at every accepted height. -/
def gap (height : K) : Box K := seenFromTop height ⟨20, 32, 123.5, 93⟩

theorem window_strictly_inside_gap :
    (seenFromTop height (addressWindow.grow 1)).StrictlyInside (gap height) := by
  have positive : (0 : K) < mm := mm_pos
  norm_num [gap, seenFromTop, Box.StrictlyInside, Box.scale, Box.shift, addressWindow, Box.grow,
    mul_lt_mul_iff_left₀ positive]

theorem others_outside_gap : ∀ other ∈ [body.grow 1, serviceAddress.grow 1, logo.grow 1].map (seenFromTop height),
    ∀ point ∈ other.region, point ∉ (gap height).region := by
  have positive : (0 : K) < mm := mm_pos
  rintro other member ⟨u, v⟩ inside reached
  simp only [List.map_cons, List.map_nil, List.mem_cons, List.not_mem_nil, or_false] at member
  rcases member with rfl | rfl | rfl
  all_goals
    norm_num [gap, seenFromTop, Box.scale, Box.shift, Box.grow, body, serviceAddress, logo] at inside reached
    linarith [inside.1.1, inside.1.2, inside.2.1, inside.2.2, reached.1.1, reached.1.2, reached.2.1, reached.2.2]

theorem addressBoundingBox_in_gap (upright : Upright page) :
    (addressBoundingBox : Box K).region ⊆ (gap page.mediabox.y1).region := by
  have positive : (0 : K) < mm := mm_pos
  obtain ⟨low, high⟩ := upright.height_bound
  apply Box.region_subset
  all_goals
    norm_num [addressBoundingBox, gap, seenFromTop, Box.scale, Box.shift]
    linarith

theorem window_in_addressBoundingBox (upright : Upright page) :
    (seenFromTop page.mediabox.y1 (addressWindow.grow 1)).region ⊆ (addressBoundingBox : Box K).region := by
  have positive : (0 : K) < mm := mm_pos
  obtain ⟨low, high⟩ := upright.height_bound
  apply Box.region_subset
  all_goals
    norm_num [addressBoundingBox, seenFromTop, Box.scale, Box.shift, Box.grow, addressWindow]
    linarith

theorem within_window_iff {box : Box K} : Within page addressWindowWhite box ↔
    box.region ⊆ (seenFromTop page.mediabox.y1 (addressWindow.grow 1)).region := by
  have proper : ∀ area ∈ [addressWindow.grow (1 : K)], area.Proper := by
    norm_num [addressWindow, Box.grow, Box.Proper]
  simp only [Within, addressWindowWhite_eq, painted_seenFromTop proper, mem_cover, List.map_cons,
    List.map_nil, List.mem_singleton, exists_eq_left]
  exact ⟨fun within point inside => within point.1 point.2 inside, fun within u v inside => within inside⟩

/-- A white box is covered by the window and the other three areas. -/
theorem within_white_iff {box : Box K} : Within page addressBlockPageWhite.operations box ↔
    box.region ⊆ cover (seenFromTop page.mediabox.y1 (addressWindow.grow 1) ::
      [body.grow 1, serviceAddress.grow 1, logo.grow 1].map (seenFromTop page.mediabox.y1)) := by
  have drawn := whiteOverlay_eq_rects (K := K) true
  simp only [whiteOverlay, ↓reduceIte] at drawn
  have same : ∀ point : K × K, point ∈ cover (((printableAreas true).map (Box.grow 1)).map
      (seenFromTop page.mediabox.y1)) ↔ point ∈ cover (seenFromTop page.mediabox.y1 (addressWindow.grow 1) ::
        [body.grow 1, serviceAddress.grow 1, logo.grow 1].map (seenFromTop page.mediabox.y1)) := by
    intro point
    simp only [printableAreas, ↓reduceIte, mem_cover, List.map_cons, List.map_nil, List.mem_cons,
      List.not_mem_nil, or_false, exists_eq_or_imp, exists_eq_left]
    tauto
  simp only [Within, drawn, painted_seenFromTop (grown_areas_proper true), same]
  exact ⟨fun within point inside => within point.1 point.2 inside, fun within u v inside => within inside⟩

/-- A word printed in the white areas is read as part of the address exactly when
all of it is in the address window. -/
theorem intersects_iff_within (upright : Upright page) {box : Box K} (proper : box.Proper)
    (printed : Within page addressBlockPageWhite.operations box) :
    box.Intersects addressBoundingBox ↔ Within page addressWindowWhite box := by
  rw [within_window_iff]
  constructor
  · intro meets
    obtain ⟨point, inBox, inAddress⟩ := meets.common_point
    have covered := within_white_iff.mp printed
    -- of the white areas only the window reaches into the rectangle that is read
    have inWindow : point ∈ (seenFromTop page.mediabox.y1 (addressWindow.grow 1)).region := by
      obtain ⟨area, member, held⟩ := covered inBox
      rcases List.mem_cons.mp member with rfl | other
      · exact held
      · exact absurd (addressBoundingBox_in_gap upright inAddress) (others_outside_gap area other point held)
    exact subset_of_isolated window_strictly_inside_gap others_outside_gap covered inBox inWindow
  · intro inside
    exact intersects_of_subset proper (inside.trans (window_in_addressBoundingBox upright))

/-- A word that reaches one of the other areas is not part of the address. -/
theorem not_intersects_of_other (upright : Upright page) {box : Box K} (proper : box.Proper)
    (printed : Within page addressBlockPageWhite.operations box) (inBox : (u, v) ∈ box.region)
    (other : (u, page.mediabox.y1 - v) ∈ painted white otherAreasWhite) :
    ¬ box.Intersects addressBoundingBox := by
  intro meets
  have inside := within_window_iff.mp ((intersects_iff_within upright proper printed).mp meets)
  have areasProper : ∀ area ∈ [body.grow (1 : K), serviceAddress.grow 1, logo.grow 1], area.Proper := by
    norm_num [body, serviceAddress, logo, Box.grow, Box.Proper]
  rw [otherAreasWhite_eq, painted_seenFromTop areasProper] at other
  obtain ⟨area, member, held⟩ := other
  exact others_outside_gap area member _ held
    (addressBoundingBox_in_gap upright (window_in_addressBoundingBox upright (inside inBox)))

end Geometry

section Address
variable {lib : Libraries K σ} {render : Page K σ → Image} {textWidth : String → K → String → K}
  {pdf : MemoryFile} {page : Page K σ} {rest : List (Page K σ)} {words : List (Word K)}

/-- What is read as the address of a document. -/
theorem extractAddressBlock_ok (lawful : lib.Lawful render) (reliable : lib.Reliable)
    (read : lib.readPages pdf.bytes = .ok (page :: rest)) (found : lib.getTextWords page = .ok words) :
    extractAddressBlock lib pdf =
      .ok (UnicodeForms.nfkd lib.unicode (joinLines (linesIn addressBoundingBox words)), pdf.seek 0) := by
  obtain ⟨doc, opened⟩ := reliable.openDocument read
  have same := lawful.opened read opened
  subst same
  simp only [extractAddressBlock, extractTextFromFirstPageOfPdf, MemoryFile.seek_bytes, opened, call_ok, ok_bind,
    extractTextFromPage_ok reliable found, pure_eq_ok]
  rfl

/-- What is left of a document when its address is redacted. -/
theorem redactPrecompiledLetterAddressBlock_ok (lawful : lib.Lawful render) (reliable : lib.Reliable)
    (laws : TextLaws lib textWidth) (read : lib.readPages pdf.bytes = .ok (page :: rest))
    (found : lib.getTextWords page = .ok words) :
    ∃ out after, redactPrecompiledLetterAddressBlock lib pdf = .ok out ∧ out.position = 0 ∧
      lib.readPages out.bytes = .ok (after :: rest) ∧ after.mediabox = page.mediabox ∧
      after.rotate = page.rotate ∧
      lib.getTextWords after = .ok (words.filter fun word => ¬ word.box.Intersects addressBoundingBox) := by
  obtain ⟨doc, opened⟩ := reliable.openDocument read
  have same := lawful.opened read opened
  subst same
  obtain ⟨after, redacted⟩ := reliable.applyRedaction page addressBoundingBox
  obtain ⟨bytes, saved⟩ := reliable.documentToBytes (after :: rest)
  obtain ⟨box, rotation, kept⟩ := laws.redacted found redacted
  refine ⟨{ bytes := bytes }, after, ?_, rfl, lawful.saved saved, box, rotation, kept⟩
  simp only [redactPrecompiledLetterAddressBlock, MemoryFile.seek_bytes, opened, call_ok, ok_bind, redacted, saved,
    pure_eq_ok]

open scoped Classical in
/-- On every accepted page whose words are all in the white areas, the words of
the address window are the words that are read as the address and the words that
redaction removes. -/
theorem address_words_are_window_words [IsStrictOrderedRing K] (lawful : lib.Lawful render)
    (reliable : lib.Reliable) (laws : TextLaws lib textWidth)
    (read : lib.readPages pdf.bytes = .ok (page :: rest)) (upright : Upright page)
    (found : lib.getTextWords page = .ok words)
    (printed : ∀ word ∈ words, word.box.Proper ∧ Within page addressBlockPageWhite.operations word.box) :
    (∀ word ∈ words, word.box.Intersects addressBoundingBox ↔ Within page addressWindowWhite word.box) ∧
    (∀ word ∈ words, ∀ u v, (u, v) ∈ word.box.region →
      (u, page.mediabox.y1 - v) ∈ painted white otherAreasWhite → ¬ word.box.Intersects addressBoundingBox) ∧
    (∃ lines, lines.flatten.Perm (words.filter fun word => Within page addressWindowWhite word.box) ∧
      extractAddressBlock lib pdf = .ok (UnicodeForms.nfkd lib.unicode (joinLines lines), pdf.seek 0)) ∧
    ∃ out after, redactPrecompiledLetterAddressBlock lib pdf = .ok out ∧
      lib.readPages out.bytes = .ok (after :: rest) ∧
      lib.getTextWords after = .ok (words.filter fun word => ¬ Within page addressWindowWhite word.box) := by
  have window : ∀ word ∈ words, word.box.Intersects addressBoundingBox ↔
      Within page addressWindowWhite word.box := fun word member =>
    intersects_iff_within upright (printed word member).1 (printed word member).2
  refine ⟨window, fun word member u v inBox other => ?_, ?_, ?_⟩
  · exact not_intersects_of_other upright (printed word member).1 (printed word member).2 inBox other
  · refine ⟨_, ?_, extractAddressBlock_ok lawful reliable read found⟩
    rw [linesIn, Grouping.flatten_groupRuns]
    refine (Grouping.sortBy_perm _).trans (List.Perm.of_eq (List.filter_congr fun word member => ?_))
    simp only [window word member]
  · obtain ⟨out, after, redacted, _, readOut, _, _, kept⟩ :=
      redactPrecompiledLetterAddressBlock_ok lawful reliable laws read found
    refine ⟨out, after, redacted, readOut, kept.trans (congrArg _ (List.filter_congr fun word member => ?_))⟩
    simp only [window word member]

end Address

section InMemory
open InMemoryLibraries

theorem addressedPage_upright : Upright addressedPage :=
  ⟨.inl rfl, rfl, rfl, by decide +kernel, by decide +kernel⟩

theorem addressedPage_printed : ∀ word ∈ wordsOn addressedPage,
    word.box.Proper ∧ Within addressedPage addressBlockPageWhite.operations word.box := by
  intro word member
  cases List.mem_singleton.mp member
  refine ⟨⟨by decide +kernel, by decide +kernel⟩, within_white_iff.mpr fun point inside => ?_⟩
  refine ⟨_, List.mem_cons_self, Box.region_subset ?_ ?_ ?_ ?_ inside⟩ <;> decide +kernel

/-- The address of the page is in the window, and nothing is left when it is redacted. -/
theorem addressedPage_window :
    (∀ word ∈ wordsOn addressedPage, Within addressedPage addressWindowWhite word.box) ∧
    ∃ out after, redactPrecompiledLetterAddressBlock libraries { bytes := encodePages [addressedPage] } = .ok out ∧
      libraries.readPages out.bytes = .ok [after] ∧ libraries.getTextWords after = .ok [] := by
  obtain ⟨window, _, _, out, after, redacted, readOut, kept⟩ :=
    address_words_are_window_words lawful reliable textLaws (readPages_file [addressedPage])
      addressedPage_upright rfl addressedPage_printed
  have inside : ∀ word ∈ wordsOn addressedPage, Within addressedPage addressWindowWhite word.box := by
    intro word member
    apply (window word member).mp
    cases List.mem_singleton.mp member
    decide +kernel
  refine ⟨inside, out, after, redacted, readOut, kept.trans (congrArg _ (List.filter_eq_nil_iff.mpr ?_))⟩
  intro word member
  simpa using inside word member

end InMemory

end TemplatePreview.AddressWindow
