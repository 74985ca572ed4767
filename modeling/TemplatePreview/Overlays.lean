import TemplatePreview.Pdf

/-! The white overlay that hides the printable areas from the validator, and the
red overlay that shows users the areas they must leave empty. The two lists of
rectangles are written independently of one another; both are compared here with
the published printable areas. -/
namespace TemplatePreview.Overlays
open Region PageLayout Pdf Outcomes

variable {K σ : Type} [Field K] [LinearOrder K]

/-- What is drawn over the first page of a full letter. -/
def addressBlockPageWhite : NotifyCanvas K :=
  let can := NotifyCanvas.new white
  -- Body
  let can := can.rect (borderLeftFromLeftOfPage - 1, bodyTopFromTopOfPage - 1)
    (borderRightFromLeftOfPage + 1, borderBottomFromTopOfPage + 1)
  -- Service address block
  let can := can.rect (serviceAddressLeftFromLeftOfPage - 1, serviceAddressTopFromTopOfPage - 1)
    (serviceAddressRightFromLeftOfPage + 1, serviceAddressBottomFromTopOfPage + 1)
  -- Service logo block
  let can := can.rect (borderLeftFromLeftOfPage - 1, borderTopFromTopOfPage - 1)
    (logoRightFromLeftOfPage + 1, logoBottomFromTopOfPage + 1)
  -- Citizen address block
  can.rect (addressLeftFromLeftOfPage - 1, addressTopFromTopOfPage - 1)
    (addressRightFromLeftOfPage + 1, addressBottomFromTopOfPage + 1)

/-- The last rectangle, over the address window, and the three before it. -/
def addressWindowWhite : List (Operation K) := (addressBlockPageWhite (K := K)).operations.drop 3
def otherAreasWhite : List (Operation K) := (addressBlockPageWhite (K := K)).operations.take 3

/-- What is drawn over every other page. -/
def contentPageWhite : NotifyCanvas K :=
  (NotifyCanvas.new white).rect (borderLeftFromLeftOfPage - 1, borderTopFromTopOfPage - 1)
    (borderRightFromLeftOfPage + 1, borderBottomFromTopOfPage + 1)

/-- The white canvas for a page, which is the first of a full letter or not. -/
def whiteOverlay (isFirstPage : Bool) : NotifyCanvas K :=
  if isFirstPage then addressBlockPageWhite else contentPageWhite

/-- `_overlay_printable_areas_of_address_block_page_with_white`, on the pages of
a document. -/
def overlayPrintableAreasOfAddressBlockPageWithWhite (lib : Libraries K σ) :
    List (Page K σ) → Py (List (Page K σ))
  | [] => throw .indexError
  | page :: rest => do
    let page ← call (lib.mergePage page addressBlockPageWhite)
    return page :: rest

/-- The loop over the pages from `pageNumber` on. -/
def overlayContentPagesWithWhite (lib : Libraries K σ) (pdf : List (Page K σ)) (pageNumber : Nat) :
    Py (List (Page K σ)) := do
  let overlaid ← (pdf.drop pageNumber).mapM fun page => call (lib.mergePage page contentPageWhite)
  return pdf.take pageNumber ++ overlaid

/-- `_overlay_printable_areas_with_white`: the overlaid file, and the file it was
given put back at its start. -/
def overlayPrintableAreasWithWhite (lib : Libraries K σ) (srcPdf : MemoryFile) (isAnAttachment : Bool) :
    Py (MemoryFile × MemoryFile) := do
  let pdf ← call (lib.readPages srcPdf.bytes)
  let srcPdf := lib.leave .pypdf srcPdf
  let pdf ← (if isAnAttachment then pure pdf
    else overlayPrintableAreasOfAddressBlockPageWithWhite lib pdf)
  let pdf ← overlayContentPagesWithWhite lib pdf (if isAnAttachment then 0 else 1)
  let out ← bytesioFromPdf lib pdf
  return (out, srcPdf.seek 0)

/-- The canvas of `_colour_no_print_areas_of_page_in_red`. -/
def noPrintAreasRed (isFirstPage : Bool) : NotifyCanvas K :=
  let can := NotifyCanvas.new redTransparent
  -- left margin
  let can := can.rect (0, 0) (borderLeftFromLeftOfPage, a4Height)
  -- top margin
  let can := can.rect (borderLeftFromLeftOfPage, 0) (borderRightFromLeftOfPage, borderTopFromTopOfPage)
  -- right margin
  let can := can.rect (borderRightFromLeftOfPage, 0) (a4Width, a4Height)
  -- bottom margin
  let can := can.rect (borderLeftFromLeftOfPage, borderBottomFromTopOfPage)
    (borderRightFromLeftOfPage, a4Height)
  if isFirstPage then
    -- left from address block
    let can := can.rect (borderLeftFromLeftOfPage, logoBottomFromTopOfPage)
      (addressLeftFromLeftOfPage, bodyTopFromTopOfPage)
    -- directly above address block
    let can := can.rect (addressLeftFromLeftOfPage, logoBottomFromTopOfPage)
      (addressRightFromLeftOfPage, addressTopFromTopOfPage)
    -- right from address block
    let can := can.rect (addressRightFromLeftOfPage, logoBottomFromTopOfPage)
      (serviceAddressLeftFromLeftOfPage, bodyTopFromTopOfPage)
    -- below address block
    can.rect (addressLeftFromLeftOfPage, addressBottomFromTopOfPage)
      (addressRightFromLeftOfPage, bodyTopFromTopOfPage)
  else can

/-- `_colour_no_print_areas_of_page_in_red`. -/
def colourNoPrintAreasOfPageInRed (lib : Libraries K σ) (page : Page K σ) (isFirstPage : Bool) :
    Py (Page K σ) :=
  call (lib.mergePage page (noPrintAreasRed isFirstPage))

/-- Whether a page is the address page of a full letter. -/
def isAddressPage (isAnAttachment : Bool) (index : Nat) : Bool := !isAnAttachment && index == 0

/-- A document with the white canvas on every page. -/
def overlaid (isAnAttachment : Bool) (pages : List (Page K σ)) : List (Page K σ) :=
  pages.mapIdx fun index page => page.merge (whiteOverlay (isAddressPage isAnAttachment index))

section Overlaying
variable {lib : Libraries K σ} {render : Page K σ → Image} {srcPdf : MemoryFile} {pages : List (Page K σ)}

private theorem overlayContentPages_eq_ok (lawful : lib.Lawful render) {pageNumber : Nat}
    (drawn : overlayContentPagesWithWhite lib pages pageNumber = .ok after) :
    after = pages.take pageNumber ++ (pages.drop pageNumber).map fun page => page.merge contentPageWhite := by
  obtain ⟨drawnPages, merged, rest⟩ := bind_eq_ok.mp drawn
  cases rest
  rw [mapM_eq_ok (fun page => page.merge contentPageWhite) merged fun page _ result outcome =>
    lawful.merged (call_eq_ok.mp outcome)]

private theorem mapIdx_const (value : α → β) (items : List α) :
    items.mapIdx (fun _ item => value item) = items.map value := by
  apply List.ext_getElem <;> simp

/-- The overlaid file is the document with the white canvas on every page, and
the file that was given is back at its start. -/
theorem overlayPrintableAreasWithWhite_eq_ok (lawful : lib.Lawful render) {isAnAttachment : Bool}
    (drawn : overlayPrintableAreasWithWhite lib srcPdf isAnAttachment = .ok (out, after)) :
    out.position = 0 ∧ after = srcPdf.seek 0 ∧
      ∃ pages, lib.readPages srcPdf.bytes = .ok pages ∧
        lib.readPages out.bytes = .ok (overlaid isAnAttachment pages) := by
  obtain ⟨pages, read, drawn⟩ := bind_eq_ok.mp drawn
  obtain ⟨first, firstDrawn, drawn⟩ := bind_eq_ok.mp drawn
  obtain ⟨drawnPages, contentDrawn, drawn⟩ := bind_eq_ok.mp drawn
  obtain ⟨file, saved, drawn⟩ := bind_eq_ok.mp drawn
  obtain ⟨bytes, written, saved⟩ := bind_eq_ok.mp saved
  cases saved
  cases drawn
  refine ⟨rfl, rfl, pages, call_eq_ok.mp read, ?_⟩
  rw [lawful.written (call_eq_ok.mp written), overlayContentPages_eq_ok lawful contentDrawn]
  cases isAnAttachment with
  | true =>
    cases firstDrawn
    simp [overlaid, isAddressPage, whiteOverlay, mapIdx_const]
  | false =>
    cases pages with
    | nil => cases firstDrawn
    | cons page rest =>
      obtain ⟨merged, mergedPage, firstDrawn⟩ := bind_eq_ok.mp firstDrawn
      cases firstDrawn
      cases lawful.merged (call_eq_ok.mp mergedPage)
      simp [overlaid, isAddressPage, whiteOverlay, List.mapIdx_cons, mapIdx_const]

theorem overlayPrintableAreasWithWhite_returns (reliable : lib.Reliable) (isAnAttachment : Bool)
    (read : lib.readPages srcPdf.bytes = .ok pages) (nonempty : pages ≠ []) :
    Returns (overlayPrintableAreasWithWhite lib srcPdf isAnAttachment) := by
  have merges : ∀ (page : Page K σ) can, Returns (call (lib.mergePage page can)) := by
    intro page can
    obtain ⟨after, merged⟩ := reliable.merge page can
    exact ⟨after, call_eq_ok.mpr merged⟩
  unfold overlayPrintableAreasWithWhite
  rw [read, call_ok, ok_bind]
  refine Returns.bind ?_ fun first _ => Returns.bind ?_ fun drawn _ => Returns.bind ?_ fun out _ => ⟨_, rfl⟩
  · cases isAnAttachment with
    | true => exact ⟨_, rfl⟩
    | false =>
      cases pages with
      | nil => exact absurd rfl nonempty
      | cons page rest => exact (merges page _).bind fun merged _ => ⟨_, rfl⟩
  · exact (Returns.mapM fun page _ => merges page _).bind fun drawn _ => ⟨_, rfl⟩
  · obtain ⟨bytes, written⟩ := reliable.write drawn
    exact ⟨_, by rw [bytesioFromPdf, written]; rfl⟩

end Overlaying

/-! ## The published printable areas -/

def body : Box K := ⟨15, 95, 195, 292⟩
def serviceAddress : Box K := ⟨125, 5, 195, 95⟩
def logo : Box K := ⟨15, 5, 125, 30⟩
def addressWindow : Box K := ⟨24.6, 39.5, 120, 66.3⟩
def borderedPage : Box K := ⟨15, 5, 195, 292⟩

/-- The areas a service may print on: four on the first page of a full letter,
the whole page inside its border elsewhere. -/
def printableAreas (isFirstPage : Bool) : List (Box K) :=
  if isFirstPage then [body, serviceAddress, logo, addressWindow] else [borderedPage]

variable [IsStrictOrderedRing K]

theorem printableAreas_proper (isFirstPage : Bool) :
    ∀ area ∈ printableAreas (K := K) isFirstPage, area.Proper := by
  cases isFirstPage
  · norm_num [printableAreas, borderedPage, Box.Proper]
  · norm_num [printableAreas, body, serviceAddress, logo, addressWindow, Box.Proper]

theorem grown_areas_proper (isFirstPage : Bool) :
    ∀ box ∈ (printableAreas (K := K) isFirstPage).map (Box.grow 1), box.Proper := by
  intro box member
  obtain ⟨area, areaMember, rfl⟩ := List.mem_map.mp member
  have wide := printableAreas_proper isFirstPage area areaMember
  simp only [Box.Proper, Box.grow] at wide ⊢
  constructor <;> linarith [wide.1, wide.2]

/-- The rectangles of the white overlay are the published areas, each made one
millimetre more generous. -/
theorem whiteOverlay_eq_rects (isFirstPage : Bool) :
    whiteOverlay (K := K) isFirstPage =
      (NotifyCanvas.new white).rects ((printableAreas isFirstPage).map (Box.grow 1)) := by
  cases isFirstPage
  · norm_num [whiteOverlay, contentPageWhite, NotifyCanvas.rects, printableAreas, borderedPage, Box.grow]
  · norm_num [whiteOverlay, addressBlockPageWhite, NotifyCanvas.rects, printableAreas, body,
      serviceAddress, logo, addressWindow, Box.grow]

/-- A point is white exactly when it is in a published area grown by 1 mm. -/
theorem white_covers_grown_areas (isFirstPage : Bool) {x y : K} :
    userPoint x y ∈ painted white (whiteOverlay isFirstPage).operations ↔
      (x, y) ∈ cover ((printableAreas isFirstPage).map (Box.grow 1)) := by
  rw [whiteOverlay_eq_rects, mem_painted_rects (grown_areas_proper isFirstPage)]

end TemplatePreview.Overlays
