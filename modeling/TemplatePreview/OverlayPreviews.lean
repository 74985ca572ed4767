import TemplatePreview.UnreadablePdfs

/-! A letter is overlaid in red as a whole for the api, and page by page for the admin
app. Both see the same pages, but for the first page of an attachment. -/
namespace TemplatePreview.OverlayPreviews
open Workers Pdf Outcomes Overlays LetterTasks RenderCache PreviewEndpoints UnreadablePdfs

variable {K σ Date : Type}

/-- `is_an_attachment` of a request. -/
def isAnAttachment (args : List (String × String)) : Bool :=
  ((args.lookup "is_an_attachment").getD "").toLower == "true"

/-- A request for a page by its number alone, which counts from one. -/
structure AsksForPage (site : Site K σ Date) (args : List (String × String)) (index : ℕ) : Prop where
  numbered : ∃ pageNumber, args.lookup "page_number" = some pageNumber ∧ site.int pageNumber = .ok (index + 1)
  unmarked : args.lookup "is_first_page" = none

theorem ok_eq_mapError {image : Except RenderError MemoryFile} {png : MemoryFile} :
    (.ok png : Response) = image.mapError .render ↔ image = .ok png := by
  cases image <;> simp [Except.mapError, eq_comm]

theorem ok_eq_catchMissingDelegate {app : Application K σ Date} {image : Except RenderError MemoryFile}
    {png : MemoryFile} : .ok png = catchMissingDelegate app image ↔ image = .ok png := by
  cases image with
  | ok other => simp [catchMissingDelegate, eq_comm]
  | error error =>
    rw [catchMissingDelegate]
    split <;> simp [abort]

section Drawing
variable [Field K] [LinearOrder K] {site : Site K σ Date} {lib : Libraries K σ} {render : Page K σ → Image}
  {pages : List (Page K σ)} {page : Page K σ} {args : List (String × String)} {index : ℕ} {out : MemoryFile}

/-- A page with the red overlay. -/
def inRed (page : Page K σ) (isFirstPage : Bool) : Page K σ := page.merge (noPrintAreasRed isFirstPage)

/-- The first page of a letter has more areas that are left empty. -/
theorem inRed_injective (page : Page K σ) : Function.Injective (inRed page) := by
  intro one other same
  have operations := List.append_cancel_left (congrArg Page.merged same)
  have lengths := congrArg List.length operations
  cases one <;> cases other <;>
    simp [noPrintAreasRed, PageLayout.NotifyCanvas.rect, PageLayout.NotifyCanvas.fillRect,
      PageLayout.NotifyCanvas.new] at lengths ⊢

theorem colourNoPrintAreasOfPageInRed_eq (lawful : lib.Lawful render) (reliable : lib.Reliable) (isFirstPage : Bool) :
    colourNoPrintAreasOfPageInRed lib page isFirstPage = .ok (inRed page isFirstPage) := by
  obtain ⟨after, merged⟩ := reliable.merge page (noPrintAreasRed isFirstPage)
  rw [colourNoPrintAreasOfPageInRed, merged, lawful.merged merged, call_ok, inRed]

/-- The whole letter in red. -/
theorem colourNoPrintAreasInRed_eq_ok (lawful : lib.Lawful render)
    (drawn : colourNoPrintAreasInRed lib pages = .ok out) :
    lib.readPages out.bytes = .ok (pages.mapIdx fun index page => inRed page (index == 0)) := by
  obtain ⟨after, coloured, drawn⟩ := bind_eq_ok.mp drawn
  obtain ⟨bytes, written, drawn⟩ := bind_eq_ok.mp drawn
  cases drawn
  rw [lawful.written (call_eq_ok.mp written), List.mapIdx_eq_zipIdx_map]
  refine congrArg _ (mapM_eq_ok (fun entry => inRed entry.1 (entry.2 == 0)) coloured ?_)
  intro entry _ result outcome
  exact lawful.merged (call_eq_ok.mp outcome)

/-- A page on its own in red. -/
theorem colourSinglePage_eq (lawful : lib.Lawful render) (reliable : lib.Reliable) {single : MemoryFile}
    (alone : lib.readPages single.bytes = .ok [page]) (isFirstPage : Bool) :
    ∃ pdf, colourNoPrintAreasOfSinglePagePdfInRed lib single isFirstPage = .ok pdf ∧
      lib.readPages pdf.bytes = .ok [inRed page isFirstPage] := by
  obtain ⟨reader, opened, read⟩ := bind_eq_ok.mp alone
  obtain ⟨bytes, written⟩ := reliable.write [inRed page isFirstPage]
  refine ⟨{ bytes := bytes }, ?_, lawful.written written⟩
  simp only [colourNoPrintAreasOfSinglePagePdfInRed, opened, pure_bind, read, call_ok, ok_bind,
    colourNoPrintAreasOfPageInRed_eq lawful reliable, bytesioFromPdf, written]
  rfl

omit [Field K] [LinearOrder K] in
theorem requestedFirstPage_eq (asks : AsksForPage site args index) :
    requestedFirstPage site args = .ok (index == 0 && !isAnAttachment args) := by
  obtain ⟨⟨pageNumber, numbered, int⟩, unmarked⟩ := asks
  have first : ((index : Int) + 1 == 1) = (index == 0) := by
    rw [Bool.eq_iff_iff, beq_iff_eq, beq_iff_eq]
    omega
  simp only [requestedFirstPage, unmarked, numbered, int, Option.isSome_none, Bool.false_and, Bool.false_eq_true,
    ↓reduceIte, ok_bind, first, isAnAttachment]
  rfl

/-- The png of a page on its own is the image of the page in red. -/
theorem overlayTemplatePngForPage_eq (lawful : site.lib.Lawful render) (reliable : site.lib.Reliable) {single : Bytes}
    (posted : single ≠ []) (alone : site.lib.readPages single = .ok [page]) (asks : AsksForPage site args index) :
    overlayTemplatePngForPage site single args =
      pageImage site.toApplication (inRed page (index == 0 && !isAnAttachment args)) false >>= fun image =>
        pure (image.mapError .render) := by
  obtain ⟨pdf, coloured, read⟩ := colourSinglePage_eq lawful reliable
    (show site.lib.readPages (MemoryFile.mk single 0).bytes = .ok [page] from alone)
    (index == 0 && !isAnAttachment args)
  have selected : selectPage site.lib pdf 1 = .ok (inRed page (index == 0 && !isAnAttachment args)) :=
    selectPage_of_index read (List.getElem?_cons_zero ..)
  simp only [overlayTemplatePngForPage, posted, ↓reduceIte, requestedFirstPage_eq asks, coloured,
    pngFromPdf, selected]
  rfl

/-- What the api is answered is the whole letter in red. -/
theorem overlayTemplatePdf_eq_ok (lawful : site.lib.Lawful render) {letter : Bytes} {earlier : List TaskEvent}
    (read : site.lib.readPages letter = .ok pages)
    (drawn : (overlayTemplatePdf site letter []).Finishes earlier (.ok out)) :
    site.lib.readPages out.bytes = .ok (pages.mapIdx fun index page => inRed page (index == 0)) := by
  obtain ⟨reader, opened, readAfter⟩ := bind_eq_ok.mp read
  unfold overlayTemplatePdf at drawn
  split at drawn
  · cases drawn
  rw [if_neg (by simp)] at drawn
  obtain ⟨_, answered⟩ := Program.finishes_pure.mp drawn
  simp only [opened, call_ok, ok_bind, readAfter] at answered
  cases coloured : colourNoPrintAreasInRed site.lib pages with
  | ok pdf =>
    rw [coloured] at answered
    cases answered
    exact colourNoPrintAreasInRed_eq_ok lawful coloured
  | error error =>
    rw [coloured] at answered
    cases answered

/-- A letter that can be read is overlaid. -/
theorem overlayTemplatePdf_returns (lawful : site.lib.Lawful render) (reliable : site.lib.Reliable) {letter : Bytes}
    (posted : letter ≠ []) (read : site.lib.readPages letter = .ok pages) :
    ∃ out, (overlayTemplatePdf site letter []).Finishes [] (.ok out) := by
  obtain ⟨reader, opened, readAfter⟩ := bind_eq_ok.mp read
  have coloured : Returns (colourNoPrintAreasInRed site.lib pages) := by
    refine (Returns.mapM fun entry _ => ⟨_, colourNoPrintAreasOfPageInRed_eq lawful reliable _⟩).bind
      fun after _ => ?_
    obtain ⟨bytes, written⟩ := reliable.write after
    exact ⟨{ bytes := bytes }, by rw [bytesioFromPdf, written]; rfl⟩
  obtain ⟨out, coloured⟩ := coloured
  refine ⟨out, ?_⟩
  simp only [overlayTemplatePdf, posted, ↓reduceIte, ne_eq, not_true_eq_false, opened, call_ok, ok_bind, readAfter,
    coloured]
  exact .done

omit [Field K] [LinearOrder K] in
/-- The preview of a page of a letter that was sent in base 64. -/
theorem viewPrecompiledLetter_eq {encoded : Bytes} (sent : encoded ≠ [])
    (encodes : decodebytes encoded = .ok out.bytes)
    (read : site.lib.readPages out.bytes = .ok pages) (found : pages[index]? = some page) :
    viewPrecompiledLetter site.toApplication encoded (some (index + 1)) none =
      pageImage site.toApplication page false >>= fun image =>
      pure (catchMissingDelegate site.toApplication image) := by
  have selected : selectPage site.lib { bytes := out.bytes } (index + 1) = .ok page :=
    selectPage_of_index (show site.lib.readPages (MemoryFile.mk out.bytes 0).bytes = .ok pages from read) found
  simp only [viewPrecompiledLetter, sent, ↓reduceIte, encodes, Option.getD_some, pngFromPdf, selected]
  rfl

/-- What the two endpoints answer agrees. The png of a page on its own is the image of
this page of the pdf, unless it is the first page of an attachment; and then every run
that answers the png is a run that previews the page of the pdf, call by call. -/
theorem overlays_agree (lawful : site.lib.Lawful render) (reliable : site.lib.Reliable)
    {letter encoded single : Bytes} {earlier : List TaskEvent}
    (drawn : (overlayTemplatePdf site letter []).Finishes earlier (.ok out)) (sent : encoded ≠ [])
    (encodes : decodebytes encoded = .ok out.bytes) (read : site.lib.readPages letter = .ok pages)
    (found : pages[index]? = some page) (posted : single ≠ []) (alone : site.lib.readPages single = .ok [page])
    (asks : AsksForPage site args index) :
    ∃ shown pageAfter pagesAfter, site.lib.readPages out.bytes = .ok pagesAfter ∧
      pagesAfter.length = pages.length ∧ pagesAfter[index]? = some pageAfter ∧
      (∀ history response, (overlayTemplatePngForPage site single args).Finishes history response ↔
        ∃ image, (pageImage site.toApplication shown false).Finishes history image ∧
          response = image.mapError .render) ∧
      (shown = pageAfter ↔ ¬ (isAnAttachment args ∧ index = 0)) ∧
      (shown = pageAfter → ∀ history png,
        (overlayTemplatePngForPage site single args).Finishes history (.ok png) ↔
          (viewPrecompiledLetter site.toApplication encoded (some (index + 1)) none).Finishes history (.ok png)) := by
  have readAfter := overlayTemplatePdf_eq_ok lawful read drawn
  have foundAfter : (pages.mapIdx fun index page => inRed page (index == 0))[index]? =
      some (inRed page (index == 0)) := by simp [List.getElem?_mapIdx, found]
  have alonePng := overlayTemplatePngForPage_eq lawful reliable posted alone asks
  refine ⟨inRed page (index == 0 && !isAnAttachment args), _, _, readAfter, List.length_mapIdx, foundAfter,
    fun history response => ?_, ?_, fun same history png => ?_⟩
  · rw [alonePng, Program.finishes_map_iff]
  · rw [(inRed_injective page).eq_iff]
    cases isAnAttachment args <;> simp
  · rw [alonePng, viewPrecompiledLetter_eq sent encodes readAfter foundAfter, Program.finishes_map_iff,
      Program.finishes_map_iff, same]
    refine exists_congr fun image => and_congr_right fun _ => ?_
    rw [ok_eq_mapError, ok_eq_catchMissingDelegate]

end Drawing

/-! ## A letter of two pages -/

section InMemory
open InMemoryLibraries

def bytesOf (text : String) : Bytes := text.toList.map fun character => UInt8.ofNat character.toNat

theorem digits_are_bytes {character : Char} (digit : character = '=' ∨ character ∈ Base64.alphabet) :
    Char.ofNat (UInt8.ofNat character.toNat).toNat = character := by
  have every : (Base64.alphabet.all fun letter => Char.ofNat (UInt8.ofNat letter.toNat).toNat == letter) = true := by
    decide
  rcases digit with rfl | member
  · rfl
  · exact eq_of_beq (List.all_eq_true.mp every character member)

theorem digit_mem_alphabet (value : ℕ) : Base64.digit value ∈ Base64.alphabet := by
  rw [Base64.digit, List.getD_eq_getElem?_getD]
  cases found : Base64.alphabet[value]? with
  | none => decide
  | some character => exact List.mem_of_getElem? found

theorem mem_encodeBytes {bytes : Bytes} {character : Char} (member : character ∈ Base64.encodeBytes bytes) :
    character = '=' ∨ character ∈ Base64.alphabet := by
  fun_induction Base64.encodeBytes bytes with
  | case1 a b c rest ih =>
    simp only [List.mem_cons] at member
    rcases member with rfl | rfl | rfl | rfl | inside
    · exact .inr (digit_mem_alphabet _)
    · exact .inr (digit_mem_alphabet _)
    · exact .inr (digit_mem_alphabet _)
    · exact .inr (digit_mem_alphabet _)
    · exact ih inside
  | case2 a b =>
    simp only [List.mem_cons, List.not_mem_nil, or_false] at member
    rcases member with rfl | rfl | rfl | rfl
    · exact .inr (digit_mem_alphabet _)
    · exact .inr (digit_mem_alphabet _)
    · exact .inr (digit_mem_alphabet _)
    · exact .inl rfl
  | case3 a =>
    simp only [List.mem_cons, List.not_mem_nil, or_false] at member
    rcases member with rfl | rfl | rfl | rfl
    · exact .inr (digit_mem_alphabet _)
    · exact .inr (digit_mem_alphabet _)
    · exact .inl rfl
    · exact .inl rfl
  | case4 => cases member

/-- What was encoded is decoded by `base64.decodebytes` as well. -/
theorem decodebytes_b64encode (bytes : Bytes) : decodebytes (bytesOf (Base64.b64encode bytes)) = .ok bytes := by
  have same : ((bytesOf (Base64.b64encode bytes)).map fun byte => Char.ofNat byte.toNat) =
      (Base64.b64encode bytes).toList := by
    rw [bytesOf, List.map_map, Base64.b64encode, String.toList_ofList]
    exact (List.map_congr_left fun character member => digits_are_bytes (mem_encodeBytes member)).trans
      (List.map_id _)
  rw [decodebytes, same]
  exact Base64.b64decode_b64encode bytes

/-- A site that reads the numbers one and two. -/
def numberedSite : Site ℚ (List (Word ℚ)) String :=
  { site with int := fun text => if text = "1" then .ok 1 else if text = "2" then .ok 2 else site.int text }

def secondPage : List (String × String) := [("page_number", "2")]

theorem secondPage_asks : AsksForPage numberedSite secondPage 1 where
  numbered := ⟨"2", rfl, rfl⟩
  unmarked := rfl

theorem readPages_nil : libraries.readPages [] = .ok [] := by
  rw [readPages_eq, readDocument, decodePages_nil]

theorem second_page_overlaid : ∃ out : MemoryFile,
    (overlayTemplatePdf numberedSite (encodePages [blankPage, blankPage]) []).Finishes [] (.ok out) ∧
    ∀ history png,
      (overlayTemplatePngForPage numberedSite (encodePages [blankPage]) secondPage).Finishes history (.ok png) ↔
        (viewPrecompiledLetter application (bytesOf (Base64.b64encode out.bytes)) (some 2) none).Finishes history
          (.ok png) := by
  have lawful : numberedSite.lib.Lawful render := InMemoryLibraries.lawful
  have read : numberedSite.lib.readPages (encodePages [blankPage, blankPage]) = .ok [blankPage, blankPage] :=
    readPages_encodePages _
  obtain ⟨out, drawn⟩ := overlayTemplatePdf_returns lawful reliable (encodePages_ne_nil (by simp)) read
  have readAfter := overlayTemplatePdf_eq_ok lawful read drawn
  have sent : bytesOf (Base64.b64encode out.bytes) ≠ [] := by
    intro empty
    have decoded := decodebytes_b64encode out.bytes
    rw [empty] at decoded
    have nothing : out.bytes = [] := (Except.ok.inj decoded).symm
    rw [nothing] at readAfter
    cases readPages_nil.symm.trans readAfter
  obtain ⟨shown, pageAfter, _, _, _, _, _, same, agree⟩ := overlays_agree lawful reliable drawn sent
    (decodebytes_b64encode out.bytes) read rfl (encodePages_ne_nil (by simp)) (readPages_encodePages [blankPage])
    secondPage_asks
  exact ⟨out, drawn, agree (same.mpr (by simp))⟩

end InMemory

end TemplatePreview.OverlayPreviews
