import TemplatePreview.Overlays
import TemplatePreview.InMemoryLibraries
import Mathlib.Algebra.Order.Group.Abs

/-! The three checks a document must pass: the size and orientation of every
page, nothing but white outside the printable areas, and no tag that marks the
start of another letter. The first check that some page fails is reported, with
the numbers of the pages that fail it. -/
namespace TemplatePreview.PageValidation
open Region PageLayout Pdf Outcomes Overlays TextExtraction

variable {K σ : Type} [Field K] [LinearOrder K]

/-! ## Size and orientation -/

/-- `math.isclose` with its default relative tolerance. -/
def isclose (a b absTol : K) : Bool := |a - b| ≤ max (1e-9 * max |a| |b|) absTol

/-- `_is_page_A4_portrait`. -/
def isPageA4Portrait (pageHeight pageWidth : K) (rotation : RotateEntry) : Bool :=
  if isclose pageHeight a4Height 2 && isclose pageWidth 210 2 then
    decide (rotation ∈ [.number 0, .number 180, .none])
  else if isclose pageWidth a4Height 2 && isclose pageHeight 210 2 then
    decide (rotation ∈ [.number 90, .number 270])
  else false

def pageHeight (page : Page K σ) : K := (page.mediabox.y1 - page.mediabox.y0) / mm
def pageWidth (page : Page K σ) : K := (page.mediabox.x1 - page.mediabox.x0) / mm

/-- Whether a page passes `_is_page_A4_portrait`. -/
def Page.isA4Portrait (page : Page K σ) : Bool :=
  isPageA4Portrait (pageHeight page) (pageWidth page) page.getRotate

section Size
variable [IsStrictOrderedRing K]

/-- For lengths of a page the relative tolerance never decides. -/
theorem isclose_iff {a b : K} (positive : 0 ≤ b) (small : b ≤ 1000) : isclose a b 2 ↔ |a - b| ≤ 2 := by
  simp only [isclose, decide_eq_true_eq, le_max_iff]
  refine ⟨fun close => close.elim (fun relative => ?_) id, .inr⟩
  have size : |a| ≤ |a - b| + b := by
    calc |a| = |(a - b) + b| := by rw [sub_add_cancel]
      _ ≤ |a - b| + |b| := abs_add_le _ _
      _ = |a - b| + b := by rw [abs_of_nonneg positive]
  have larger : max |a| |b| ≤ |a - b| + b := by
    apply max_le size
    rw [abs_of_nonneg positive]
    exact le_add_of_nonneg_left (abs_nonneg _)
  have bound : |a - b| ≤ 1e-9 * (|a - b| + b) :=
    relative.trans (mul_le_mul_of_nonneg_left larger (by norm_num))
  norm_num at bound
  linarith

/-- The sizes and rotations that are accepted. -/
theorem isPageA4Portrait_iff {height width : K} {rotation : RotateEntry} :
    isPageA4Portrait height width rotation ↔
      (|height - 297| ≤ 2 ∧ |width - 210| ≤ 2 ∧
        (rotation = .none ∨ rotation = .number 0 ∨ rotation = .number 180)) ∨
      (|width - 297| ≤ 2 ∧ |height - 210| ≤ 2 ∧ (rotation = .number 90 ∨ rotation = .number 270)) := by
  have tall : (a4Height : K) = 297 := by norm_num
  have overlap : |height - 297| ≤ 2 → ¬ |height - 210| ≤ 2 := by
    intro first second
    rw [abs_le] at first second
    linarith [first.1, second.2]
  unfold isPageA4Portrait
  rw [tall]
  simp only [Bool.and_eq_true, isclose_iff (K := K) (by norm_num : (0 : K) ≤ 297) (by norm_num),
    isclose_iff (K := K) (by norm_num : (0 : K) ≤ 210) (by norm_num)]
  split
  · rename_i portrait
    simp only [portrait.1, portrait.2, true_and, overlap portrait.1, false_and, and_false, or_false,
      decide_eq_true_eq, List.mem_cons, List.not_mem_nil]
    tauto
  · rename_i notPortrait
    split
    · rename_i landscape
      simp only [landscape.1, landscape.2, true_and, decide_eq_true_eq, List.mem_cons, List.not_mem_nil,
        or_false]
      tauto
    · simp only [Bool.false_eq_true, false_iff]
      tauto

/-- The pages that are accepted. One whose rotation is referred to never is. -/
theorem isA4Portrait_iff {page : Page K σ} : Page.isA4Portrait page ↔ page.rotateIsIndirect = false ∧
    ((|pageHeight page - 297| ≤ 2 ∧ |pageWidth page - 210| ≤ 2 ∧
        (page.rotate = none ∨ page.rotate = some 0 ∨ page.rotate = some 180)) ∨
      (|pageWidth page - 297| ≤ 2 ∧ |pageHeight page - 210| ≤ 2 ∧
        (page.rotate = some 90 ∨ page.rotate = some 270))) := by
  rw [Page.isA4Portrait, isPageA4Portrait_iff]
  simp only [Page.getRotate_eq_none, Page.getRotate_eq_number]
  tauto

end Size

/-- `_get_pages_with_invalid_orientation_or_size`. -/
def getPagesWithInvalidOrientationOrSize (lib : Libraries K σ) (srcPdf : MemoryFile) :
    Py (List Nat × MemoryFile) := do
  let pages ← call (lib.readPages srcPdf.bytes)
  let invalidPages := pages.zipIdx.flatMap fun (page, pageNum) =>
    if Page.isA4Portrait page then [] else [pageNum + 1]
  return (invalidPages, lib.leave .pypdf srcPdf)

/-! ## Printable areas -/

/-- `str(colour)` of a tuple of three numbers. -/
def colourText (colour : Rgb) : String :=
  "(" ++ toString colour.1.toNat ++ ", " ++ toString colour.2.1.toNat ++ ", " ++
    toString colour.2.2.toNat ++ ")"

/-- The loop over the colours of page `i`. An image of very many colours has no
list of them. -/
def outOfBounds (lib : Libraries K σ) (image : Image) (i : Nat) : List Nat :=
  match lib.getcolors image with
  | none => [i]
  | some colours => if colours.any fun colour => colourText colour.2 ≠ "(255, 255, 255)" then [i] else []

/-- `_get_out_of_bounds_pages`, read to its end. -/
def getOutOfBoundsPages (lib : Libraries K σ) (srcPdfBytes : MemoryFile) : Py (List Nat × MemoryFile) := do
  let images ← call (lib.convertFromBytes srcPdfBytes.read.1)
  let invalidPages := (images.zipIdx 1).flatMap fun (image, i) => outOfBounds lib image i
  return (invalidPages, srcPdfBytes.read.2.seek 0)

/-! ## Tags -/

/-- The page in the list of pages with a tag, if it has one. -/
def tagReport (lib : Libraries K σ) (page : Page K σ × Nat) : Py (List Nat) := do
  let text ← extractTextFromPage lib page.1 notifyTagBoundingBox
  return if text = "NOTIFY" then [page.2 + 1] else []

/-- `_get_pages_with_notify_tag`. -/
def getPagesWithNotifyTag (lib : Libraries K σ) (srcPdfBytes : MemoryFile) (isAnAttachment : Bool) :
    Py (List Nat × MemoryFile) := do
  let srcPdfBytes := srcPdfBytes.seek 0
  let doc ← call (lib.openDocument srcPdfBytes.bytes)
  let srcPdfBytes := lib.leave .pymupdf srcPdfBytes
  let startingPageIndex := if isAnAttachment then 0 else 1
  if doc.length = startingPageIndex then
    return ([], srcPdfBytes.seek 0)
  else
    let pages ← call (lib.documentPages doc startingPageIndex)
    let invalidPages ← pages.mapM (tagReport lib)
    return (invalidPages.flatten, srcPdfBytes.seek 0)

/-- `get_invalid_pages_with_message`: the message with the pages, and the file it
was given. -/
def getInvalidPagesWithMessage (lib : Libraries K σ) (srcPdf : MemoryFile) (isAnAttachment : Bool) :
    Py ((String × List Nat) × MemoryFile) := do
  let (invalidPages, srcPdf) ← getPagesWithInvalidOrientationOrSize lib srcPdf
  if 0 < invalidPages.length then
    return (("letter-not-a4-portrait-oriented", invalidPages), srcPdf)
  else
    let (pdfToValidate, srcPdf) ← overlayPrintableAreasWithWhite lib srcPdf isAnAttachment
    let (invalidPages, pdfToValidate) ← getOutOfBoundsPages lib pdfToValidate
    if 0 < invalidPages.length then
      return (("content-outside-printable-area", invalidPages), srcPdf)
    else
      let (invalidPages, _) ← getPagesWithNotifyTag lib pdfToValidate isAnAttachment
      if 0 < invalidPages.length then
        return (("notify-tag-found-in-content", invalidPages), srcPdf)
      else
        return (("", []), srcPdf)

/-! ## What the checks decide -/

/-- The numbers of the pages that fail, from one on, in increasing order. -/
def NumbersOf (fails : Nat → α → Prop) (pages : List α) (numbers : List Nat) : Prop :=
  numbers.Pairwise (· < ·) ∧
    ∀ number, number ∈ numbers ↔ ∃ index page, pages[index]? = some page ∧ fails index page ∧ number = index + 1

/-- No numbers are reported exactly when no page fails. -/
theorem numbersOf_nil {fails : Nat → α → Prop} {pages : List α} {numbers : List Nat}
    (exact : NumbersOf fails pages numbers) :
    numbers = [] ↔ ∀ index page, pages[index]? = some page → ¬ fails index page := by
  constructor
  · rintro rfl index page found failed
    exact absurd ((exact.2 (index + 1)).mpr ⟨index, page, found, failed, rfl⟩) (by simp)
  · intro pass
    apply List.eq_nil_iff_forall_not_mem.mpr
    intro number member
    obtain ⟨index, page, found, failed, _⟩ := (exact.2 number).mp member
    exact pass index page found failed

private theorem mem_numbers {fails : Nat → α → Prop} {pages : List α} {numbers : List Nat} {index : Nat} {page : α}
    (exact : NumbersOf fails pages numbers) (found : pages[index]? = some page) :
    index + 1 ∈ numbers ↔ fails index page := by
  rw [exact.2]
  constructor
  · rintro ⟨other, otherPage, otherFound, failed, same⟩
    cases Nat.succ.inj same
    rw [found] at otherFound
    cases otherFound
    exact failed
  · exact fun failed => ⟨index, page, found, failed, rfl⟩

/-- The numbers of the pages that fail are those of the pages that fail in another
way exactly when the two agree on every page. -/
theorem numbersOf_iff {fails others : Nat → α → Prop} {pages : List α} {numbers : List Nat}
    (exact : NumbersOf fails pages numbers) :
    NumbersOf others pages numbers ↔
      ∀ index page, pages[index]? = some page → (fails index page ↔ others index page) := by
  constructor
  · intro again index page found
    rw [← mem_numbers exact found, mem_numbers again found]
  · intro agree
    refine ⟨exact.1, fun number => (exact.2 number).trans ?_⟩
    constructor
    · rintro ⟨index, page, found, failed, same⟩
      exact ⟨index, page, found, (agree index page found).mp failed, same⟩
    · rintro ⟨index, page, found, failed, same⟩
      exact ⟨index, page, found, (agree index page found).mpr failed, same⟩

/-- Page numbers are determined by the pages they name. -/
theorem numbers_unique {fails : Nat → α → Prop} {pages : List α} {one other : List Nat}
    (first : NumbersOf fails pages one) (second : NumbersOf fails pages other) : one = other := by
  have same : ∀ number, number ∈ one ↔ number ∈ other := fun number =>
    (first.2 number).trans (second.2 number).symm
  have perm : one.Perm other :=
    (List.perm_ext_iff_of_nodup (first.1.imp Nat.ne_of_lt) (second.1.imp Nat.ne_of_lt)).mpr same
  exact perm.eq_of_pairwise (fun _ _ _ _ less more => absurd less (Nat.lt_asymm more)) first.1 second.1

private theorem mem_drop_zipIdx {pages : List α} {start index : Nat} {page : α} :
    (page, index) ∈ pages.zipIdx.drop start ↔ start ≤ index ∧ pages[index]? = some page := by
  simp only [List.mem_iff_getElem?, List.getElem?_drop, List.getElem?_zipIdx, Option.map_eq_some_iff,
    Prod.mk.injEq, Nat.zero_add]
  constructor
  · rintro ⟨offset, other, found, rfl, rfl⟩
    exact ⟨Nat.le_add_right _ _, found⟩
  · rintro ⟨after, found⟩
    have reached : start + (index - start) = index := Nat.add_sub_cancel' after
    exact ⟨index - start, page, by rwa [reached], rfl, reached⟩

private theorem drop_zipIdx_increasing (pages : List α) (start : Nat) :
    (pages.zipIdx.drop start).Pairwise fun one other => one.2 < other.2 := by
  have increasing : (pages.zipIdx.map Prod.snd).Pairwise (· < ·) := by
    rw [List.zipIdx_map_snd]
    exact List.pairwise_lt_range'
  exact (List.pairwise_map.mp increasing).sublist (List.drop_sublist _ _)

/-- A loop from page `start` on that reports the number of each failing page. -/
theorem numbersOf_flatMap {fails : Nat → α → Prop} {pages : List α} {report : α × Nat → List Nat} (start : Nat)
    (reports : ∀ index page, start ≤ index → pages[index]? = some page →
      (fails index page ∧ report (page, index) = [index + 1]) ∨
      (¬ fails index page ∧ report (page, index) = []))
    (before : ∀ index page, index < start → ¬ fails index page) :
    NumbersOf fails pages ((pages.zipIdx.drop start).flatMap report) := by
  have reported : ∀ item ∈ pages.zipIdx.drop start, ∀ number ∈ report item,
      number = item.2 + 1 ∧ fails item.2 item.1 := by
    rintro ⟨page, index⟩ member number inReport
    obtain ⟨after, found⟩ := mem_drop_zipIdx.mp member
    rcases reports index page after found with ⟨failed, same⟩ | ⟨_, same⟩
    · rw [same, List.mem_singleton] at inReport
      exact ⟨inReport, failed⟩
    · simp [same] at inReport
  constructor
  · refine List.pairwise_flatMap.mpr ⟨?_, ?_⟩
    · rintro ⟨page, index⟩ member
      obtain ⟨after, found⟩ := mem_drop_zipIdx.mp member
      rcases reports index page after found with ⟨_, same⟩ | ⟨_, same⟩ <;> simp [same]
    · apply (drop_zipIdx_increasing pages start).imp_of_mem
      intro one other oneMember otherMember less low lowReported high highReported
      rw [(reported one oneMember low lowReported).1, (reported other otherMember high highReported).1]
      exact Nat.succ_lt_succ less
  · intro number
    rw [List.mem_flatMap]
    constructor
    · rintro ⟨⟨page, index⟩, member, inReport⟩
      obtain ⟨same, failed⟩ := reported _ member number inReport
      exact ⟨index, page, (mem_drop_zipIdx.mp member).2, failed, same⟩
    · rintro ⟨index, page, found, failed, rfl⟩
      have after : start ≤ index := Nat.le_of_not_lt fun early => before index page early failed
      refine ⟨(page, index), mem_drop_zipIdx.mpr ⟨after, found⟩, ?_⟩
      rcases reports index page after found with ⟨_, same⟩ | ⟨pass, _⟩
      · simp [same]
      · exact absurd failed pass

/-- The decimal digits of one component. -/
private theorem component_text : ∀ n < 256, ',' ∉ (toString n : String).toList ∧
    ')' ∉ (toString n : String).toList ∧ ((toString n : String).toList = ['2', '5', '5'] → n = 255) := by
  decide +kernel

theorem split_at_first {separator : α} {left right before after : List α} (leftClean : separator ∉ left)
    (rightClean : separator ∉ right) (same : left ++ separator :: before = right ++ separator :: after) :
    left = right ∧ before = after := by
  induction left generalizing right with
  | nil =>
    cases right with
    | nil => simpa using same
    | cons other rest =>
      simp only [List.nil_append, List.cons_append, List.cons.injEq] at same
      simp [same.1] at rightClean
  | cons head tail ih =>
    cases right with
    | nil =>
      simp only [List.nil_append, List.cons_append, List.cons.injEq] at same
      simp [same.1] at leftClean
    | cons other rest =>
      simp only [List.cons_append, List.cons.injEq, List.mem_cons, not_or] at same leftClean rightClean
      obtain ⟨eq, restEq⟩ := ih leftClean.2 rightClean.2 same.2
      exact ⟨by rw [same.1, eq], restEq⟩

private theorem component_split {component : UInt8} {separator : Char} {before after : List Char}
    (stops : separator = ',' ∨ separator = ')')
    (same : (toString component.toNat : String).toList ++ separator :: before =
      ['2', '5', '5'] ++ separator :: after) : component = 255 ∧ before = after := by
  have text := component_text component.toNat component.toNat_lt
  have clean : separator ∉ (toString component.toNat : String).toList := by
    rcases stops with rfl | rfl
    · exact text.1
    · exact text.2.1
  obtain ⟨digits, rest⟩ := split_at_first clean (by rcases stops with rfl | rfl <;> decide) same
  exact ⟨UInt8.toNat_inj.mp (text.2.2 digits), rest⟩

/-- A colour is printed as three white components only when it is white. -/
theorem colourText_eq_white {colour : Rgb} : colourText colour = "(255, 255, 255)" ↔ colour = (255, 255, 255) := by
  constructor
  · obtain ⟨red, green, blue⟩ := colour
    intro same
    have characters : '(' :: ((toString red.toNat).toList ++ ',' :: ' ' ::
        ((toString green.toNat).toList ++ ',' :: ' ' :: ((toString blue.toNat).toList ++ [')']))) =
        '(' :: (['2', '5', '5'] ++ ',' :: ' ' :: (['2', '5', '5'] ++ ',' :: ' ' ::
          (['2', '5', '5'] ++ [')']))) := by
      simpa [colourText] using congrArg String.toList same
    obtain ⟨redWhite, afterRed⟩ := component_split (.inl rfl) (List.cons.inj characters).2
    obtain ⟨greenWhite, afterGreen⟩ := component_split (.inl rfl) (List.cons.inj afterRed).2
    obtain ⟨blueWhite, _⟩ := component_split (.inr rfl) (List.cons.inj afterGreen).2
    rw [redWhite, greenWhite, blueWhite]
  · rintro rfl
    decide +kernel

/-! ## Each check on its own -/

section Checks
variable {lib : Libraries K σ} {render : Page K σ → Image} {file after : MemoryFile} {pages : List (Page K σ)}
  {numbers : List Nat} {isAnAttachment : Bool}

theorem getPagesWithInvalidOrientationOrSize_eq_ok
    (checked : getPagesWithInvalidOrientationOrSize lib file = .ok (numbers, after)) :
    after = lib.leave .pypdf file ∧ ∃ pages, lib.readPages file.bytes = .ok pages ∧
      NumbersOf (fun _ page => ¬ Page.isA4Portrait page) pages numbers := by
  obtain ⟨pages, read, checked⟩ := bind_eq_ok.mp checked
  cases checked
  refine ⟨rfl, pages, call_eq_ok.mp read, ?_⟩
  refine numbersOf_flatMap 0 (fun index page _ _ => ?_) (fun _ _ early => absurd early (by simp))
  cases passes : Page.isA4Portrait page <;> simp [passes]

omit [Field K] [LinearOrder K] in
/-- A page is out of bounds when some pixel of its image is not white. -/
theorem outOfBounds_eq (lawful : lib.Lawful render) (page : Page K σ) (i : Nat) :
    ((∃ colour ∈ render page, colour ≠ (255, 255, 255)) ∧ outOfBounds lib (render page) i = [i]) ∨
    (¬ (∃ colour ∈ render page, colour ≠ (255, 255, 255)) ∧ outOfBounds lib (render page) i = []) := by
  unfold outOfBounds
  cases colours : lib.getcolors (render page) with
  | none =>
    refine .inl ⟨?_, rfl⟩
    by_contra white
    have many := (lawful.manyColours _).mp colours
    have single : (render page).toFinset ⊆ {(255, 255, 255)} := by
      intro colour member
      by_contra different
      exact white ⟨colour, List.mem_toFinset.mp member, fun same => different (by simp [same])⟩
    have few := Finset.card_le_card single
    simp only [Finset.card_singleton] at few
    omega
  | some counts =>
    have listed := lawful.colours colours
    have found : (counts.any fun colour => colourText colour.2 ≠ "(255, 255, 255)") = true ↔
        ∃ colour ∈ render page, colour ≠ (255, 255, 255) := by
      simp only [List.any_eq_true, decide_eq_true_eq, Ne, colourText_eq_white]
      constructor
      · rintro ⟨⟨count, colour⟩, member, different⟩
        exact ⟨colour, (listed colour).mpr ⟨count, member⟩, different⟩
      · rintro ⟨colour, member, different⟩
        obtain ⟨count, counted⟩ := (listed colour).mp member
        exact ⟨(count, colour), counted, different⟩
    rw [← found]
    by_cases outside : (counts.any fun colour => colourText colour.2 ≠ "(255, 255, 255)") = true
    · exact .inl ⟨outside, if_pos outside⟩
    · exact .inr ⟨outside, if_neg outside⟩

omit [Field K] [LinearOrder K] in
theorem getOutOfBoundsPages_eq_ok (lawful : lib.Lawful render) (start : file.position = 0)
    (read : lib.readPages file.bytes = .ok pages)
    (checked : getOutOfBoundsPages lib file = .ok (numbers, after)) :
    after = file.seek 0 ∧
      NumbersOf (fun _ page => ∃ colour ∈ render page, colour ≠ (255, 255, 255)) pages numbers := by
  obtain ⟨images, rendered, checked⟩ := bind_eq_ok.mp checked
  rw [MemoryFile.read_start file start, call_eq_ok] at rendered
  cases checked
  refine ⟨rfl, ?_⟩
  rw [lawful.rendered read rendered, List.zipIdx_succ, List.zipIdx_map, List.map_map, List.flatMap_map]
  exact numbersOf_flatMap 0 (fun index page _ _ => outOfBounds_eq lawful page (index + 1))
    (fun _ _ early => absurd early (by simp))

/-- Whether the text of the tag box of a page is the tag. -/
def BearsTag (lib : Libraries K σ) (page : Page K σ) : Prop :=
  extractTextFromPage lib page notifyTagBoundingBox = .ok "NOTIFY"

theorem getPagesWithNotifyTag_eq_ok (lawful : lib.Lawful render)
    (read : lib.readPages file.bytes = .ok pages)
    (checked : getPagesWithNotifyTag lib file isAnAttachment = .ok (numbers, after)) :
    NumbersOf (fun index page => ¬ isAddressPage isAnAttachment index ∧ BearsTag lib page) pages numbers := by
  have skipped : ∀ index, isAddressPage isAnAttachment index ↔ index < if isAnAttachment then 0 else 1 := by
    intro index
    cases isAnAttachment <;> simp [isAddressPage]
  obtain ⟨doc, opened, checked⟩ := bind_eq_ok.mp checked
  rw [lawful.opened read (call_eq_ok.mp opened)] at checked
  simp only [skipped, Nat.not_lt]
  dsimp only at checked
  generalize (if isAnAttachment then 0 else 1) = start at checked ⊢
  by_cases short : pages.length = start
  · rw [if_pos short] at checked
    cases checked
    refine ⟨List.Pairwise.nil, fun number => ?_⟩
    simp only [List.not_mem_nil, false_iff]
    rintro ⟨index, page, found, ⟨later, _⟩, _⟩
    have bound := (List.getElem?_eq_some_iff.mp found).1
    omega
  · rw [if_neg short] at checked
    obtain ⟨numbered, listed, checked⟩ := bind_eq_ok.mp checked
    obtain ⟨reports, looped, checked⟩ := bind_eq_ok.mp checked
    cases checked
    classical
    have reported : reports = numbered.map fun item =>
        if BearsTag lib item.1 then [item.2 + 1] else [] := by
      apply mapM_eq_ok _ looped
      intro item _ result outcome
      obtain ⟨text, extracted, outcome⟩ := bind_eq_ok.mp outcome
      cases outcome
      by_cases tag : text = "NOTIFY" <;> simp [BearsTag, extracted, tag]
    rw [reported, ← List.flatMap_def, lawful.numbered (call_eq_ok.mp listed)]
    refine numbersOf_flatMap start (fun index page later _ => ?_) (fun index page early failed => ?_)
    · by_cases tag : BearsTag lib page <;> simp [tag, later]
    · exact absurd failed.1 (Nat.not_le_of_lt early)

theorem getPagesWithNotifyTag_returns (lawful : lib.Lawful render) (reliable : lib.Reliable)
    (isAnAttachment : Bool) (read : lib.readPages file.bytes = .ok pages) (nonempty : pages ≠ []) :
    Returns (getPagesWithNotifyTag lib file isAnAttachment) := by
  obtain ⟨doc, opened⟩ := reliable.openDocument read
  have same := lawful.opened read opened
  subst same
  unfold getPagesWithNotifyTag
  simp only [MemoryFile.seek_bytes, opened, call_ok, ok_bind]
  have positive : 0 < doc.length := List.length_pos_iff.mpr nonempty
  have first : (if isAnAttachment then 0 else 1) ≤ 1 := by cases isAnAttachment <;> simp
  generalize (if isAnAttachment then 0 else 1) = start at first ⊢
  by_cases short : doc.length = start
  · exact ⟨_, if_pos short⟩
  · rw [if_neg short]
    obtain ⟨numbered, listed⟩ := reliable.documentPages doc start (by omega)
    rw [listed, call_ok, ok_bind]
    refine (Returns.mapM fun item _ => ?_).bind fun reports _ => ⟨_, rfl⟩
    obtain ⟨words, found⟩ := reliable.getTextWords item.1
    exact ⟨_, by rw [tagReport, extractTextFromPage_ok reliable found]; rfl⟩

end Checks

/-! ## The verdict -/

/-- The three checks, in the order they are made. -/
inductive Check where
  | orientationAndSize
  | printableArea
  | notifyTag
  deriving DecidableEq, Repr

def Check.message : Check → String
  | orientationAndSize => "letter-not-a4-portrait-oriented"
  | printableArea => "content-outside-printable-area"
  | notifyTag => "notify-tag-found-in-content"

def Check.earlier : Check → List Check
  | orientationAndSize => []
  | printableArea => [.orientationAndSize]
  | notifyTag => [.orientationAndSize, .printableArea]

section Verdict
variable (lib : Libraries K σ) (render : Page K σ → Image) (isAnAttachment : Bool)

/-- The page as the last two checks see it. -/
def underOverlay (index : Nat) (page : Page K σ) : Page K σ :=
  page.merge (whiteOverlay (isAddressPage isAnAttachment index))

/-- What a check asks of the page at an index. -/
def Passes (index : Nat) (page : Page K σ) : Check → Prop
  | .orientationAndSize => Page.isA4Portrait page
  | .printableArea => ∀ colour ∈ render (underOverlay isAnAttachment index page), colour = (255, 255, 255)
  | .notifyTag => isAddressPage isAnAttachment index ∨ ¬ BearsTag lib (underOverlay isAnAttachment index page)

def AllPass (pages : List (Page K σ)) (check : Check) : Prop :=
  ∀ index page, pages[index]? = some page → Passes lib render isAnAttachment index page check

/-- The check fails on some page and every check before it passes on all pages. -/
def FirstFailed (pages : List (Page K σ)) (check : Check) : Prop :=
  ¬ AllPass lib render isAnAttachment pages check ∧
    ∀ earlier ∈ check.earlier, AllPass lib render isAnAttachment pages earlier

/-- A message and page numbers that say which check failed and where. -/
structure Verdict (pages : List (Page K σ)) (message : String) (invalidPages : List Nat) : Prop where
  accepts : message = "" ∧ invalidPages = [] ↔ ∀ check, AllPass lib render isAnAttachment pages check
  blames : ∀ check, FirstFailed lib render isAnAttachment pages check → message = check.message ∧
    NumbersOf (fun index page => ¬ Passes lib render isAnAttachment index page check) pages invalidPages

end Verdict

section Validation
variable {lib : Libraries K σ} {render : Page K σ → Image} {file after : MemoryFile} {pages : List (Page K σ)}
  {message : String} {invalidPages : List Nat} {isAnAttachment : Bool}

/-- Once one check has reported pages and those before it have passed, the
verdict is settled. -/
private theorem verdict_of_first (check : Check)
    (earlier : ∀ other ∈ check.earlier, AllPass lib render isAnAttachment pages other)
    (numbers : NumbersOf (fun index page => ¬ Passes lib render isAnAttachment index page check)
      pages invalidPages)
    (some : 0 < invalidPages.length) : Verdict lib render isAnAttachment pages check.message invalidPages := by
  have nonempty : invalidPages ≠ [] := List.ne_nil_of_length_pos some
  have failed : ¬ AllPass lib render isAnAttachment pages check := fun pass =>
    nonempty ((numbersOf_nil numbers).mpr fun index page found => not_not_intro (pass index page found))
  refine ⟨⟨fun accepted => absurd accepted.2 nonempty, fun all => absurd (all check) failed⟩, ?_⟩
  intro other first
  -- two checks that fail first are the same check
  have same : other = check := by
    have notBefore : other ∉ check.earlier := fun member => first.1 (earlier other member)
    have notAfter : check ∉ other.earlier := fun member => failed (first.2 check member)
    cases other <;> cases check <;> simp_all [Check.earlier]
  subst same
  exact ⟨rfl, numbers⟩

private theorem allPass_of_no_numbers (check : Check)
    (numbers : NumbersOf (fun index page => ¬ Passes lib render isAnAttachment index page check)
      pages invalidPages)
    (none : ¬ 0 < invalidPages.length) : AllPass lib render isAnAttachment pages check := by
  have empty : invalidPages = [] := List.eq_nil_of_length_eq_zero (Nat.eq_zero_of_not_pos none)
  exact fun index page found => not_not.mp ((numbersOf_nil numbers).mp empty index page found)

private theorem numbersOf_overlaid {fails : Nat → Page K σ → Prop}
    (numbers : NumbersOf fails (overlaid isAnAttachment pages) invalidPages) :
    NumbersOf (fun index page => fails index (underOverlay isAnAttachment index page)) pages invalidPages := by
  refine ⟨numbers.1, fun number => (numbers.2 number).trans ?_⟩
  simp only [overlaid, List.getElem?_mapIdx, Option.map_eq_some_iff, underOverlay]
  constructor
  · rintro ⟨index, _, ⟨page, found, rfl⟩, failed, rfl⟩
    exact ⟨index, page, found, failed, rfl⟩
  · rintro ⟨index, page, found, failed, rfl⟩
    exact ⟨index, _, ⟨page, found, rfl⟩, failed, rfl⟩

/-- Whatever validation returns is the verdict on the pages of the file. The
file keeps its bytes, and is back at its start when nothing is reported. -/
theorem getInvalidPagesWithMessage_eq_ok (lawful : lib.Lawful render)
    (validated : getInvalidPagesWithMessage lib file isAnAttachment = .ok ((message, invalidPages), after)) :
    (∃ pages, lib.readPages file.bytes = .ok pages ∧
      Verdict lib render isAnAttachment pages message invalidPages) ∧
    after.bytes = file.bytes ∧ (message = "" → after.position = 0) := by
  obtain ⟨⟨sized, sizedFile⟩, sizeChecked, validated⟩ := bind_eq_ok.mp validated
  obtain ⟨rfl, pages, read, sizeNumbers⟩ := getPagesWithInvalidOrientationOrSize_eq_ok sizeChecked
  dsimp only at validated
  split at validated
  · rename_i some
    cases validated
    exact ⟨⟨pages, read, verdict_of_first .orientationAndSize (by simp [Check.earlier])
      sizeNumbers some⟩, rfl, by simp⟩
  rename_i none
  have portrait : AllPass lib render isAnAttachment pages .orientationAndSize :=
    allPass_of_no_numbers .orientationAndSize sizeNumbers none
  obtain ⟨⟨toValidate, restored⟩, drawn, validated⟩ := bind_eq_ok.mp validated
  obtain ⟨start, rfl, drawnPages, readAgain, readOverlaid⟩ := overlayPrintableAreasWithWhite_eq_ok lawful drawn
  rw [Libraries.leave_bytes, read] at readAgain
  cases readAgain
  obtain ⟨⟨outside, checkedFile⟩, outChecked, validated⟩ := bind_eq_ok.mp validated
  obtain ⟨rfl, outNumbers⟩ := getOutOfBoundsPages_eq_ok lawful start readOverlaid outChecked
  have areaNumbers : NumbersOf (fun index page => ¬ Passes lib render isAnAttachment index page .printableArea)
      pages outside := by
    simpa [Passes] using numbersOf_overlaid outNumbers
  dsimp only at validated
  split at validated
  · rename_i some
    cases validated
    exact ⟨⟨pages, read, verdict_of_first .printableArea (by simpa [Check.earlier] using portrait)
      areaNumbers some⟩, rfl, by simp⟩
  rename_i none
  have inside : AllPass lib render isAnAttachment pages .printableArea :=
    allPass_of_no_numbers .printableArea areaNumbers none
  obtain ⟨⟨tagged, taggedFile⟩, tagChecked, validated⟩ := bind_eq_ok.mp validated
  have tagNumbers : NumbersOf (fun index page => ¬ Passes lib render isAnAttachment index page .notifyTag)
      pages tagged := by
    have numbers := numbersOf_overlaid
      (getPagesWithNotifyTag_eq_ok lawful (by simpa using readOverlaid) tagChecked)
    simpa [Passes, not_or] using numbers
  dsimp only at validated
  split at validated
  · rename_i some
    cases validated
    exact ⟨⟨pages, read, verdict_of_first .notifyTag (by simp [Check.earlier, portrait, inside])
      tagNumbers some⟩, rfl, fun _ => rfl⟩
  rename_i none
  cases validated
  have untagged : AllPass lib render isAnAttachment pages .notifyTag :=
    allPass_of_no_numbers .notifyTag tagNumbers none
  have all : ∀ check, AllPass lib render isAnAttachment pages check := by
    rintro (_ | _ | _)
    · exact portrait
    · exact inside
    · exact untagged
  exact ⟨⟨pages, read, ⟨fun _ => all, fun _ => ⟨rfl, rfl⟩⟩, fun check first => absurd (all check) first.1⟩,
    rfl, fun _ => rfl⟩

/-- Some check fails first unless all pages pass all checks. -/
theorem exists_firstFailed (failed : ¬ ∀ check, AllPass lib render isAnAttachment pages check) :
    ∃ check, FirstFailed lib render isAnAttachment pages check := by
  by_contra none
  have settled (check : Check) (earlier : ∀ other ∈ check.earlier, AllPass lib render isAnAttachment pages other) :
      AllPass lib render isAnAttachment pages check :=
    by_contra fun wrong => none ⟨check, wrong, earlier⟩
  have portrait := settled .orientationAndSize (by simp [Check.earlier])
  have inside := settled .printableArea (by simpa [Check.earlier] using portrait)
  have untagged := settled .notifyTag (by simp [Check.earlier, portrait, inside])
  apply failed
  intro check
  cases check
  · exact portrait
  · exact inside
  · exact untagged

/-- The pages named with a message are pages of the document. -/
theorem Verdict.named_pages (verdict : Verdict lib render isAnAttachment pages message invalidPages)
    (named : message ≠ "") : invalidPages ≠ [] ∧ invalidPages.Pairwise (· < ·) ∧
      ∀ number ∈ invalidPages, 1 ≤ number ∧ number ≤ pages.length := by
  have failed : ¬ ∀ check, AllPass lib render isAnAttachment pages check :=
    fun all => named (verdict.accepts.mpr all).1
  obtain ⟨check, first⟩ := exists_firstFailed failed
  obtain ⟨_, increasing, numbers⟩ := verdict.blames check first
  refine ⟨?_, increasing, fun number member => ?_⟩
  · rintro rfl
    refine first.1 fun index page found => by_contra fun wrong => ?_
    exact absurd ((numbers (index + 1)).mpr ⟨index, page, found, wrong, rfl⟩) (by simp)
  · obtain ⟨index, page, found, _, rfl⟩ := (numbers number).mp member
    have bound := (List.getElem?_eq_some_iff.mp found).1
    omega

/-- Validation of a document with pages does not raise. -/
theorem getInvalidPagesWithMessage_returns (lawful : lib.Lawful render) (reliable : lib.Reliable)
    (isAnAttachment : Bool) (read : lib.readPages file.bytes = .ok pages) (nonempty : pages ≠ []) :
    Returns (getInvalidPagesWithMessage lib file isAnAttachment) := by
  unfold getInvalidPagesWithMessage
  apply Returns.bind ⟨_, by rw [getPagesWithInvalidOrientationOrSize, read]; rfl⟩
  rintro ⟨sized, sizedFile⟩ sizeChecked
  obtain ⟨rfl, _⟩ := getPagesWithInvalidOrientationOrSize_eq_ok sizeChecked
  dsimp only
  split
  · exact ⟨_, rfl⟩
  refine Returns.bind (overlayPrintableAreasWithWhite_returns reliable _ read nonempty) ?_
  rintro ⟨toValidate, restored⟩ drawn
  obtain ⟨start, rfl, drawnPages, readAgain, readOverlaid⟩ := overlayPrintableAreasWithWhite_eq_ok lawful drawn
  rw [Libraries.leave_bytes, read] at readAgain
  cases readAgain
  refine Returns.bind ?_ ?_
  · obtain ⟨images, rendered⟩ := reliable.convert readOverlaid
    exact ⟨_, by rw [getOutOfBoundsPages, MemoryFile.read_start _ start, rendered]; rfl⟩
  rintro ⟨outside, checkedFile⟩ outChecked
  obtain ⟨rfl, _⟩ := getOutOfBoundsPages_eq_ok lawful start readOverlaid outChecked
  dsimp only
  split
  · exact ⟨_, rfl⟩
  refine Returns.bind ?_ fun tagged _ => ?_
  · refine getPagesWithNotifyTag_returns lawful reliable _ (by simpa using readOverlaid) fun empty => nonempty ?_
    exact List.eq_nil_of_length_eq_zero (by simpa [overlaid] using congrArg List.length empty)
  · split <;> exact ⟨_, rfl⟩

/-- Validation accepts a document exactly when all its pages pass all checks, and
otherwise names the first check that some page fails, with exactly the pages
that fail it. It never raises on a document with pages. -/
theorem validation_is_exact (lawful : lib.Lawful render) (reliable : lib.Reliable) (isAnAttachment : Bool)
    (read : lib.readPages file.bytes = .ok pages) (nonempty : pages ≠ []) :
    ∃ message invalidPages after,
      getInvalidPagesWithMessage lib file isAnAttachment = .ok ((message, invalidPages), after) ∧
      (message = "" ∧ invalidPages = [] ↔ ∀ check, AllPass lib render isAnAttachment pages check) ∧
      ∀ check, FirstFailed lib render isAnAttachment pages check → message = check.message ∧
        NumbersOf (fun index page => ¬ Passes lib render isAnAttachment index page check) pages invalidPages := by
  obtain ⟨⟨⟨message, invalidPages⟩, after⟩, validated⟩ :=
    getInvalidPagesWithMessage_returns lawful reliable isAnAttachment read nonempty
  obtain ⟨⟨others, readAgain, verdict⟩, _⟩ := getInvalidPagesWithMessage_eq_ok lawful validated
  rw [read] at readAgain
  cases readAgain
  exact ⟨message, invalidPages, after, validated, verdict.accepts, verdict.blames⟩

section InMemory
open InMemoryLibraries

/-- A page that lies on its side. -/
def widePage : TextPage := { blankPage with mediabox := ⟨0, 0, 297 * mm, 210 * mm⟩ }

theorem second_page_is_named : ∃ after,
    getInvalidPagesWithMessage libraries { bytes := encodePages [blankPage, widePage] } true =
      .ok (("letter-not-a4-portrait-oriented", [2]), after) := by
  have wide : ¬ Passes libraries InMemoryLibraries.render true 1 widePage .orientationAndSize := by
    show ¬ Page.isA4Portrait widePage = true
    decide +kernel
  have upright : Passes libraries InMemoryLibraries.render true 0 blankPage .orientationAndSize := by
    show Page.isA4Portrait blankPage = true
    decide +kernel
  have second : NumbersOf (fun index page =>
      ¬ Passes libraries InMemoryLibraries.render true index page .orientationAndSize) [blankPage, widePage] [2] := by
    refine ⟨by simp, fun number => ⟨fun member => ⟨1, widePage, rfl, wide, by simpa using member⟩, ?_⟩⟩
    rintro ⟨_ | _ | index, page, found, failed, rfl⟩
    · cases found
      exact absurd upright failed
    · simp
    · cases found
  obtain ⟨message, invalidPages, after, validated, _, blames⟩ :=
    validation_is_exact lawful reliable true (readPages_file [blankPage, widePage]) (by simp)
  obtain ⟨rfl, numbers⟩ := blames .orientationAndSize ⟨fun all => wide (all 1 widePage rfl), by simp [Check.earlier]⟩
  exact ⟨after, by rw [validated, numbers_unique numbers second]; rfl⟩

end InMemory

end Validation

end TemplatePreview.PageValidation
