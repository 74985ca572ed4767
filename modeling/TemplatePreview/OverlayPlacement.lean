import TemplatePreview.PageValidation

/-! Where the white overlay of the validator ends up on a page as it is
displayed. The overlay is drawn in the page's own user space as if that were an
unrotated page with its corner at the origin, while the size check looks only at
the lengths of the sides and the rotation. -/
namespace TemplatePreview.OverlayPlacement
open Region PageLayout Pdf Overlays PageValidation

variable {K σ : Type} [Field K] [LinearOrder K]

/-- The size of the displayed page: the box turned clockwise by the rotation. -/
def displayedSize (page : Page K σ) : K × K :=
  match page.rotate with
  | some 90 | some 270 => (pageHeight page, pageWidth page)
  | _ => (pageWidth page, pageHeight page)

/-- The point of user space shown at `x` and `y` millimetres from the top left
corner of the displayed page. -/
def userSpace (page : Page K σ) (x y : K) : K × K :=
  match page.rotate with
  | some 90 => (page.mediabox.x0 + y * mm, page.mediabox.y0 + x * mm)
  | some 180 => (page.mediabox.x1 - x * mm, page.mediabox.y0 + y * mm)
  | some 270 => (page.mediabox.x1 - y * mm, page.mediabox.y1 - x * mm)
  | _ => (page.mediabox.x0 + x * mm, page.mediabox.y1 - y * mm)

/-- Whether the overlay of a page hides the point shown at `x` and `y`. -/
def Hidden (page : Page K σ) (isFirstPage : Bool) (x y : K) : Prop :=
  userSpace page x y ∈ painted white (whiteOverlay isFirstPage).operations

/-- On a page of a size, what is hidden is close to a published area, and what is
well inside a published area is hidden. -/
@[mk_iff]
structure PlacedOn (isFirstPage : Bool) (size : K × K) (hidden : K → K → Prop) : Prop where
  near : ∀ x y, 0 ≤ x → x ≤ size.1 → 0 ≤ y → y ≤ size.2 → hidden x y →
    ∃ area ∈ printableAreas isFirstPage, (x, y) ∈ (area.grow 3).region
  covered : ∀ x y, 0 ≤ x → x ≤ size.1 → 0 ≤ y → y ≤ size.2 →
    (∃ area ∈ printableAreas isFirstPage, (x, y) ∈ (area.grow (-2)).region) → hidden x y

/-- The overlay is where it should be on the displayed page, up to the tolerance
of the size check. -/
def InPlace (page : Page K σ) (isFirstPage : Bool) : Prop :=
  PlacedOn isFirstPage (displayedSize page) (Hidden page isFirstPage)

/-- How far, in millimetres, the corner of user space is from the corner that the
overlay is drawn from, for a page shown upright or upside down. -/
def offset (page : Page K σ) : K × K :=
  match page.rotate with
  | some 180 => (a4Width - page.mediabox.x1 / mm, page.mediabox.y0 / mm)
  | _ => (page.mediabox.x0 / mm, a4Height - page.mediabox.y1 / mm)

/-- The page is shown upright, or upside down without an address, and the offset
is within the tolerance. Towards the bottom of a page without an address there is
a millimetre more, when the page ends before the overlay does. -/
@[mk_iff]
structure Tolerated (page : Page K σ) (isFirstPage : Bool) : Prop where
  notQuarter : page.rotate ≠ some 90
  notThreeQuarters : page.rotate ≠ some 270
  upright : isFirstPage → page.rotate ≠ some 180
  left : -2 ≤ (offset page).1
  right : (offset page).1 ≤ 2
  top : (offset page).2 ≤ 2
  bottom : -2 ≤ (offset page).2 ∨
    (isFirstPage = false ∧ -3 ≤ (offset page).2 ∧ (displayedSize page).2 ≤ 295)

variable [IsStrictOrderedRing K] {page : Page K σ} {isFirstPage : Bool} {x y : K}

omit [IsStrictOrderedRing K] in
theorem mem_grown_content {margin : K} :
    (∃ area ∈ printableAreas false, (x, y) ∈ (area.grow margin).region) ↔
      (15 - margin ≤ x ∧ 5 - margin ≤ y) ∧ x ≤ 195 + margin ∧ y ≤ 292 + margin := by
  simp only [printableAreas, borderedPage, Bool.false_eq_true, ↓reduceIte, List.mem_singleton,
    exists_eq_left, Box.mem_region, Box.grow]

theorem mem_grown_address {margin : K} :
    (∃ area ∈ printableAreas true, (x, y) ∈ (area.grow margin).region) ↔
      ((15 - margin ≤ x ∧ 95 - margin ≤ y) ∧ x ≤ 195 + margin ∧ y ≤ 292 + margin) ∨
      ((125 - margin ≤ x ∧ 5 - margin ≤ y) ∧ x ≤ 195 + margin ∧ y ≤ 95 + margin) ∨
      ((15 - margin ≤ x ∧ 5 - margin ≤ y) ∧ x ≤ 125 + margin ∧ y ≤ 30 + margin) ∨
      ((123 / 5 - margin ≤ x ∧ 79 / 2 - margin ≤ y) ∧ x ≤ 120 + margin ∧ y ≤ 663 / 10 + margin) := by
  have left : (24.6 : K) = 123 / 5 := by norm_num
  have top : (39.5 : K) = 79 / 2 := by norm_num
  have bottom : (66.3 : K) = 663 / 10 := by norm_num
  simp only [printableAreas, body, serviceAddress, logo, addressWindow, ↓reduceIte, List.mem_cons,
    List.not_mem_nil, or_false, exists_eq_or_imp, exists_eq_left, Box.mem_region, Box.grow]
  rw [left, top, bottom]

/-- The areas of either kind of page lie within the borders. -/
theorem within_borders {margin : K}
    (inside : ∃ area ∈ printableAreas isFirstPage, (x, y) ∈ (area.grow margin).region) :
    (15 - margin ≤ x ∧ 5 - margin ≤ y) ∧ x ≤ 195 + margin ∧ y ≤ 292 + margin := by
  cases isFirstPage
  · exact mem_grown_content.mp inside
  · rcases mem_grown_address.mp inside with area | area | area | area <;>
      obtain ⟨⟨left, top⟩, right, bottom⟩ := area <;>
      exact ⟨⟨by linarith, by linarith⟩, by linarith, by linarith⟩

/-- What is hidden on the displayed page, in terms of the canvas. -/
theorem hidden_iff {u v : K} (placed : userSpace page x y = userPoint u v) :
    Hidden page isFirstPage x y ↔
      ∃ area ∈ printableAreas isFirstPage, (u, v) ∈ (area.grow 1).region := by
  rw [Hidden, placed, white_covers_grown_areas]
  simp [mem_cover]

private theorem a4Width_eq : (a4Width : K) = 210 := by norm_num

private theorem a4Height_eq : (a4Height : K) = 297 := by norm_num

private theorem userPoint_eq (u v : K) : userPoint u v = (u * mm, (297 - v) * mm) := by
  rw [userPoint, a4HeightInPts, a4Height_eq, sub_mul]

private theorem div_mm_mul (a : K) : a / mm * mm = a := div_mul_cancel₀ a mm_pos.ne'

/-- An upright page hides the areas moved by its offset. -/
theorem hidden_of_upright (upright : page.rotate = none ∨ page.rotate = some 0) :
    Hidden page isFirstPage x y ↔ ∃ area ∈ printableAreas isFirstPage,
      (x + (offset page).1, y + (offset page).2) ∈ (area.grow 1).region := by
  apply hidden_iff
  rw [userPoint_eq]
  rcases upright with same | same <;> simp only [userSpace, offset, same, a4Height_eq] <;> ext <;>
    simp only [add_mul, sub_mul, div_mm_mul] <;> ring

/-- A page shown upside down hides the areas turned by half a turn. -/
theorem hidden_of_reversed (reversed : page.rotate = some 180) :
    Hidden page isFirstPage x y ↔ ∃ area ∈ printableAreas isFirstPage,
      (210 - (x + (offset page).1), 297 - (y + (offset page).2)) ∈ (area.grow 1).region := by
  apply hidden_iff
  rw [userPoint_eq]
  simp only [userSpace, offset, reversed, a4Width_eq]
  ext <;> simp only [add_mul, sub_mul, div_mm_mul] <;> ring

/-- Hidden points on one vertical line of a page turned by a quarter are no
further apart than the canvas is wide between its borders. -/
theorem hidden_of_turned (turned : page.rotate = some 90 ∨ page.rotate = some 270) {top bottom : K}
    (one : Hidden page isFirstPage x top) (other : Hidden page isFirstPage x bottom) :
    bottom - top ≤ 182 := by
  rcases turned with same | same
  · have placed : ∀ y, userSpace page x y =
        userPoint (page.mediabox.x0 / mm + y) (297 - (page.mediabox.y0 / mm + x)) := by
      intro y
      rw [userPoint_eq]
      simp only [userSpace, same]
      ext
      · simp only [add_mul, div_mm_mul]
      · simp only [add_mul, sub_mul, div_mm_mul]
        ring
    have low := within_borders ((hidden_iff (placed top)).mp one)
    have high := within_borders ((hidden_iff (placed bottom)).mp other)
    linarith [low.1.1, high.2.1]
  · have placed : ∀ y, userSpace page x y =
        userPoint (page.mediabox.x1 / mm - y) (297 - (page.mediabox.y1 / mm - x)) := by
      intro y
      rw [userPoint_eq]
      simp only [userSpace, same]
      ext
      · simp only [sub_mul, div_mm_mul]
      · simp only [sub_mul, div_mm_mul]
        ring
    have low := within_borders ((hidden_iff (placed top)).mp one)
    have high := within_borders ((hidden_iff (placed bottom)).mp other)
    linarith [low.2.1, high.1.1]

/-! ## Which offsets are tolerated -/

/-- Three corners that must be hidden on either kind of page. -/
private theorem PlacedOn.corners {width height : K} {hidden : K → K → Prop} (wide : 208 ≤ width)
    (tall : 295 ≤ height) (placed : PlacedOn isFirstPage (width, height) hidden) :
    hidden 17 290 ∧ hidden 193 290 ∧ hidden 193 7 := by
  refine ⟨placed.covered 17 290 (by norm_num) (by linarith) (by norm_num) (by linarith) ?_,
    placed.covered 193 290 (by norm_num) (by linarith) (by norm_num) (by linarith) ?_,
    placed.covered 193 7 (by norm_num) (by linarith) (by norm_num) (by linarith) ?_⟩
  all_goals
    cases isFirstPage
    · rw [mem_grown_content]
      norm_num
    · rw [mem_grown_address]
      norm_num

private theorem content_placed_iff {width height a b : K} (wide : 208 ≤ width) (tall : 295 ≤ height) :
    PlacedOn false (width, height) (fun x y => ∃ area ∈ printableAreas false,
        (x + a, y + b) ∈ (area.grow 1).region) ↔
      -2 ≤ a ∧ a ≤ 2 ∧ b ≤ 2 ∧ (-2 ≤ b ∨ (-3 ≤ b ∧ height ≤ 295)) := by
  simp only [mem_grown_content]
  constructor
  · intro placed
    -- the corners of what must be hidden bound the offset by 3 mm
    obtain ⟨bottomLeft, bottomRight, topRight⟩ := placed.corners wide tall
    have near := placed.near
    simp only [mem_grown_content] at near
    -- the edges of what is hidden bound it by 2 mm
    have left := near (14 - a) 100 (by linarith) (by linarith) (by norm_num) (by linarith)
      ⟨⟨by linarith, by linarith⟩, by linarith, by linarith⟩
    have right := near (196 - a) 100 (by linarith) (by linarith) (by norm_num) (by linarith)
      ⟨⟨by linarith, by linarith⟩, by linarith, by linarith⟩
    have top := near 100 (4 - b) (by norm_num) (by linarith) (by linarith) (by linarith)
      ⟨⟨by linarith, by linarith⟩, by linarith, by linarith⟩
    refine ⟨by linarith, by linarith, by linarith, ?_⟩
    by_contra beyond
    rw [not_or, not_and_or, not_le, not_le, not_le] at beyond
    have longer : 295 < height := beyond.2.resolve_left (by linarith)
    have bottom := near 100 (min height (293 - b)) (by norm_num) (by linarith)
      (le_min (by linarith) (by linarith)) (min_le_left _ _)
      ⟨⟨by linarith,
        by linarith [le_min (show (290 : K) ≤ height by linarith) (show (290 : K) ≤ 293 - b by linarith)]⟩,
        by linarith, by linarith [min_le_right height (293 - b)]⟩
    have past : 295 < min height (293 - b) := lt_min longer (by linarith [beyond.1])
    linarith [bottom.2.2]
  · rintro ⟨aLow, aHigh, bHigh, bLow⟩
    have bottom : -3 ≤ b := by rcases bLow with low | ⟨low, _⟩ <;> linarith
    simp only [placedOn_iff, mem_grown_content]
    refine ⟨fun x y _ _ _ _ hidden => ⟨⟨by linarith, by linarith⟩, by linarith, ?_⟩, fun x y _ _ _ _ inside => ?_⟩
    · rcases bLow with low | ⟨_, short⟩
      · linarith
      · linarith
    · exact ⟨⟨by linarith, by linarith⟩, by linarith, by linarith⟩

private theorem address_placed_iff {width height a b : K} (wide : 208 ≤ width) (tall : 295 ≤ height) :
    PlacedOn true (width, height) (fun x y => ∃ area ∈ printableAreas true,
        (x + a, y + b) ∈ (area.grow 1).region) ↔
      -2 ≤ a ∧ a ≤ 2 ∧ b ≤ 2 ∧ -2 ≤ b := by
  constructor
  · intro placed
    obtain ⟨bottomLeft, bottomRight, topRight⟩ := placed.corners wide tall
    have leftEnd := within_borders bottomLeft
    have rightEnd := within_borders bottomRight
    have topEnd := within_borders topRight
    have near := placed.near
    simp only [mem_grown_address] at near
    -- edges of the body, the service address and the logo
    have left := near (14 - a) 150 (by linarith) (by linarith) (by norm_num) (by linarith)
      (.inl ⟨⟨by linarith, by linarith⟩, by linarith, by linarith⟩)
    have right := near (196 - a) 150 (by linarith) (by linarith) (by norm_num) (by linarith)
      (.inl ⟨⟨by linarith, by linarith⟩, by linarith, by linarith⟩)
    have top := near 150 (4 - b) (by norm_num) (by linarith) (by linarith) (by linarith)
      (.inr (.inl ⟨⟨by linarith, by linarith⟩, by linarith, by linarith⟩))
    have logoBottom := near 50 (31 - b) (by norm_num) (by linarith) (by linarith) (by linarith)
      (.inr (.inr (.inl ⟨⟨by linarith, by linarith⟩, by linarith, by linarith⟩)))
    refine ⟨?_, ?_, ?_, ?_⟩
    · rcases right with h | h | h | h <;> linarith [h.1.1, h.1.2, h.2.1, h.2.2]
    · rcases left with h | h | h | h <;> linarith [h.1.1, h.1.2, h.2.1, h.2.2]
    · rcases top with h | h | h | h <;> linarith [h.1.1, h.1.2, h.2.1, h.2.2]
    · rcases logoBottom with h | h | h | h <;> linarith [h.1.1, h.1.2, h.2.1, h.2.2]
  · rintro ⟨aLow, aHigh, bHigh, bLow⟩
    refine ⟨fun x y _ _ _ _ ⟨area, member, inside⟩ => ⟨area, member, Box.mem_grow_of_close ?_ ?_ inside⟩,
      fun x y _ _ _ _ ⟨area, member, inside⟩ => ⟨area, member, Box.mem_grow_of_close ?_ ?_ inside⟩⟩
    all_goals
      rw [abs_le]
      constructor <;> linarith

/-- Upside down, the body of an address page is hidden where the address window
and the margins around it should be, whatever the offset. -/
private theorem reversed_address_not_placed {width height a b : K} (wide : 208 ≤ width) (tall : 295 ≤ height) :
    ¬ PlacedOn true (width, height) (fun x y => ∃ area ∈ printableAreas true,
        (210 - (x + a), 297 - (y + b)) ∈ (area.grow 1).region) := by
  intro placed
  obtain ⟨bottomLeft, bottomRight, topRight⟩ := placed.corners wide tall
  have leftEnd := within_borders bottomLeft
  have rightEnd := within_borders bottomRight
  have topEnd := within_borders topRight
  have middle := placed.covered 100 215 (by norm_num) (by linarith) (by norm_num) (by linarith)
    (mem_grown_address.mpr (.inl (by norm_num)))
  rw [mem_grown_address] at middle
  rcases middle with h | h | h | h <;> linarith [h.1.1, h.1.2, h.2.1, h.2.2]

private theorem turned_not_placed {width height : K} (wide : 208 ≤ width) (tall : 295 ≤ height)
    (turned : page.rotate = some 90 ∨ page.rotate = some 270) :
    ¬ PlacedOn isFirstPage (width, height) (Hidden page isFirstPage) := by
  intro placed
  obtain ⟨_, bottomRight, topRight⟩ := placed.corners wide tall
  linarith [hidden_of_turned turned topRight bottomRight]

private theorem upright_placed_iff (upright : page.rotate = none ∨ page.rotate = some 0)
    (size : displayedSize page = (pageWidth page, pageHeight page)) (wide : 208 ≤ pageWidth page)
    (tall : 295 ≤ pageHeight page) : InPlace page isFirstPage ↔ Tolerated page isFirstPage := by
  have notTurned : page.rotate ≠ some 90 ∧ page.rotate ≠ some 270 ∧ page.rotate ≠ some 180 := by
    rcases upright with same | same <;> simp [same]
  have hidden : Hidden page isFirstPage = fun x y => ∃ area ∈ printableAreas isFirstPage,
      (x + (offset page).1, y + (offset page).2) ∈ (area.grow 1).region := by
    funext x y
    exact propext (hidden_of_upright upright)
  rw [InPlace, hidden, tolerated_iff, size]
  cases isFirstPage
  · rw [content_placed_iff wide tall]
    simp [notTurned]
  · rw [address_placed_iff wide tall]
    simp [notTurned]

/-- The bordered page is its own image under half a turn, the areas of an address
page are not. -/
private theorem reversed_placed_iff (reversed : page.rotate = some 180)
    (size : displayedSize page = (pageWidth page, pageHeight page)) (wide : 208 ≤ pageWidth page)
    (tall : 295 ≤ pageHeight page) : InPlace page isFirstPage ↔ Tolerated page isFirstPage := by
  have hidden : Hidden page isFirstPage = fun x y => ∃ area ∈ printableAreas isFirstPage,
      (210 - (x + (offset page).1), 297 - (y + (offset page).2)) ∈ (area.grow 1).region := by
    funext x y
    exact propext (hidden_of_reversed reversed)
  rw [InPlace, hidden, size]
  cases isFirstPage
  · have turn : ∀ x y : K, (∃ area ∈ printableAreas false,
          (210 - (x + (offset page).1), 297 - (y + (offset page).2)) ∈ (area.grow 1).region) ↔
          ∃ area ∈ printableAreas false, (x + (offset page).1, y + (offset page).2) ∈ (area.grow 1).region := by
      intro x y
      simp only [mem_grown_content]
      constructor <;> rintro ⟨⟨left, top⟩, right, bottom⟩ <;>
        exact ⟨⟨by linarith, by linarith⟩, by linarith, by linarith⟩
    simp only [turn, content_placed_iff wide tall, tolerated_iff, reversed, size]
    simp
  · constructor
    · exact fun placed => absurd placed (reversed_address_not_placed wide tall)
    · exact fun tolerated => absurd reversed (tolerated.upright rfl)

/-- Among the pages the size check accepts, the overlay is in place exactly on
those whose rotation it can be drawn for and whose offset is tolerated. -/
theorem inPlace_iff_tolerated (accepted : Page.isA4Portrait page) :
    InPlace page isFirstPage ↔ Tolerated page isFirstPage := by
  rcases (isA4Portrait_iff.mp accepted).2 with ⟨height, width, rotation⟩ | ⟨width, height, rotation⟩
  · rw [abs_le] at height width
    have size : displayedSize page = (pageWidth page, pageHeight page) := by
      rcases rotation with same | same | same <;> simp [displayedSize, same]
    have wide : 208 ≤ pageWidth page := by linarith [width.1]
    have tall : 295 ≤ pageHeight page := by linarith [height.1]
    rcases rotation with absent | zero | reversed
    · exact upright_placed_iff (.inl absent) size wide tall
    · exact upright_placed_iff (.inr zero) size wide tall
    · exact reversed_placed_iff reversed size wide tall
  · rw [abs_le] at height width
    have size : displayedSize page = (pageHeight page, pageWidth page) := by
      rcases rotation with same | same <;> simp [displayedSize, same]
    rw [InPlace, size]
    constructor
    · intro placed
      exact absurd placed (turned_not_placed (by linarith [height.1]) (by linarith [width.1]) rotation)
    · intro tolerated
      exact absurd rotation (not_or.mpr ⟨tolerated.notQuarter, tolerated.notThreeQuarters⟩)

/-- An upright page of A4 size. -/
def uprightPage : Page ℚ Unit := { mediabox := ⟨0, 0, 210 * mm, 297 * mm⟩, rotate := none, source := () }

theorem uprightPage_in_place : InPlace uprightPage true ∧ InPlace uprightPage false := by
  have accepted : Page.isA4Portrait uprightPage := by decide +kernel
  constructor <;> refine (inPlace_iff_tolerated accepted).mpr ⟨nofun, nofun, fun _ => nofun, ?_, ?_, ?_, .inl ?_⟩ <;>
    decide +kernel

/-- A landscape page of A4 size that is shown upright by a quarter turn. -/
def rotatedLandscape : Page ℚ Unit :=
  { mediabox := ⟨0, 0, 297 * mm, 210 * mm⟩, rotate := some 90, source := () }

/-- The size check accepts pages on which the overlay is not in place. -/
theorem rotated_landscape_not_in_place :
    ¬ ∀ (page : Page ℚ Unit) isFirstPage, Page.isA4Portrait page → InPlace page isFirstPage := by
  intro always
  have accepted : Page.isA4Portrait rotatedLandscape := by decide +kernel
  have tall : (295 : ℚ) ≤ (displayedSize rotatedLandscape).2 := by decide +kernel
  have wide : (208 : ℚ) ≤ (displayedSize rotatedLandscape).1 := by decide +kernel
  exact turned_not_placed wide tall (.inl rfl) (always rotatedLandscape false accepted)

end TemplatePreview.OverlayPlacement
