import TemplatePreview.TextSetting
import TemplatePreview.AddressRewrite

/-! Where the characters of a rewritten address are drawn. They are never above or
below the address window, and they are beside it when a line is too long for it:
the length of the lines is not looked at when the address is set anew. -/
namespace TemplatePreview.AddressGlyphs
open Region PageLayout Pdf Outcomes Overlays AddressRewrite TextSetting

variable {K σ : Type} [Field K]

/-- The boxes of the characters that an operation draws, in user space. -/
def operationGlyphs (fonts : String → FontMetrics K) : Operation K → List (Box K)
  | .rect .. => []
  | .text _ font size leading rise x y lines =>
    (textLines lines.toList).zipIdx.flatMap fun line =>
      glyphs (fonts font) size (y - (line.2 : K) * leading + rise) x line.1

/-- A box of user space measured from the top left corner of an unrotated page. -/
def fromTopLeft (page : Page K σ) (box : Box K) : Box K :=
  ⟨box.x0 - page.mediabox.x0, page.mediabox.y1 - box.y1, box.x1 - page.mediabox.x0, page.mediabox.y1 - box.y0⟩

/-- An upright A4 page with its corner at the origin. -/
structure A4Page (page : Page K σ) : Prop where
  unrotated : page.rotate = none ∨ page.rotate = some 0
  mediabox : page.mediabox = ⟨0, 0, a4Width * mm, a4HeightInPts⟩

/-- What is assumed of the lines that `PostalAddress` counts. -/
structure CountsLines (address : PostalAddress) : Prop where
  enough : address.hasEnoughLines → 3 ≤ address.normalised.toList.count '\n' + 1
  notTooMany : ¬ address.hasTooManyLines → address.normalised.toList.count '\n' + 1 ≤ 7

theorem lines_of_accepted {address : PostalAddress} {allowInternationalLetters : Bool}
    (counts : CountsLines address)
    (accepted : errorCode address allowInternationalLetters = none) :
    address.normalised.toList.count '\n' + 1 ≤ 7 := by
  apply counts.notTooMany
  intro tooMany
  unfold errorCode at accepted
  rw [tooMany] at accepted
  split at accepted
  · cases accepted
  split at accepted
  · cases accepted
  · simp at accepted

/-- The characters drawn on a page since it was read. -/
def drawnGlyphs (fonts : String → FontMetrics K) (before after : Page K σ) : List (Box K) :=
  (after.merged.drop before.merged.length).flatMap fun operation =>
    (operationGlyphs fonts operation).map (fromTopLeft after)

/-- The baseline of a line of an address, two points up from where the bottom of the
window would have it. -/
def baseline (address : String) (index : ℕ) : K :=
  a4HeightInPts - addressBottomFromTopOfPage * mm + addressLineHeight * (address.toList.count '\n' : K) -
    index * addressLineHeight + 2.0

variable [LinearOrder K]

/-- The first page of the new file, and all characters drawn on it stay inside the
address window. -/
def DrawnInsideWindow (lib : Libraries K σ) (fonts : String → FontMetrics K) (page : Page K σ) (out : MemoryFile) :
    Prop :=
  ∃ after rest, lib.readPages out.bytes = .ok (after :: rest) ∧
    ∀ glyph ∈ drawnGlyphs fonts page after, glyph.Inside (addressWindow.scale mm)

/-- What is assumed of a font: characters have a width and reach less than one em
above and less than a quarter of one below their baseline. -/
structure Compact (metrics : FontMetrics K) : Prop where
  advances : metrics.Advances
  ascent : metrics.ascent < 1
  descent : metrics.descent < 0.25

section Canvas
variable [IsStrictOrderedRing K] {fonts : String → FontMetrics K} {page : Page K σ} {address : String}
  {glyph : Box K}

omit [IsStrictOrderedRing K] in
/-- The characters of the address, line by line. -/
theorem mem_drawnGlyphs : glyph ∈ drawnGlyphs fonts page (page.merge (addressCanvas address)) ↔
    ∃ (index : ℕ) (line : List Char), (textLines address.toList)[index]? = some line ∧
      ∃ drawn ∈ glyphs (fonts font) addressFontSize (baseline address index) (addressLeftFromLeftOfPage * mm) line,
        fromTopLeft page drawn = glyph := by
  have operations : (page.merge (addressCanvas address)).merged.drop page.merged.length =
      (addressCanvas (K := K) address).operations := List.drop_left
  obtain ⟨fill, left, bottom, width, height, canvas⟩ : ∃ fill left bottom width height,
      (addressCanvas (K := K) address).operations = [.rect fill left bottom width height,
        .text black font addressFontSize addressLineHeight 2.0 (addressLeftFromLeftOfPage * mm)
          (a4HeightInPts - addressBottomFromTopOfPage * mm + addressLineHeight * (address.toList.count '\n' : K))
          address] := ⟨_, _, _, _, _, rfl⟩
  rw [drawnGlyphs, operations, canvas]
  simp only [List.flatMap_cons, List.flatMap_nil, operationGlyphs, List.map_nil, List.nil_append, List.append_nil,
    List.mem_map, List.mem_flatMap, Prod.exists, List.mem_zipIdx_iff_getElem?]
  constructor
  · rintro ⟨drawn, ⟨line, index, found, inLine⟩, same⟩
    exact ⟨index, line, found, drawn, inLine, same⟩
  · rintro ⟨index, line, found, drawn, inLine, same⟩
    exact ⟨drawn, ⟨line, index, found, inLine⟩, same⟩

/-- No character is above or below the address window. -/
theorem glyphs_vertically_inside (compact : Compact (fonts font)) (a4 : A4Page page)
    (few : address.toList.count '\n' + 1 ≤ 7)
    (member : glyph ∈ drawnGlyphs fonts page (page.merge (addressCanvas address))) :
    39.5 * mm ≤ glyph.y0 ∧ glyph.y1 ≤ 66.3 * mm := by
  obtain ⟨index, line, found, drawn, inLine, rfl⟩ := mem_drawnGlyphs.mp member
  obtain ⟨low, high⟩ := glyphs_height inLine
  have unit : (mm : K) = 360 / 127 := mm_eq
  obtain ⟨_, up, down⟩ := compact
  -- how many lines are below this one
  have bound : index < (textLines address.toList).length := (List.getElem?_eq_some_iff.mp found).1
  have most := length_textLines_le address.toList
  obtain ⟨below, split⟩ : ∃ below, address.toList.count '\n' = index + below :=
    ⟨address.toList.count '\n' - index, by omega⟩
  have six : (below : K) ≤ 6 := by exact_mod_cast (by omega : below ≤ 6)
  have some : (0 : K) ≤ below := Nat.cast_nonneg _
  rw [baseline, split, Nat.cast_add] at low high
  rw [fromTopLeft, a4.mediabox, low, high]
  norm_num [unit] at up down ⊢
  constructor <;> linarith

/-- The characters are inside the address window exactly when every line is at most
as wide as it. -/
theorem glyphs_inside_iff (compact : Compact (fonts font)) (a4 : A4Page page)
    (few : address.toList.count '\n' + 1 ≤ 7) :
    (∀ glyph ∈ drawnGlyphs fonts page (page.merge (addressCanvas address)), glyph.Inside (addressWindow.scale mm)) ↔
      ∀ line ∈ textLines address.toList, lineWidth (fonts font) addressFontSize line ≤ 95.4 * mm := by
  have eight : (0 : K) < addressFontSize := by norm_num
  have unit : (0 : K) < mm := mm_pos
  have width : (addressLeftFromLeftOfPage * mm + 95.4 * mm : K) = 120 * mm := by norm_num [← add_mul]
  have start : (addressLeftFromLeftOfPage * mm : K) ≤ 120 * mm := by
    rw [← width]
    exact le_add_of_nonneg_right (mul_nonneg (by norm_num) unit.le)
  -- a line of the address ends inside the window when it is not wider
  have ends (baseline : K) (line : List Char) :
      (∀ glyph ∈ glyphs (fonts font) addressFontSize baseline (addressLeftFromLeftOfPage * mm) line,
        glyph.x1 ≤ 120 * mm) ↔ lineWidth (fonts font) addressFontSize line ≤ 95.4 * mm := by
    rw [glyphs_right_iff compact.advances eight start, ← width, add_le_add_iff_left]
  have left : page.mediabox.x0 = 0 := by rw [a4.mediabox]
  constructor
  · intro inside line member
    obtain ⟨index, found⟩ := List.getElem?_of_mem member
    apply (ends (baseline address index) line).mp
    intro drawn inLine
    have within := inside _ (mem_drawnGlyphs.mpr ⟨index, line, found, drawn, inLine, rfl⟩)
    simpa [fromTopLeft, left, addressWindow, Box.scale] using within.2.2.1
  · intro fits glyph member
    obtain ⟨high, low⟩ := glyphs_vertically_inside compact a4 few member
    obtain ⟨index, line, found, drawn, inLine, rfl⟩ := mem_drawnGlyphs.mp member
    have right := (ends (baseline address index) line).mpr (fits line (List.mem_of_getElem? found)) drawn inLine
    have begins : 24.6 * mm ≤ drawn.x0 := by
      simpa [show (24.60 : K) = 24.6 by norm_num] using le_glyphs_left compact.advances eight inLine
    refine ⟨?_, by simpa [addressWindow, Box.scale] using high, ?_, by simpa [addressWindow, Box.scale] using low⟩
    · simpa [fromTopLeft, left, addressWindow, Box.scale] using begins
    · simpa [fromTopLeft, left, addressWindow, Box.scale] using right

/-- The characters of an accepted address stay inside the address window exactly
when every line, as it is set, is at most as wide as the window. -/
theorem address_inside_window_iff {lib : Libraries K σ} {render : Page K σ → Image} {pdf out : MemoryFile}
    {rest : List (Page K σ)} {address : PostalAddress} {allowInternationalLetters : Bool}
    (lawful : lib.Lawful render) (compact : Compact (fonts font)) (counts : CountsLines address)
    (accepted : errorCode address allowInternationalLetters = none)
    (read : lib.readPages pdf.bytes = .ok (page :: rest)) (a4 : A4Page page)
    (added : addAddressToPrecompiledLetter lib pdf address.normalised = .ok out) :
    DrawnInsideWindow lib fonts page out ↔
      ∀ line ∈ textLines address.normalised.toList, lineWidth (fonts font) addressFontSize line ≤ 95.4 * mm := by
  obtain ⟨first, others, again, _, written⟩ := addAddressToPrecompiledLetter_eq_ok lawful added
  cases read.symm.trans again
  rw [← glyphs_inside_iff compact a4 (lines_of_accepted counts accepted)]
  constructor
  · rintro ⟨after, later, found, inside⟩
    cases written.symm.trans found
    exact inside
  · exact fun inside => ⟨_, _, written, inside⟩

end Canvas

/-! ## Arial -/

open InMemoryLibraries

/-- How far a character of Arial moves the pen, in thousandths of its size. -/
def arialAdvance : Char → ℕ
  | 'f' | 't' | 'I' | ' ' | ',' => 278
  | 'i' | 'j' | 'l' => 222
  | 'r' => 333
  | 'c' | 'k' | 's' | 'v' | 'x' | 'y' | 'z' | 'J' => 500
  | 'w' | 'C' | 'D' | 'H' | 'N' | 'R' | 'U' => 722
  | 'm' | 'M' => 833
  | 'W' => 944
  | 'A' | 'B' | 'E' | 'K' | 'P' | 'S' | 'V' | 'X' | 'Y' => 667
  | 'F' | 'T' | 'Z' => 611
  | 'G' | 'O' | 'Q' => 778
  | _ => 556

def arial : FontMetrics ℚ where
  advance character := arialAdvance character / 1000
  ascent := 0.905
  descent := 0.212

theorem arial_compact : Compact arial where
  advances character := by
    have positive : 0 < arialAdvance character := by
      unfold arialAdvance
      split <;> decide
    exact div_pos (by exact_mod_cast positive) (by norm_num)
  ascent := by norm_num [arial]
  descent := by norm_num [arial]

theorem addAddress_inMemory (page : TextPage) (address : String) :
    addAddressToPrecompiledLetter libraries { bytes := encodePages [page] } address =
      .ok { bytes := encodePages [page.merge (addressCanvas address)] } := by
  rw [addAddressToPrecompiledLetter, readPages_encodePages]
  rfl

/-- An address of three short lines. -/
def streetAddress : PostalAddress := postalAddress "1 High Street\nLondon\nN1 7AA"

/-- An address with a line that is long but not unusual. -/
def villageAddress : PostalAddress :=
  postalAddress "Mr P Jones\nLlanfairpwllgwyngyllgogerychwyrndrobwllllantysiliogogogoch, Isle of Anglesey\nLL61 5UJ"

private theorem countsLines_of_three {address : PostalAddress} (three : address.normalised.toList.count '\n' = 2) :
    CountsLines address :=
  ⟨fun _ => by rw [three], fun _ => by rw [three]; decide⟩

theorem blankPage_a4 : A4Page blankPage := ⟨.inl rfl, by decide +kernel⟩

theorem streetAddress_stays_inside :
    DrawnInsideWindow libraries (fun _ => arial) blankPage
      { bytes := encodePages [blankPage.merge (addressCanvas streetAddress.normalised)] } :=
  Iff.mpr (address_inside_window_iff lawful arial_compact (countsLines_of_three (by decide +kernel))
    (by decide +kernel : errorCode streetAddress false = none) (readPages_encodePages [blankPage]) blankPage_a4
    (addAddress_inMemory blankPage streetAddress.normalised)) (by decide +kernel)

/-- An accepted address that is drawn beyond the address window. -/
theorem villageAddress_leaves_window :
    errorCode villageAddress false = none ∧ CountsLines villageAddress ∧
    ∃ out, addAddressToPrecompiledLetter libraries { bytes := encodePages [blankPage] } villageAddress.normalised =
        .ok out ∧ ¬ DrawnInsideWindow libraries (fun _ => arial) blankPage out := by
  have counts : villageAddress.normalised.toList.count '\n' = 2 := by decide +kernel
  refine ⟨by decide +kernel, countsLines_of_three counts, _, addAddress_inMemory _ _, ?_⟩
  rintro ⟨after, rest, read, inside⟩
  cases (readPages_encodePages _).symm.trans read
  have fits := Iff.mp (glyphs_inside_iff arial_compact blankPage_a4 (by rw [counts]; decide)) inside
  exact absurd fits (by decide +kernel)

end TemplatePreview.AddressGlyphs
