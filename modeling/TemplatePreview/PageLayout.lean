import TemplatePreview.Region
import Mathlib.Data.Rat.Defs
import Mathlib.Tactic.NormNum
import Mathlib.Tactic.FieldSimp
import Mathlib.Tactic.Ring

/-! The measurements of a letter page and the canvas that overlays are drawn on.
Lengths are exact: a rounding of the floating-point numbers of the code is not
modelled. Measurements are in millimetres from the top left corner of the page
and canvases are in points from the bottom left corner. -/
namespace TemplatePreview.PageLayout
open Region

variable {K : Type*}

section Measurements
variable [Field K]

/-- `reportlab.lib.units`. -/
def inch : K := 72.0
def cm : K := inch / 2.54
def mm : K := cm * 0.1

@[simp] def a4Width : K := 210.0
@[simp] def a4Height : K := 297.0
@[simp] def ptToMm : K := 1.0 / 72 * 25.4

@[simp] def notifyTagFromTopOfPage : K := 1.8
@[simp] def notifyTagFromLeftOfPage : K := 1.8
@[simp] def notifyTagBoundingBoxWidth : K := 15.191
@[simp] def notifyTagBoundingBoxHeight : K := 6.149
@[simp] def notifyTagFontSize : K := 6
@[simp] def notifyTagLineHeight : K := notifyTagFontSize * ptToMm
def notifyTagText : String := "NOTIFY"

def notifyTagBoundingBox : Box K :=
  ⟨0, 0, notifyTagBoundingBoxWidth * mm, notifyTagBoundingBoxHeight * mm⟩

@[simp] def addressFontSize : K := 8
@[simp] def addressLineHeight : K := addressFontSize + 0.5
def font : String := "Arial"

@[simp] def borderLeftFromLeftOfPage : K := 15.0
@[simp] def borderRightFromLeftOfPage : K := a4Width - 15.0
@[simp] def borderTopFromTopOfPage : K := 5.0
@[simp] def borderBottomFromTopOfPage : K := a4Height - 5.0

@[simp] def bodyTopFromTopOfPage : K := 95.00

@[simp] def serviceAddressLeftFromLeftOfPage : K := 125.0
@[simp] def serviceAddressRightFromLeftOfPage : K := borderRightFromLeftOfPage
@[simp] def serviceAddressTopFromTopOfPage : K := borderTopFromTopOfPage
@[simp] def serviceAddressBottomFromTopOfPage : K := bodyTopFromTopOfPage

@[simp] def addressLeftFromLeftOfPage : K := 24.60
@[simp] def addressRightFromLeftOfPage : K := 120.0
@[simp] def addressTopFromTopOfPage : K := 39.50
@[simp] def addressBottomFromTopOfPage : K := 66.30

/-- The margin of 3 mm is there to capture all text of the address. -/
def addressBoundingBox : Box K :=
  ⟨(addressLeftFromLeftOfPage - 3) * mm, (addressTopFromTopOfPage - 3) * mm,
    (addressRightFromLeftOfPage + 3) * mm, (addressBottomFromTopOfPage + 3) * mm⟩

@[simp] def logoLeftFromLeftOfPage : K := borderLeftFromLeftOfPage
@[simp] def logoRightFromLeftOfPage : K := serviceAddressLeftFromLeftOfPage
@[simp] def logoTopFromTopOfPage : K := borderTopFromTopOfPage
@[simp] def logoBottomFromTopOfPage : K := 30.00

def a4HeightInPts : K := a4Height * mm

end Measurements

theorem mm_eq [Field K] [CharZero K] : (mm : K) = 360 / 127 := by
  norm_num [mm, cm, inch]

theorem mm_pos [Field K] [LinearOrder K] [IsStrictOrderedRing K] : 0 < (mm : K) := by
  rw [mm_eq]
  norm_num

/-- `reportlab.lib.colors.Color`. -/
structure Color (K : Type*) where
  red : K
  green : K
  blue : K
  alpha : K
  deriving DecidableEq, Repr

def white [One K] : Color K := ⟨1, 1, 1, 1⟩
def black [Zero K] [One K] : Color K := ⟨0, 0, 0, 1⟩
def redTransparent [Field K] : Color K := ⟨100, 0, 0, 0.2⟩

/-- What a canvas is asked to draw, in points from the bottom left of the page.
Lines of a text start at `x` on baselines `leading` apart, `rise` above the
first one at `y`. -/
inductive Operation (K : Type*) where
  | rect (fill : Color K) (x y width height : K)
  | text (fill : Color K) (font : String) (size leading rise x y : K) (lines : String)
  deriving DecidableEq, Repr

structure NotifyCanvas (K : Type*) where
  strokeColor : Color K
  fillColor : Color K
  operations : List (Operation K) := []
  deriving DecidableEq, Repr

namespace NotifyCanvas

def new (colour : Color K) : NotifyCanvas K := { strokeColor := colour, fillColor := colour }

/-- `reportlab.pdfgen.canvas.Canvas.rect` with `fill=True, stroke=False`. -/
def fillRect (can : NotifyCanvas K) (x y width height : K) : NotifyCanvas K :=
  { can with operations := can.operations ++ [.rect can.fillColor x y width height] }

/-- Two corners in millimetres from the top left of the page; the page is taken
to be 297 mm high. -/
def rect [Field K] [LinearOrder K] (can : NotifyCanvas K) (pt1 pt2 : K × K) : NotifyCanvas K :=
  let leftX := min pt1.1 pt2.1 * mm
  let rightX := max pt1.1 pt2.1 * mm
  let topY := min pt1.2 pt2.2 * mm
  let bottomY := max pt1.2 pt2.2 * mm
  let bottomYFromBottom := a4HeightInPts - bottomY
  let width := rightX - leftX
  let height := bottomY - topY
  can.fillRect leftX bottomYFromBottom width height

/-- One `rect` for each box, in order. -/
def rects [Field K] [LinearOrder K] (can : NotifyCanvas K) (boxes : List (Box K)) : NotifyCanvas K :=
  boxes.foldl (fun can box => can.rect (box.x0, box.y0) (box.x1, box.y1)) can

/-- `reportlab.pdfgen.canvas.Canvas.drawString` after `setFont(font, size)`. -/
def drawString [Zero K] (can : NotifyCanvas K) (font : String) (size x y : K) (text : String) :
    NotifyCanvas K :=
  { can with operations := can.operations ++ [.text can.fillColor font size 0 0 x y text] }

/-- `reportlab.pdfgen.canvas.Canvas.drawText` of a text object with these settings. -/
def drawText (can : NotifyCanvas K) (fill : Color K) (font : String) (size leading rise x y : K)
    (text : String) : NotifyCanvas K :=
  { can with operations := can.operations ++ [.text fill font size leading rise x y text] }

end NotifyCanvas

/-- The area an operation fills with a colour, in points from the bottom left. -/
def Operation.area [Add K] [DecidableEq K] (colour : Color K) : Operation K → Option (Box K)
  | .rect fill x y width height => if fill = colour then some ⟨x, y, x + width, y + height⟩ else none
  | .text .. => none

/-- The points of user space that operations fill with a colour. -/
def painted [Add K] [LinearOrder K] (colour : Color K) (operations : List (Operation K)) : Set (K × K) :=
  cover (operations.filterMap (Operation.area colour))

/-- The point of user space `x` mm from the left and `y` mm from the top of a
page 297 mm high with its corner at the origin. -/
def userPoint [Field K] (x y : K) : K × K := (x * mm, a4HeightInPts - y * mm)

section Canvas
variable [Field K] [LinearOrder K]

@[simp] theorem painted_new (colour : Color K) : painted colour (NotifyCanvas.new colour).operations = ∅ := by
  ext point
  simp [painted, NotifyCanvas.new]

variable [IsStrictOrderedRing K] {can : NotifyCanvas K} {colour : Color K} {x y : K}

/-- Every point of user space is some number of millimetres from the left and
from the top. -/
theorem eq_userPoint (point : K × K) :
    point = userPoint (point.1 / mm) ((a4HeightInPts - point.2) / mm) := by
  have nonzero : (mm : K) ≠ 0 := mm_pos.ne'
  simp only [userPoint, div_mul_cancel₀ _ nonzero, sub_sub_cancel]

private theorem mem_painted_rect (fills : can.fillColor = colour) {box : Box K} (proper : box.Proper) :
    userPoint x y ∈ painted colour (can.rect (box.x0, box.y0) (box.x1, box.y1)).operations ↔
      userPoint x y ∈ painted colour can.operations ∨ (x, y) ∈ box.region := by
  have scaled : ∀ u v : K, u * mm ≤ v * mm ↔ u ≤ v := fun u v => mul_le_mul_iff_left₀ mm_pos
  have drawn : userPoint x y ∈ (⟨box.x0 * mm, a4HeightInPts - box.y1 * mm,
      box.x0 * mm + (box.x1 * mm - box.x0 * mm),
      a4HeightInPts - box.y1 * mm + (box.y1 * mm - box.y0 * mm)⟩ : Box K).region ↔
      (x, y) ∈ box.region := by
    simp only [userPoint, Box.mem_region]
    rw [show box.x0 * mm + (box.x1 * mm - box.x0 * mm) = box.x1 * mm by ring,
      show a4HeightInPts - box.y1 * mm + (box.y1 * mm - box.y0 * mm) =
        a4HeightInPts - box.y0 * mm by ring,
      sub_le_sub_iff_left, sub_le_sub_iff_left, scaled, scaled, scaled, scaled]
    tauto
  simp only [painted, mem_cover, NotifyCanvas.rect, NotifyCanvas.fillRect, List.filterMap_append,
    List.filterMap_cons, Operation.area, fills, ↓reduceIte, List.filterMap_nil, List.mem_append,
    List.mem_singleton, or_and_right, exists_or, exists_eq_left, min_eq_left proper.1.le,
    max_eq_right proper.1.le, min_eq_left proper.2.le, max_eq_right proper.2.le, drawn]

private theorem mem_painted_more_rects (boxes : List (Box K)) (fills : can.fillColor = colour)
    (proper : ∀ box ∈ boxes, box.Proper) :
    userPoint x y ∈ painted colour (can.rects boxes).operations ↔
      userPoint x y ∈ painted colour can.operations ∨ (x, y) ∈ cover boxes := by
  induction boxes generalizing can with
  | nil => simp [NotifyCanvas.rects]
  | cons box rest ih =>
    have step : userPoint x y ∈ painted colour
        ((can.rect (box.x0, box.y0) (box.x1, box.y1)).rects rest).operations ↔ _ :=
      ih fills fun other member => proper other (List.mem_cons_of_mem _ member)
    simp only [NotifyCanvas.rects, List.foldl_cons] at step ⊢
    rw [step, mem_painted_rect fills (proper box (by simp))]
    simp only [mem_cover, List.mem_cons, exists_eq_or_imp, or_assoc]

/-- Rectangles given by their top left and bottom right corners fill exactly the
points between those corners. -/
theorem mem_painted_rects {boxes : List (Box K)} (proper : ∀ box ∈ boxes, box.Proper) :
    userPoint x y ∈ painted colour ((NotifyCanvas.new colour).rects boxes).operations ↔
      (x, y) ∈ cover boxes := by
  have fills : (NotifyCanvas.new colour).fillColor = colour := rfl
  rw [mem_painted_more_rects boxes fills proper, painted_new]
  simp

end Canvas

end TemplatePreview.PageLayout
