import Mathlib.Algebra.Order.Field.Basic
import Mathlib.Order.Interval.Set.Basic
import Mathlib.Topology.Algebra.Order.Archimedean
import Mathlib.Topology.Order.DenselyOrdered
import Mathlib.Tactic.Linarith

/-! Closed boxes of the plane with sides along the axes, over any ordered field.
A drawing is a finite cover by such boxes; what is asked of it is which points it
covers, which points are near it on each axis, and whether one box of the cover
stands apart from the others. -/
namespace TemplatePreview.Region

/-- A closed box by two values on each axis. -/
structure Box (K : Type*) where
  x0 : K
  y0 : K
  x1 : K
  y1 : K
  deriving DecidableEq, Repr

variable {K : Type*}

namespace Box

/-- The points of a box. -/
def region [Preorder K] (box : Box K) : Set (K × K) := Set.Icc (box.x0, box.y0) (box.x1, box.y1)

/-- A box with points inside its edges. -/
def Proper [LT K] (box : Box K) : Prop := box.x0 < box.x1 ∧ box.y0 < box.y1

/-- Every edge moved outwards by `margin`; a negative margin moves it inwards. -/
def grow [Add K] [Sub K] (margin : K) (box : Box K) : Box K :=
  ⟨box.x0 - margin, box.y0 - margin, box.x1 + margin, box.y1 + margin⟩

/-- The box moved by a vector. -/
def shift [Add K] (dx dy : K) (box : Box K) : Box K :=
  ⟨box.x0 + dx, box.y0 + dy, box.x1 + dx, box.y1 + dy⟩

/-- Every coordinate multiplied by `factor`. -/
def scale [Mul K] (factor : K) (box : Box K) : Box K :=
  ⟨box.x0 * factor, box.y0 * factor, box.x1 * factor, box.y1 * factor⟩

@[simp] theorem mem_region [Preorder K] {box : Box K} {x y : K} :
    (x, y) ∈ box.region ↔ (box.x0 ≤ x ∧ box.y0 ≤ y) ∧ x ≤ box.x1 ∧ y ≤ box.y1 := Iff.rfl

/-- A box with its edges inside those of another one holds only points of it. -/
theorem region_subset [Preorder K] {inner outer : Box K} (left : outer.x0 ≤ inner.x0)
    (top : outer.y0 ≤ inner.y0) (right : inner.x1 ≤ outer.x1) (bottom : inner.y1 ≤ outer.y1) :
    inner.region ⊆ outer.region :=
  Set.Icc_subset_Icc ⟨left, top⟩ ⟨right, bottom⟩

end Box

/-- The points covered by some box of a list. -/
def cover [Preorder K] (boxes : List (Box K)) : Set (K × K) := {point | ∃ box ∈ boxes, point ∈ box.region}

@[simp] theorem mem_cover [Preorder K] {boxes : List (Box K)} {point : K × K} :
    point ∈ cover boxes ↔ ∃ box ∈ boxes, point ∈ box.region := Iff.rfl

section Order
variable [LinearOrder K]

/-- Two boxes share a non-empty open box. -/
def Box.Intersects (left right : Box K) : Prop :=
  left.Proper ∧ right.Proper ∧
    left.x0 < right.x1 ∧ right.x0 < left.x1 ∧ left.y0 < right.y1 ∧ right.y0 < left.y1

instance (left right : Box K) : Decidable (left.Intersects right) := by
  unfold Box.Intersects Box.Proper
  infer_instance

/-- A proper box inside another one intersects it. -/
theorem intersects_of_subset {inner outer : Box K} (proper : inner.Proper)
    (inside : inner.region ⊆ outer.region) : inner.Intersects outer := by
  have low : (inner.x0, inner.y0) ∈ outer.region :=
    inside ⟨le_refl _, proper.1.le, proper.2.le⟩
  have high : (inner.x1, inner.y1) ∈ outer.region :=
    inside ⟨⟨proper.1.le, proper.2.le⟩, le_refl _⟩
  simp only [Box.mem_region] at low high
  have wide : inner.x0 < outer.x1 := proper.1.trans_le high.2.1
  have tall : inner.y0 < outer.y1 := proper.2.trans_le high.2.2
  exact ⟨proper, ⟨low.1.1.trans_lt wide, low.1.2.trans_lt tall⟩, wide,
    low.1.1.trans_lt proper.1, tall, low.1.2.trans_lt proper.2⟩

/-- Intersecting boxes have a common point. -/
theorem Box.Intersects.common_point {left right : Box K} (meets : left.Intersects right) :
    ∃ point, point ∈ left.region ∧ point ∈ right.region := by
  obtain ⟨leftProper, rightProper, a, b, c, d⟩ := meets
  refine ⟨(max left.x0 right.x0, max left.y0 right.y0), ⟨⟨le_max_left _ _, le_max_left _ _⟩, ?_, ?_⟩,
    ⟨le_max_right _ _, le_max_right _ _⟩, ?_, ?_⟩
  · exact max_le leftProper.1.le b.le
  · exact max_le leftProper.2.le d.le
  · exact max_le a.le rightProper.1.le
  · exact max_le c.le rightProper.2.le

/-- No edge of `box` lies outside those of `frame`. -/
def Box.Inside (box frame : Box K) : Prop :=
  frame.x0 ≤ box.x0 ∧ frame.y0 ≤ box.y0 ∧ box.x1 ≤ frame.x1 ∧ box.y1 ≤ frame.y1

/-- `moat` holds `box` strictly inside all four of its edges. -/
def Box.StrictlyInside (box moat : Box K) : Prop :=
  moat.x0 < box.x0 ∧ moat.y0 < box.y0 ∧ box.x1 < moat.x1 ∧ box.y1 < moat.y1

/-- Going from an interval to a value outside it, one leaves the interval before
leaving any wider one. -/
private theorem leaves_interval {low high wideLow wideHigh start target : K}
    (inside : low ≤ start ∧ start ≤ high) (wider : wideLow < low ∧ high < wideHigh)
    (outside : ¬ (low ≤ target ∧ target ≤ high)) :
    ∃ between, min start target ≤ between ∧ between ≤ max start target ∧
      wideLow ≤ between ∧ between ≤ wideHigh ∧ ¬ (low ≤ between ∧ between ≤ high) := by
  by_cases below : low ≤ target
  · have beyond : high < target := lt_of_not_ge fun above => outside ⟨below, above⟩
    refine ⟨min target wideHigh, ?_, ?_, ?_, min_le_right _ _, ?_⟩
    · exact le_min (min_le_right _ _) (le_trans (min_le_left _ _) (inside.2.trans wider.2.le))
    · exact le_trans (min_le_left _ _) (le_max_right _ _)
    · exact le_min (wider.1.le.trans below)
        (wider.1.le.trans (inside.1.trans (inside.2.trans wider.2.le)))
    · exact fun held => absurd held.2 (not_le.mpr (lt_min beyond wider.2))
  · have before : target < low := lt_of_not_ge below
    refine ⟨max target wideLow, ?_, ?_, le_max_right _ _, ?_, ?_⟩
    · exact le_trans (min_le_right _ _) (le_max_left _ _)
    · exact max_le (le_max_right _ _) (le_trans (wider.1.le.trans inside.1) (le_max_left _ _))
    · exact max_le (before.le.trans (inside.1.trans (inside.2.trans wider.2.le)))
        (wider.1.le.trans (inside.1.trans (inside.2.trans wider.2.le)))
    · exact fun held => absurd held.1 (not_le.mpr (max_lt before wider.1))

private theorem between_of_ends {low high a b c : K} (first : low ≤ a ∧ a ≤ high) (second : low ≤ b ∧ b ≤ high)
    (above : min a b ≤ c) (below : c ≤ max a b) : low ≤ c ∧ c ≤ high :=
  ⟨le_trans (le_min first.1 second.1) above, le_trans below (max_le first.2 second.2)⟩

/-- A box of a cover that no other box of the cover approaches holds every
covered box that reaches into it. -/
theorem subset_of_isolated {box moat piece : Box K} {others : List (Box K)}
    (inside : box.StrictlyInside moat)
    (apart : ∀ other ∈ others, ∀ point ∈ other.region, point ∉ moat.region)
    (covered : piece.region ⊆ cover (box :: others)) {point : K × K}
    (inPiece : point ∈ piece.region) (inBox : point ∈ box.region) : piece.region ⊆ box.region := by
  -- a covered point of the moat can only be covered by the box itself
  have only : ∀ other ∈ piece.region, other ∈ moat.region → other ∈ box.region := by
    intro other member near
    obtain ⟨cell, cellMember, held⟩ := covered member
    rcases List.mem_cons.mp cellMember with rfl | rest
    · exact held
    · exact absurd near (apart cell rest other held)
  obtain ⟨x, y⟩ := point
  obtain ⟨⟨left, top⟩, right, bottom⟩ := inBox
  obtain ⟨⟨pieceLeft, pieceTop⟩, pieceRight, pieceBottom⟩ := inPiece
  obtain ⟨moatLeft, moatTop, moatRight, moatBottom⟩ := inside
  dsimp only at left top right bottom pieceLeft pieceTop pieceRight pieceBottom
  rintro ⟨u, v⟩ ⟨⟨uLeft, vTop⟩, uRight, vBottom⟩
  dsimp only at uLeft vTop uRight vBottom
  have horizontal : box.x0 ≤ u ∧ u ≤ box.x1 := by
    by_contra outside
    obtain ⟨w, above, below, wideLow, wideHigh, out⟩ :=
      leaves_interval ⟨left, right⟩ ⟨moatLeft, moatRight⟩ outside
    have range := between_of_ends ⟨pieceLeft, pieceRight⟩ ⟨uLeft, uRight⟩ above below
    have held := only (w, y) ⟨⟨range.1, pieceTop⟩, range.2, pieceBottom⟩
      ⟨⟨wideLow, moatTop.le.trans top⟩, wideHigh, bottom.trans moatBottom.le⟩
    exact out ⟨held.1.1, held.2.1⟩
  have vertical : box.y0 ≤ v ∧ v ≤ box.y1 := by
    by_contra outside
    obtain ⟨w, above, below, wideLow, wideHigh, out⟩ :=
      leaves_interval ⟨top, bottom⟩ ⟨moatTop, moatBottom⟩ outside
    have range := between_of_ends ⟨pieceTop, pieceBottom⟩ ⟨vTop, vBottom⟩ above below
    have held := only (x, w) ⟨⟨pieceLeft, range.1⟩, pieceRight, range.2⟩
      ⟨⟨moatLeft.le.trans left, wideLow⟩, right.trans moatRight.le, wideHigh⟩
    exact out ⟨held.1.2, held.2.2⟩
  exact ⟨⟨horizontal.1, vertical.1⟩, horizontal.2, vertical.2⟩

end Order

section Near
variable [Field K] [LinearOrder K]

variable [IsStrictOrderedRing K]

/-- A box grown further holds what is close to the box. -/
theorem Box.mem_grow_of_close {box : Box K} {margin wider x y u v : K} (horizontal : |u - x| ≤ wider - margin)
    (vertical : |v - y| ≤ wider - margin) (inside : (x, y) ∈ (box.grow margin).region) :
    (u, v) ∈ (box.grow wider).region := by
  rw [abs_le] at horizontal vertical
  obtain ⟨⟨left, top⟩, right, bottom⟩ := inside
  simp only [Box.grow] at left top right bottom
  simp only [Box.mem_region, Box.grow]
  exact ⟨⟨by linarith, by linarith⟩, by linarith, by linarith⟩

end Near

section Closure

/-- The points strictly inside a box. -/
def Box.inner [Preorder K] (box : Box K) : Set (K × K) := Set.Ioo box.x0 box.x1 ×ˢ Set.Ioo box.y0 box.y1

variable [LinearOrder K] [DenselyOrdered K] [TopologicalSpace K] [OrderTopology K]

end Closure

end TemplatePreview.Region
