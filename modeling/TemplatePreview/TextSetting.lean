import TemplatePreview.Region
import Mathlib.Algebra.Order.BigOperators.Group.List
import Mathlib.Data.List.DropRight

/-! Lines of text set in a font: where each character of a line ends up, and when a
whole line ends before a given place. -/
namespace TemplatePreview.TextSetting
open Region

variable {K : Type*}

/-- The measures of a font, in units of its size. -/
structure FontMetrics (K : Type*) where
  advance : Char → K
  ascent : K
  descent : K

/-- Every character moves the pen on. -/
def FontMetrics.Advances [Zero K] [LT K] (metrics : FontMetrics K) : Prop :=
  ∀ character, 0 < metrics.advance character

section Setting
variable [Field K] (metrics : FontMetrics K) (size : K)

/-- The boxes of the characters of a line that starts at `x`, one after another on
the same baseline. The y axis points upwards. -/
def glyphs (baseline : K) : K → List Char → List (Box K)
  | _, [] => []
  | x, character :: rest =>
    ⟨x, baseline - size * metrics.descent, x + size * metrics.advance character,
      baseline + size * metrics.ascent⟩ ::
      glyphs baseline (x + size * metrics.advance character) rest

def lineWidth (line : List Char) : K := (line.map fun character => size * metrics.advance character).sum

variable {metrics size} {baseline x right : K} {line : List Char} {glyph : Box K}

/-- Every character reaches from the descent to the ascent of its font. -/
theorem glyphs_height (member : glyph ∈ glyphs metrics size baseline x line) :
    glyph.y0 = baseline - size * metrics.descent ∧ glyph.y1 = baseline + size * metrics.ascent := by
  induction line generalizing x with
  | nil => cases member
  | cons character rest ih =>
    rcases List.mem_cons.mp member with rfl | later
    · exact ⟨rfl, rfl⟩
    · exact ih later

variable [LinearOrder K] [IsStrictOrderedRing K]

/-- No character starts before its line does. -/
theorem le_glyphs_left (advances : metrics.Advances) (positive : 0 < size)
    (member : glyph ∈ glyphs metrics size baseline x line) : x ≤ glyph.x0 := by
  induction line generalizing x with
  | nil => cases member
  | cons character rest ih =>
    rcases List.mem_cons.mp member with rfl | later
    · exact le_refl x
    · exact (le_add_of_nonneg_right (mul_pos positive (advances character)).le).trans (ih later)

/-- All characters of a line end before a place exactly when the whole line does. -/
theorem glyphs_right_iff (advances : metrics.Advances) (positive : 0 < size) (start : x ≤ right) :
    (∀ glyph ∈ glyphs metrics size baseline x line, glyph.x1 ≤ right) ↔
      x + lineWidth metrics size line ≤ right := by
  induction line generalizing x with
  | nil => simpa [glyphs, lineWidth] using start
  | cons character rest ih =>
    have nonneg (line : List Char) : 0 ≤ lineWidth metrics size line :=
      List.sum_nonneg fun width member => by
        obtain ⟨character, _, rfl⟩ := List.mem_map.mp member
        exact (mul_pos positive (advances character)).le
    have split : x + lineWidth metrics size (character :: rest) =
        x + size * metrics.advance character + lineWidth metrics size rest := by
      rw [lineWidth, List.map_cons, List.sum_cons, ← add_assoc, ← lineWidth]
    rw [glyphs, List.forall_mem_cons, split]
    constructor
    · rintro ⟨first, others⟩
      exact (ih first).mp others
    · intro fits
      have first : x + size * metrics.advance character ≤ right := (le_add_of_nonneg_right (nonneg rest)).trans fits
      exact ⟨first, (ih first).mpr fits⟩

end Setting

/-! ## Lines -/

/-- `str.isspace` of one character. -/
def isSpace (character : Char) : Bool :=
  let code := character.toNat
  (9 ≤ code && code ≤ 13) || (28 ≤ code && code ≤ 32) || code == 133 || code == 160 || code == 5760 ||
    (8192 ≤ code && code ≤ 8202) || code == 8232 || code == 8233 || code == 8239 || code == 8287 || code == 12288

/-- `str.strip`. -/
def strip (text : List Char) : List Char := (text.dropWhile isSpace).rdropWhile isSpace

/-- The lines that a text is set in: surrounding space is dropped from the text and
then from every line. -/
def textLines (text : List Char) : List (List Char) := ((strip text).splitOn '\n').map strip

theorem length_splitOn (separator : Char) (text : List Char) :
    (text.splitOn separator).length = text.count separator + 1 := by
  induction text with
  | nil => rfl
  | cons first rest ih =>
    rw [List.splitOn_cons_eq_if_modifyHead, List.count_cons]
    split <;> simp [ih]

theorem strip_sublist (text : List Char) : (strip text).Sublist text :=
  (List.rdropWhile_prefix isSpace _).sublist.trans (List.dropWhile_sublist isSpace)

/-- A text has at most one line more than it has newlines. -/
theorem length_textLines_le (text : List Char) : (textLines text).length ≤ text.count '\n' + 1 := by
  rw [textLines, List.length_map, length_splitOn]
  exact Nat.succ_le_succ ((strip_sublist text).count_le _)

end TemplatePreview.TextSetting
