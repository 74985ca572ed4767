import TemplatePreview.PageValidation

/-! The size check against the size a page is shown in, whatever full turns and
backward turns its rotation is made of, wherever that rotation is written, and
whichever corners its box is given by. -/
namespace TemplatePreview.PageOrientation
open PageLayout Pdf Outcomes PageValidation InMemoryLibraries

variable {K σ : Type} [Field K] [LinearOrder K]

/-- The page is shown with its sides exchanged. -/
def quarterTurned (rotation : Option Int) : Bool := rotation.getD 0 % 360 ∈ [90, 270]

/-- The width and the height, in millimetres, that a page is shown in. -/
def shownSize (page : Page K σ) : K × K :=
  if quarterTurned page.rotate then (|pageHeight page|, |pageWidth page|)
  else (|pageWidth page|, |pageHeight page|)

/-- The page is shown as upright A4, within two millimetres. -/
def ShownA4 (page : Page K σ) : Prop := |(shownSize page).1 - 210.0| ≤ 2.0 ∧ |(shownSize page).2 - 297.0| ≤ 2.0

instance shownA4Decidable (page : Page K σ) : Decidable (ShownA4 page) := inferInstanceAs (Decidable (_ ∧ _))

/-- The rotations the size check knows. -/
def listedRotations : List (Option Int) := [none, some 0, some 90, some 180, some 270]

/-- The page is written in the way the size check expects: it has the rotation itself,
which is a listed one, and its box is given by the lower left and the upper right
corner. -/
@[mk_iff]
structure PlainlyWritten (page : Page K σ) : Prop where
  direct : page.rotateIsIndirect = false
  listed : page.rotate ∈ listedRotations
  horizontal : page.mediabox.x0 ≤ page.mediabox.x1
  vertical : page.mediabox.y0 ≤ page.mediabox.y1

/-! ## Turns that are not seen -/

/-- Another page is turned once more around, or turned by a quarter with its sides
exchanged. -/
inductive Turned (page other : Page K σ) : Prop where
  | around (box : other.mediabox = page.mediabox) (rotation : other.rotate.getD 0 = page.rotate.getD 0 + 360)
  | quarter (width : |pageWidth other| = |pageHeight page|) (height : |pageHeight other| = |pageWidth page|)
      (legal : 90 ∣ page.rotate.getD 0) (rotation : other.rotate.getD 0 = page.rotate.getD 0 + 90)

theorem shownSize_turned {page other : Page K σ} (turned : Turned page other) : shownSize other = shownSize page := by
  cases turned with
  | around box rotation =>
    have same : quarterTurned other.rotate = quarterTurned page.rotate := by
      rw [quarterTurned, quarterTurned, rotation, Int.add_emod_right]
    simp only [shownSize, same, pageHeight, pageWidth, box]
  | quarter width height legal rotation =>
    have exchanged : quarterTurned other.rotate = !quarterTurned page.rotate := by
      simp only [quarterTurned, rotation, List.mem_cons, List.not_mem_nil, or_false, ← decide_not]
      exact decide_eq_decide.mpr (by omega)
    rw [shownSize, shownSize, exchanged, width, height]
    cases quarterTurned page.rotate <;> rfl

/-! ## What the size check decides -/

section Check
variable [IsStrictOrderedRing K] {lib : Libraries K σ} {file : MemoryFile} {pages : List (Page K σ)}
  {page other : Page K σ}

theorem pageWidth_nonneg_iff : 0 ≤ pageWidth page ↔ page.mediabox.x0 ≤ page.mediabox.x1 := by
  rw [pageWidth, le_div_iff₀ mm_pos, zero_mul, sub_nonneg]

theorem pageHeight_nonneg_iff : 0 ≤ pageHeight page ↔ page.mediabox.y0 ≤ page.mediabox.y1 := by
  rw [pageHeight, le_div_iff₀ mm_pos, zero_mul, sub_nonneg]

/-- A length close to a side of A4 is not negative. -/
private theorem close_iff {length side : K} (long : 2 < side) :
    |length - side| ≤ 2 ↔ |(|length|) - side| ≤ 2 ∧ 0 ≤ length := by
  constructor
  · intro close
    have positive : 0 ≤ length := by linarith [(abs_le.mp close).1]
    exact ⟨by rwa [abs_of_nonneg positive], positive⟩
  · rintro ⟨close, positive⟩
    rwa [abs_of_nonneg positive] at close

/-- The size check accepts the pages shown as A4 that are plainly written. -/
theorem isA4Portrait_iff_shown : Page.isA4Portrait page ↔ ShownA4 page ∧ PlainlyWritten page := by
  have width : (210.0 : K) = 210 := by norm_num
  have height : (297.0 : K) = 297 := by norm_num
  have tolerance : (2.0 : K) = 2 := by norm_num
  have short (length : K) : |length - 210| ≤ 2 ↔ |(|length|) - 210| ≤ 2 ∧ 0 ≤ length := close_iff (by norm_num)
  have long (length : K) : |length - 297| ≤ 2 ↔ |(|length|) - 297| ≤ 2 ∧ 0 ≤ length := close_iff (by norm_num)
  rw [isA4Portrait_iff, plainlyWritten_iff, ← pageWidth_nonneg_iff, ← pageHeight_nonneg_iff, ShownA4, shownSize,
    width, height, tolerance]
  simp only [short (pageWidth page), short (pageHeight page), long (pageWidth page), long (pageHeight page)]
  by_cases listed : page.rotate ∈ listedRotations
  · simp only [listedRotations, List.mem_cons, List.not_mem_nil, or_false] at listed
    rcases listed with same | same | same | same | same <;> simp [same, listedRotations, quarterTurned] <;> tauto
  · refine iff_of_false (fun accepted => listed ?_) fun accepted => listed accepted.2.2.1
    rcases accepted with ⟨_, ⟨_, _, upright⟩ | ⟨_, _, turned⟩⟩
    · rcases upright with same | same | same <;> simp [same, listedRotations]
    · rcases turned with same | same <;> simp [same, listedRotations]

/-- The size check reports exactly the pages that are not shown as A4 when every
page shown as A4 is plainly written. In particular, what it says of a page and of the
page turned is the same when both or neither are plainly written. -/
theorem sizes_reported_iff (read : lib.readPages file.bytes = .ok pages) :
    ((∃ numbers after, getPagesWithInvalidOrientationOrSize lib file = .ok (numbers, after) ∧
        NumbersOf (fun _ page => ¬ ShownA4 page) pages numbers) ↔
      ∀ page ∈ pages, ShownA4 page → PlainlyWritten page) ∧
    ∀ page other : Page K σ, Turned page other →
      ((Page.isA4Portrait other ↔ Page.isA4Portrait page) ↔
        (ShownA4 page → (PlainlyWritten other ↔ PlainlyWritten page))) := by
  have reported : ∃ numbers after, getPagesWithInvalidOrientationOrSize lib file = .ok (numbers, after) := by
    rw [getPagesWithInvalidOrientationOrSize, read]
    exact ⟨_, _, rfl⟩
  have agree {numbers : List Nat} {after : MemoryFile}
      (checked : getPagesWithInvalidOrientationOrSize lib file = .ok (numbers, after)) :
      NumbersOf (fun _ page => ¬ ShownA4 page) pages numbers ↔
        ∀ page ∈ pages, ShownA4 page → PlainlyWritten page := by
    obtain ⟨_, others, again, exact⟩ := getPagesWithInvalidOrientationOrSize_eq_ok checked
    cases read.symm.trans again
    rw [numbersOf_iff exact]
    constructor
    · intro same page member shown
      obtain ⟨index, found⟩ := List.getElem?_of_mem member
      exact (isA4Portrait_iff_shown.mp ((not_iff_not.mp (same index page found)).mpr shown)).2
    · intro written index page found
      refine not_congr (isA4Portrait_iff_shown.trans (and_iff_left_of_imp ?_))
      exact written page (List.mem_of_getElem? found)
  refine ⟨?_, fun page other turned => ?_⟩
  · constructor
    · rintro ⟨numbers, after, checked, exact⟩
      exact (agree checked).mp exact
    · intro written
      obtain ⟨numbers, after, checked⟩ := reported
      exact ⟨numbers, after, checked, (agree checked).mpr written⟩
  · have shown : ShownA4 other ↔ ShownA4 page := by rw [ShownA4, ShownA4, shownSize_turned turned]
    rw [isA4Portrait_iff_shown, isA4Portrait_iff_shown, shown]
    tauto

end Check

/-- An upright page that was turned once around. -/
def turnedAround : TextPage := { blankPage with rotate := some 360 }

/-- A page that lies on its side and is turned by a quarter. -/
def turnedUpright : TextPage := { blankPage with mediabox := ⟨0, 0, 297 * mm, 210 * mm⟩, rotate := some 90 }

theorem blankPage_is_not_reported :
    (∃ numbers after, getPagesWithInvalidOrientationOrSize libraries ⟨encodePages [blankPage], 0⟩ =
      .ok (numbers, after) ∧ NumbersOf (fun _ page => ¬ ShownA4 page) [blankPage] numbers) ∧
    (Page.isA4Portrait turnedUpright ↔ Page.isA4Portrait blankPage) := by
  have plain : PlainlyWritten blankPage := ⟨rfl, by decide, by decide +kernel, by decide +kernel⟩
  have turnedPlain : PlainlyWritten turnedUpright := ⟨rfl, by decide, by decide +kernel, by decide +kernel⟩
  obtain ⟨reported, turns⟩ := sizes_reported_iff (readPages_file [blankPage])
  refine ⟨reported.mpr fun page member _ => List.mem_singleton.mp member ▸ plain, ?_⟩
  exact (turns blankPage turnedUpright (.quarter (by decide +kernel) (by decide +kernel) (by decide) rfl)).mpr
    fun _ => iff_of_true turnedPlain plain

/-- A page shown as A4 is reported. -/
theorem turnedAround_is_reported :
    ¬ ∃ numbers after, getPagesWithInvalidOrientationOrSize libraries ⟨encodePages [turnedAround], 0⟩ =
      .ok (numbers, after) ∧ NumbersOf (fun _ page => ¬ ShownA4 page) [turnedAround] numbers := by
  rintro ⟨numbers, after, checked, claimed⟩
  obtain ⟨_, pages, read, exact⟩ := getPagesWithInvalidOrientationOrSize_eq_ok checked
  cases (readPages_encodePages [turnedAround]).symm.trans read
  have same := (numbersOf_iff exact).mp claimed 0 turnedAround rfl
  exact absurd (not_iff_not.mp same) (by decide +kernel)

/-- So are a page that refers to its rotation and one given by its other corners. -/
example : ∀ page ∈ [{ blankPage with rotate := some 0, rotateIsIndirect := true },
      { blankPage with mediabox := ⟨210 * mm, 297 * mm, 0, 0⟩ }], ShownA4 page ∧ ¬ Page.isA4Portrait page := by
  decide +kernel

end TemplatePreview.PageOrientation
