import TemplatePreview.FontWalk

/-! Fonts that come without their program. They are reported by name, so that a font
of the same name that is embedded elsewhere in the document hides them. -/
namespace TemplatePreview.UnembeddedFonts
open Pdf Outcomes EmbeddedFonts BoundedTraversal FontWalk InMemoryLibraries

variable {K σ : Type} {lib : Libraries K σ} {pdf : PdfReader K σ} {pages : List (Page K σ)} {data : MemoryFile}
  {object part : PdfObject} {name : Hashable}

/-- A dictionary with the name of a font and a font file. -/
def isFontProgram : PdfObject → Bool
  | .dictionary entries => hasFontFile entries && (entries.lookup "/FontName").isSome
  | .array _ | .reference _ | .text _ | .atom _ => false

/-- A font dictionary somewhere below the resources of a page has this name, and
nothing below it embeds a font. -/
def UnembeddedFont (pdf : PdfReader K σ) (pages : List (Page K σ)) (name : Hashable) : Prop :=
  ∃ page ∈ pages, ∃ object, Below pdf page object ∧ UsesFont pdf.getObject object name ∧
    ∀ part, Relation.TransGen (Child (parts pdf.getObject)) object part → ¬ isFontProgram part

/-- The fonts are collected, and those not embedded are among the ones reported. -/
def ReportsUnembedded (lib : Libraries K σ) (pdf : PdfReader K σ) (pages : List (Page K σ)) (data : MemoryFile) :
    Prop :=
  ∃ result, containsUnembeddedFonts lib data = .ok result ∧
    ∀ name, UnembeddedFont pdf pages name → name ∈ result.1

/-- Whatever the names of the fonts are, they are all reported exactly when the
resources are readable and no font with the name of one of them is embedded. -/
theorem unembedded_reported_iff (opened : lib.pdfReader data.bytes = .ok pdf) (listed : pdf.pages = .ok pages) :
    ReportsUnembedded lib pdf pages data ↔
      (∀ page ∈ pages, ReadableResources lib pdf page) ∧
      ∀ name, UnembeddedFont pdf pages name →
        ¬ ∃ page ∈ pages, ∃ object, Below pdf page object ∧ EmbedsFont pdf.getObject object name := by
  rw [← containsUnembeddedFonts_returns_iff opened listed]
  constructor
  · rintro ⟨result, returned, reported⟩
    exact ⟨⟨result, returned⟩, fun name unembedded =>
      ((mem_containsUnembeddedFonts opened listed returned).mp (reported name unembedded)).2⟩
  · rintro ⟨⟨result, returned⟩, apart⟩
    refine ⟨result, returned, fun name unembedded => ?_⟩
    obtain ⟨page, member, object, below, uses, _⟩ := id unembedded
    exact (mem_containsUnembeddedFonts opened listed returned).mpr
      ⟨⟨page, member, object, below, uses⟩, apart name unembedded⟩

/-! ## Two fonts of one name -/

/-- A font without a descriptor, and so without a program. -/
def bareFont (name : String) : PdfObject := .dictionary [("/BaseFont", .text name)]

/-- A font whose descriptor refers to its program. -/
def descriptor (name : String) : PdfObject :=
  .dictionary [("/FontName", .text name), ("/FontFile2", .reference 3)]

def embeddedFont (name : String) : PdfObject :=
  .dictionary [("/BaseFont", .text name), ("/FontDescriptor", descriptor name)]

def twoFonts (one other : String) : PdfObject :=
  .dictionary [("/Font", .dictionary [("/F1", embeddedFont one), ("/F2", bareFont other)])]

def fontObjects (_ : Nat) : Except LibraryError PdfObject := .ok (.text "stream")

theorem descriptor_child (name : String) : Child (parts fontObjects) (embeddedFont name) (descriptor name) :=
  ⟨_, rfl, by simp [descriptor]⟩

theorem not_isFontProgram_below_bareFont {name : String}
    (below : Relation.TransGen (Child (parts fontObjects)) (bareFont name) part) : ¬ isFontProgram part := by
  have only : part = .text name := by
    induction below with
    | single edge =>
      obtain ⟨next, ⟨⟩, member⟩ := edge
      exact List.mem_singleton.mp member
    | tail _ edge ih =>
      subst ih
      obtain ⟨next, ⟨⟩, member⟩ := edge
      cases member
  simp [only, isFontProgram]

theorem bareFont_unembedded (one other : String) (pages : List TextPage) (nonempty : pages ≠ []) :
    UnembeddedFont (documentWith (twoFonts one other) fontObjects pages) pages (.text other) := by
  obtain ⟨page, member⟩ := List.exists_mem_of_ne_nil pages nonempty
  have fonts : Child (parts fontObjects) (twoFonts one other)
      (.dictionary [("/F1", embeddedFont one), ("/F2", bareFont other)]) := ⟨_, rfl, by simp⟩
  have font : Child (parts fontObjects) (.dictionary [("/F1", embeddedFont one), ("/F2", bareFont other)])
      (bareFont other) := ⟨_, rfl, by simp [bareFont]⟩
  exact ⟨page, member, bareFont other, ⟨_, rfl, .tail (.single fonts) font⟩, ⟨_, rfl, _, rfl, rfl⟩,
    fun part => not_isFontProgram_below_bareFont⟩

section TwoFonts
variable {one another : String} {pages : List TextPage} {page : TextPage}

theorem twoFonts_readable : ReadableResources (librariesWith (twoFonts one another) fontObjects)
    (documentWith (twoFonts one another) fontObjects pages) page :=
  readableResources_of_walk rfl (show walk (documentWith (twoFonts one another) fontObjects pages)
    (librariesWith (twoFonts one another) fontObjects).stackRoom (twoFonts one another) ⟨[], []⟩ =
      .ok ⟨[Hashable.text one].insert (.text another), [.text one]⟩ from rfl)

/-- The dictionaries below the resources of a page. -/
theorem below_twoFonts {entries : List (String × PdfObject)}
    (below : Below (documentWith (twoFonts one another) fontObjects pages) page (.dictionary entries)) :
    PdfObject.dictionary entries ∈ [twoFonts one another,
      .dictionary [("/F1", embeddedFont one), ("/F2", bareFont another)], embeddedFont one, descriptor one,
      bareFont another] := by
  have walked : objectsOf (librariesWith (twoFonts one another) fontObjects)
    (documentWith (twoFonts one another) fontObjects pages) page = .ok _ := rfl
  have member := (mem_objectsOf walked).mpr below
  simpa using member

theorem embeds_twoFonts (below : Below (documentWith (twoFonts one another) fontObjects pages) page object)
    (embeds : EmbedsFont fontObjects object name) : name = .text one := by
  obtain ⟨entries, rfl, file, value, found, named⟩ := embeds
  have member := below_twoFonts below
  simp only [twoFonts, embeddedFont, bareFont, descriptor, List.mem_cons, List.not_mem_nil, or_false,
    PdfObject.dictionary.injEq] at member
  rcases member with rfl | rfl | rfl | rfl | rfl
  case inr.inr.inr.inl =>
    cases found
    cases named
    rfl
  all_goals cases file

theorem uses_twoFonts (below : Below (documentWith (twoFonts one another) fontObjects pages) page object)
    (uses : UsesFont fontObjects object name) :
    object = embeddedFont one ∧ name = .text one ∨ object = bareFont another ∧ name = .text another := by
  obtain ⟨entries, rfl, value, found, named⟩ := uses
  have member := below_twoFonts below
  simp only [twoFonts, List.mem_cons, List.not_mem_nil, or_false] at member
  rcases member with ⟨⟨⟩⟩ | ⟨⟨⟩⟩ | ⟨⟨⟩⟩ | ⟨⟨⟩⟩ | ⟨⟨⟩⟩ <;> cases found
  · cases named
    exact .inl ⟨rfl, rfl⟩
  · cases named
    exact .inr ⟨rfl, rfl⟩

end TwoFonts

/-- A font of another name is reported. -/
theorem helvetica_is_reported :
    ReportsUnembedded (librariesWith (twoFonts "/Arial" "/Helvetica") fontObjects)
        (documentWith (twoFonts "/Arial" "/Helvetica") fontObjects [blankPage]) [blankPage]
        ⟨encodePages [blankPage], 0⟩ := by
  refine (unembedded_reported_iff (librariesWith_opens _ _ _) rfl).mpr ⟨fun page _ => twoFonts_readable, ?_⟩
  rintro name ⟨_, _, font, below, uses, bare⟩ ⟨_, _, program, programBelow, embeds⟩
  obtain rfl := embeds_twoFonts programBelow embeds
  rcases uses_twoFonts below uses with ⟨rfl, _⟩ | ⟨_, same⟩
  · exact bare _ (.single (descriptor_child _)) rfl
  · exact absurd same (by decide)

theorem second_arial_is_not_reported :
    ¬ ReportsUnembedded (librariesWith (twoFonts "/Arial" "/Arial") fontObjects)
        (documentWith (twoFonts "/Arial" "/Arial") fontObjects [blankPage]) [blankPage]
        ⟨encodePages [blankPage], 0⟩ := by
  rintro ⟨result, returned, reported⟩
  have member := reported _ (bareFont_unembedded "/Arial" "/Arial" [blankPage] (by simp))
  apply ((mem_containsUnembeddedFonts (librariesWith_opens _ _ _) rfl returned).mp member).2
  have fonts : Child (parts fontObjects) (twoFonts "/Arial" "/Arial")
      (.dictionary [("/F1", embeddedFont "/Arial"), ("/F2", bareFont "/Arial")]) := ⟨_, rfl, by simp⟩
  have font : Child (parts fontObjects) (.dictionary [("/F1", embeddedFont "/Arial"), ("/F2", bareFont "/Arial")])
      (embeddedFont "/Arial") := ⟨_, rfl, by simp [embeddedFont]⟩
  exact ⟨blankPage, by simp, descriptor "/Arial", ⟨_, rfl, .tail (.tail (.single fonts) font) (descriptor_child _)⟩,
    _, rfl, rfl, _, rfl, rfl⟩

end TemplatePreview.UnembeddedFonts
