import TemplatePreview.EmbeddedFonts
import TemplatePreview.BoundedTraversal
import TemplatePreview.InMemoryLibraries

/-! The walk of `contains_unembedded_fonts` as a traversal of the objects below the
resources of the pages: when it ends, which objects it has been to, and which fonts
it reports. -/
namespace TemplatePreview.FontWalk
open Pdf Outcomes EmbeddedFonts BoundedTraversal

variable {K σ : Type} {getObject : Nat → Except LibraryError PdfObject} {object other : PdfObject}
  {entries : List (String × PdfObject)} {name : Hashable} {fonts after : Fonts}

/-! ## The objects below an object -/

/-- What `walk` is called on next: the items of a dictionary followed to what they
refer to, the items of an array, or what is referred to. -/
def parts (getObject : Nat → Except LibraryError PdfObject) : PdfObject → Py (List PdfObject)
  | .dictionary entries => entries.mapM fun entry => item getObject entry.2
  | .array items => return items
  | .reference number => do return [← call (getObject number)]
  | .text _ | .atom _ => return []

/-- What `walk` notes about an object. -/
def visitObject (getObject : Nat → Except LibraryError PdfObject) (fonts : Fonts) : PdfObject → Py Fonts
  | .dictionary entries => visit getObject entries fonts
  | .array _ | .reference _ | .text _ | .atom _ => return fonts

/-- `walk` hands the two sets from one object to the next. -/
theorem walk_iff_traverseWith {pdf : PdfReader K σ} {room : Nat} : walk pdf room object fonts = .ok after ↔
    traverseWith (parts pdf.getObject) pdf.lookupDepth .recursionError (visitObject pdf.getObject) room fonts object =
      .ok after := by
  induction room generalizing object fonts after with
  | zero => exact Iff.rfl
  | succ room ih =>
    have below (items : List PdfObject) (fonts : Fonts) :
        items.foldlM (fun fonts child => walk pdf room child fonts) fonts = .ok after ↔
          items.foldlM (traverseWith (parts pdf.getObject) pdf.lookupDepth .recursionError
            (visitObject pdf.getObject) room) fonts = .ok after :=
      foldlM_congr_ok fun fonts child result => ih
    by_cases full : room < pdf.lookupDepth object
    · simp [walk, traverseWith, full]
    simp only [walk, traverseWith, full, ↓reduceIte]
    cases object with
    | dictionary entries =>
      have items (fonts : Fonts) :
          entries.foldlM (fun fonts entry => do walk pdf room (← item pdf.getObject entry.2) fonts) fonts =
            .ok after ↔ ∃ found, (entries.mapM fun entry => item pdf.getObject entry.2) = .ok found ∧
              found.foldlM (fun fonts child => walk pdf room child fonts) fonts = .ok after :=
        foldlM_map_eq_ok
      simp only [visitObject, parts, bind_eq_ok, items, below]
    | array items => simp [visitObject, parts, below]
    | reference number =>
      simp only [visitObject, parts]
      cases call (pdf.getObject number) with
      | ok target =>
        simp only [ok_bind, pure_eq_ok, List.foldlM_cons, List.foldlM_nil, bind_eq_ok, Except.ok.injEq,
          exists_eq_right, ih]
      | error error => simp
    | text text => simp [visitObject, parts]
    | atom value => simp [visitObject, parts]

/-! ## Fonts -/

/-- The name that a key of a dictionary has as its value. -/
def Names (getObject : Nat → Except LibraryError PdfObject) (entries : List (String × PdfObject)) (key : String)
    (name : Hashable) : Prop :=
  ∃ value, entries.lookup key = some value ∧ (item getObject value >>= hashable) = .ok name

/-- One of the keys of a font file is there. -/
def hasFontFile (entries : List (String × PdfObject)) : Bool :=
  ["/FontFile", "/FontFile2", "/FontFile3"].any fun key => (entries.lookup key).isSome

/-- The object is a dictionary for a font of this name. -/
def UsesFont (getObject : Nat → Except LibraryError PdfObject) (object : PdfObject) (name : Hashable) : Prop :=
  ∃ entries, object = .dictionary entries ∧ Names getObject entries "/BaseFont" name

/-- The object is a dictionary that embeds a font of this name. -/
def EmbedsFont (getObject : Nat → Except LibraryError PdfObject) (object : PdfObject) (name : Hashable) : Prop :=
  ∃ entries, object = .dictionary entries ∧ hasFontFile entries ∧ Names getObject entries "/FontName" name

/-- Names that are looked at can be kept in a set, and "Type3" can be looked for. -/
structure LegibleEntries (getObject : Nat → Except LibraryError PdfObject) (entries : List (String × PdfObject)) :
    Prop where
  baseFont : ∀ value, entries.lookup "/BaseFont" = some value → Returns (item getObject value >>= hashable)
  fontName : ∀ value, entries.lookup "/FontName" = some value → hasFontFile entries →
    Returns (item getObject value >>= hashable)
  subtype : ∀ value, entries.lookup "/Subtype" = some value → Returns (item getObject value >>= searchType3)

/-- What `walk` reads of an object can be read. -/
def Legible (getObject : Nat → Except LibraryError PdfObject) : PdfObject → Prop
  | .dictionary entries => LegibleEntries getObject entries ∧
      ∀ entry ∈ entries, Returns (item getObject entry.2)
  | .reference number => Returns (call (getObject number))
  | .array _ | .text _ | .atom _ => True

/-- A dictionary adds the name of its font, and of the font it embeds. -/
theorem visit_eq_ok (visited : visit getObject entries fonts = .ok after) :
    (name ∈ after.fnt ↔ name ∈ fonts.fnt ∨ Names getObject entries "/BaseFont" name) ∧
    (name ∈ after.emb ↔ name ∈ fonts.emb ∨ hasFontFile entries ∧ Names getObject entries "/FontName" name) := by
  obtain ⟨used, first, visited⟩ := bind_eq_ok.mp visited
  obtain ⟨embedded, second, third⟩ := bind_eq_ok.mp visited
  have same : after = embedded := by
    cases found : entries.lookup "/Subtype" with
    | none =>
      rw [found] at third
      exact (Except.ok.inj third).symm
    | some value =>
      rw [found] at third
      obtain ⟨_, _, third⟩ := bind_eq_ok.mp third
      obtain ⟨_, _, third⟩ := bind_eq_ok.mp third
      exact (Except.ok.inj third).symm
  have uses : (name ∈ used.fnt ↔ name ∈ fonts.fnt ∨ Names getObject entries "/BaseFont" name) ∧
      used.emb = fonts.emb := by
    cases found : entries.lookup "/BaseFont" with
    | none =>
      rw [found] at first
      cases first
      simp [Names, found]
    | some value =>
      rw [found] at first
      obtain ⟨resolved, followed, first⟩ := bind_eq_ok.mp first
      obtain ⟨font, hashed, first⟩ := bind_eq_ok.mp first
      cases first
      simp [Names, found, followed, hashed, eq_comm, or_comm]
  have embeds : (name ∈ embedded.emb ↔ name ∈ used.emb ∨
      hasFontFile entries ∧ Names getObject entries "/FontName" name) ∧ embedded.fnt = used.fnt := by
    cases found : entries.lookup "/FontName" with
    | none =>
      rw [found] at second
      cases second
      simp [Names, found]
    | some value =>
      rw [found] at second
      dsimp only at second
      split at second
      · rename_i file
        obtain ⟨resolved, followed, second⟩ := bind_eq_ok.mp second
        obtain ⟨font, hashed, second⟩ := bind_eq_ok.mp second
        cases second
        simp [Names, found, followed, hashed, eq_comm, or_comm, show hasFontFile entries = true from file]
      · rename_i noFile
        cases second
        simp [show ¬ hasFontFile entries = true from noFile]
  rw [same, embeds.1, embeds.2, uses.1, uses.2]
  exact ⟨Iff.rfl, Iff.rfl⟩

/-- Whether a dictionary can be visited does not depend on the fonts found before. -/
theorem visit_returns_iff : Returns (visit getObject entries fonts) ↔ LegibleEntries getObject entries := by
  constructor
  · intro returns
    obtain ⟨used, first, rest⟩ := returns_bind_iff.mp returns
    obtain ⟨embedded, second, third⟩ := returns_bind_iff.mp rest
    constructor
    · intro value found
      rw [found] at first
      exact returns_bind_map_iff.mp ⟨used, first⟩
    · intro value found file
      rw [found] at second
      dsimp only at second
      rw [if_pos (show (["/FontFile", "/FontFile2", "/FontFile3"].any _) = true from file)] at second
      exact returns_bind_map_iff.mp ⟨embedded, second⟩
    · intro value found
      rw [found] at third
      exact returns_bind_map_iff.mp third
  · rintro ⟨baseFont, fontName, subtype⟩
    unfold visit
    refine Returns.bind ?_ fun used _ => Returns.bind ?_ fun embedded _ => ?_
    · cases found : entries.lookup "/BaseFont" with
      | none => exact ⟨fonts, rfl⟩
      | some value => exact returns_bind_map_iff.mpr (baseFont value found)
    · cases found : entries.lookup "/FontName" with
      | none => exact ⟨used, rfl⟩
      | some value =>
        dsimp only
        split
        · rename_i file
          exact returns_bind_map_iff.mpr (fontName value found file)
        · exact ⟨used, rfl⟩
    · cases found : entries.lookup "/Subtype" with
      | none => exact ⟨embedded, rfl⟩
      | some value => exact returns_bind_map_iff.mpr (subtype value found)

/-- What is noted about an object can be. -/
def LegibleNames (getObject : Nat → Except LibraryError PdfObject) : PdfObject → Prop
  | .dictionary entries => LegibleEntries getObject entries
  | .array _ | .reference _ | .text _ | .atom _ => True

theorem visitObject_returns_iff (fonts : Fonts) (object : PdfObject) :
    Returns (visitObject getObject fonts object) ↔ LegibleNames getObject object := by
  cases object with
  | dictionary entries => exact visit_returns_iff
  | array | reference | text | atom => exact iff_of_true ⟨fonts, rfl⟩ trivial

/-- An object is legible when the walk can go on from it and it can be visited. -/
theorem legible_iff : Legible getObject object ↔
    Returns (parts getObject object) ∧ LegibleNames getObject object := by
  cases object with
  | dictionary entries =>
    rw [Legible, parts, LegibleNames, and_comm]
    exact and_congr_left' ⟨fun each => Returns.mapM each, fun returns _ member => returns_of_mapM returns member⟩
  | reference number =>
    rw [Legible, parts, returns_bind_iff]
    exact ⟨fun ⟨target, found⟩ => ⟨⟨target, found, _, rfl⟩, trivial⟩,
      fun ⟨⟨target, found, _⟩, _⟩ => ⟨target, found⟩⟩
  | array items => exact iff_of_true trivial ⟨⟨items, rfl⟩, trivial⟩
  | text | atom => exact iff_of_true trivial ⟨⟨[], rfl⟩, trivial⟩

/-- Visiting objects one after another collects the names of all their fonts. -/
theorem visitObjects_eq_ok {visited : List PdfObject}
    (ended : visited.foldlM (visitObject getObject) fonts = .ok after) :
    (name ∈ after.fnt ↔ name ∈ fonts.fnt ∨ ∃ object ∈ visited, UsesFont getObject object name) ∧
    (name ∈ after.emb ↔ name ∈ fonts.emb ∨ ∃ object ∈ visited, EmbedsFont getObject object name) := by
  induction visited generalizing fonts with
  | nil =>
    cases ended
    simp
  | cons first rest ih =>
    obtain ⟨middle, visits, ended⟩ := bind_eq_ok.mp ended
    have step : (name ∈ middle.fnt ↔ name ∈ fonts.fnt ∨ UsesFont getObject first name) ∧
        (name ∈ middle.emb ↔ name ∈ fonts.emb ∨ EmbedsFont getObject first name) := by
      cases first with
      | dictionary entries => simpa [UsesFont, EmbedsFont] using visit_eq_ok visits
      | array | reference | text | atom =>
        cases visits
        simp [UsesFont, EmbedsFont]
    rw [(ih ended).1, (ih ended).2, step.1, step.2]
    simp only [List.exists_mem_cons_iff, or_assoc, and_self]

theorem walk_eq_ok {pdf : PdfReader K σ} {room : Nat} : walk pdf room object fonts = .ok after ↔
    ∃ visited, traverse (parts pdf.getObject) pdf.lookupDepth .recursionError room object = .ok visited ∧
      visited.foldlM (visitObject pdf.getObject) fonts = .ok after :=
  walk_iff_traverseWith.trans traverseWith_eq_ok

/-! ## All pages of a document -/

section Document
variable {lib : Libraries K σ} {pdf : PdfReader K σ} {pages : List (Page K σ)} {page : Page K σ} {data : MemoryFile}
  {result : List Hashable × MemoryFile}

/-- The objects that the walk from the resources of a page visits, in order. -/
def objectsOf (lib : Libraries K σ) (pdf : PdfReader K σ) (page : Page K σ) : Py (List PdfObject) := do
  traverse (parts pdf.getObject) pdf.lookupDepth .recursionError lib.stackRoom (← call (pdf.resources page))

/-- The object is one of those below the resources of a page. -/
def Below (pdf : PdfReader K σ) (page : Page K σ) (object : PdfObject) : Prop :=
  ∃ root, pdf.resources page = .ok root ∧ Reachable (parts pdf.getObject) root object

/-- The resources of a page are there, the stack has room for a call of `walk` on each
object along every path below them and for looking at the last one, and every object
below them can be read. -/
def ReadableResources (lib : Libraries K σ) (pdf : PdfReader K σ) (page : Page K σ) : Prop :=
  ∃ root, pdf.resources page = .ok root ∧ Shallow (parts pdf.getObject) pdf.lookupDepth lib.stackRoom root ∧
    ∀ object, Reachable (parts pdf.getObject) root object → Legible pdf.getObject object

theorem containsUnembeddedFonts_eq_ok (opened : lib.pdfReader data.bytes = .ok pdf)
    (listed : pdf.pages = .ok pages) :
    containsUnembeddedFonts lib data = .ok result ↔ ∃ visited fonts, pages.mapM (objectsOf lib pdf) = .ok visited ∧
      visited.flatten.foldlM (visitObject pdf.getObject) ⟨[], []⟩ = .ok fonts ∧
      result = (fonts.fnt.filter fun font => font ∉ fonts.emb, (lib.leave .pypdf data).seek 0) := by
  have loop {before after : Fonts} : (pages.foldlM (fun fonts page => do
        let resources ← call (pdf.resources page)
        walk pdf lib.stackRoom resources fonts) before) = .ok after ↔
      ∃ visited, pages.mapM (objectsOf lib pdf) = .ok visited ∧
        visited.flatten.foldlM (visitObject pdf.getObject) before = .ok after := by
    apply foldlM_flatten_eq_ok
    intro page _ state next
    simp only [objectsOf, bind_eq_ok, walk_eq_ok]
    constructor
    · rintro ⟨root, found, visited, walked, ended⟩
      exact ⟨visited, ⟨root, found, walked⟩, ended⟩
    · rintro ⟨visited, ⟨root, found, walked⟩, ended⟩
      exact ⟨root, found, visited, walked, ended⟩
  simp only [containsUnembeddedFonts, opened, listed, call_ok, ok_bind, bind_eq_ok, loop]
  constructor
  · rintro ⟨fonts, ⟨visited, walked, ended⟩, ⟨⟩⟩
    exact ⟨visited, fonts, walked, ended, rfl⟩
  · rintro ⟨visited, fonts, walked, ended, rfl⟩
    exact ⟨fonts, ⟨visited, walked, ended⟩, rfl⟩

/-- A walk that ends has been to everything below the resources. -/
theorem mem_objectsOf {visited : List PdfObject} (walked : objectsOf lib pdf page = .ok visited) :
    object ∈ visited ↔ Below pdf page object := by
  obtain ⟨root, found, walked⟩ := bind_eq_ok.mp walked
  rw [call_eq_ok] at found
  rw [mem_traverse walked, Below]
  exact ⟨fun reached => ⟨root, found, reached⟩, fun ⟨other, again, reached⟩ => by
    cases found.symm.trans again
    exact reached⟩

/-- A page can be walked, and what is there be visited, exactly when its resources
are readable. -/
theorem readableResources_iff : ReadableResources lib pdf page ↔
    ∃ visited, objectsOf lib pdf page = .ok visited ∧ ∀ object ∈ visited, LegibleNames pdf.getObject object := by
  constructor
  · rintro ⟨root, found, shallow, legible⟩
    obtain ⟨visited, walked⟩ :
        Returns (traverse (parts pdf.getObject) pdf.lookupDepth PyError.recursionError lib.stackRoom root) :=
      traverse_returns_iff.mpr ⟨shallow, fun other reached => (legible_iff.mp (legible other reached)).1⟩
    exact ⟨visited, bind_eq_ok.mpr ⟨root, call_eq_ok.mpr found, walked⟩,
      fun object member => (legible_iff.mp (legible object ((mem_traverse walked).mp member))).2⟩
  · rintro ⟨visited, walked, legible⟩
    obtain ⟨root, found, walked⟩ := bind_eq_ok.mp walked
    obtain ⟨shallow, next⟩ := traverse_returns_iff.mp ⟨visited, walked⟩
    exact ⟨root, call_eq_ok.mp found, shallow, fun object reached =>
      legible_iff.mpr ⟨next object reached, legible object ((mem_traverse walked).mpr reached)⟩⟩

/-- Resources that were walked are readable. -/
theorem readableResources_of_walk {root : PdfObject} (found : pdf.resources page = .ok root)
    (walked : walk pdf lib.stackRoom root fonts = .ok after) : ReadableResources lib pdf page := by
  obtain ⟨visited, traversed, ended⟩ := walk_eq_ok.mp walked
  refine readableResources_iff.mpr ⟨visited, bind_eq_ok.mpr ⟨root, call_eq_ok.mpr found, traversed⟩, ?_⟩
  exact (returns_foldlM_iff visitObject_returns_iff).mp ⟨after, ended⟩

/-- The fonts of a document are collected exactly when the resources of every page
are readable. -/
theorem containsUnembeddedFonts_returns_iff (opened : lib.pdfReader data.bytes = .ok pdf)
    (listed : pdf.pages = .ok pages) :
    Returns (containsUnembeddedFonts lib data) ↔ ∀ page ∈ pages, ReadableResources lib pdf page := by
  have visits (visited : List (List PdfObject)) :
      Returns (visited.flatten.foldlM (visitObject pdf.getObject) ⟨[], []⟩) ↔
        ∀ objects ∈ visited, ∀ object ∈ objects, LegibleNames pdf.getObject object := by
    rw [returns_foldlM_iff visitObject_returns_iff]
    simp only [List.mem_flatten]
    exact ⟨fun each objects inside object member => each object ⟨objects, inside, member⟩,
      fun each object ⟨objects, inside, member⟩ => each objects inside object member⟩
  constructor
  · rintro ⟨result, returned⟩ page member
    obtain ⟨visited, fonts, walked, ended, rfl⟩ := (containsUnembeddedFonts_eq_ok opened listed).mp returned
    obtain ⟨objects, found⟩ := returns_of_mapM ⟨visited, walked⟩ member
    exact readableResources_iff.mpr ⟨objects, found,
      (visits visited).mp ⟨fonts, ended⟩ objects ((mem_mapM walked).mpr ⟨page, member, found⟩)⟩
  · intro readable
    obtain ⟨visited, walked⟩ : Returns (pages.mapM (objectsOf lib pdf)) := Returns.mapM fun page member => by
      obtain ⟨objects, found, _⟩ := readableResources_iff.mp (readable page member)
      exact ⟨objects, found⟩
    obtain ⟨fonts, ended⟩ := (visits visited).mpr fun objects member => by
      obtain ⟨page, inPages, found⟩ := (mem_mapM walked).mp member
      obtain ⟨others, again, legible⟩ := readableResources_iff.mp (readable page inPages)
      cases found.symm.trans again
      exact legible
    exact ⟨_, (containsUnembeddedFonts_eq_ok opened listed).mpr ⟨visited, fonts, walked, ended, rfl⟩⟩

/-- The fonts that are reported: those used below the resources of some page, less
those embedded below the resources of some page. -/
theorem mem_containsUnembeddedFonts (opened : lib.pdfReader data.bytes = .ok pdf) (listed : pdf.pages = .ok pages)
    (returned : containsUnembeddedFonts lib data = .ok result) :
    name ∈ result.1 ↔
      (∃ page ∈ pages, ∃ object, Below pdf page object ∧ UsesFont pdf.getObject object name) ∧
      ¬ ∃ page ∈ pages, ∃ object, Below pdf page object ∧ EmbedsFont pdf.getObject object name := by
  obtain ⟨visited, fonts, walked, ended, rfl⟩ := (containsUnembeddedFonts_eq_ok opened listed).mp returned
  have below (object : PdfObject) : object ∈ visited.flatten ↔ ∃ page ∈ pages, Below pdf page object := by
    simp only [List.mem_flatten, mem_mapM walked]
    constructor
    · rintro ⟨objects, ⟨page, member, found⟩, inside⟩
      exact ⟨page, member, (mem_objectsOf found).mp inside⟩
    · rintro ⟨page, member, reached⟩
      obtain ⟨objects, found⟩ := returns_of_mapM ⟨visited, walked⟩ member
      exact ⟨objects, ⟨page, member, found⟩, (mem_objectsOf found).mpr reached⟩
  have some (has : PdfObject → Prop) :
      (∃ object ∈ visited.flatten, has object) ↔ ∃ page ∈ pages, ∃ object, Below pdf page object ∧ has object := by
    simp only [below]
    exact ⟨fun ⟨object, ⟨page, member, reached⟩, holds⟩ => ⟨page, member, object, reached, holds⟩,
      fun ⟨page, member, object, reached, holds⟩ => ⟨object, ⟨page, member, reached⟩, holds⟩⟩
  rw [List.mem_filter, decide_eq_true_iff, (visitObjects_eq_ok ended).1, (visitObjects_eq_ok ended).2, some, some]
  simp

/-- The collection of the fonts ends, and for every page the walk from its resources
does to the fonts found before what visiting objects one after another does, every
object below the resources being among them. -/
def ProcessesResources (lib : Libraries K σ) (pdf : PdfReader K σ) (pages : List (Page K σ)) (data : MemoryFile) :
    Prop :=
  Returns (containsUnembeddedFonts lib data) ∧
  ∀ page ∈ pages, ∃ (root : PdfObject) (visited : List PdfObject), pdf.resources page = .ok root ∧
    (∀ before after, walk pdf lib.stackRoom root before = .ok after ↔
      visited.foldlM (visitObject pdf.getObject) before = .ok after) ∧
    ∀ object, Reachable (parts pdf.getObject) root object → object ∈ visited

/-- The resources of all pages are processed exactly when those of each page are
readable, which they are not once something below them refers back. -/
theorem resources_processed_iff (opened : lib.pdfReader data.bytes = .ok pdf) (listed : pdf.pages = .ok pages) :
    ProcessesResources lib pdf pages data ↔ ∀ page ∈ pages, ReadableResources lib pdf page := by
  rw [ProcessesResources, containsUnembeddedFonts_returns_iff opened listed]
  apply and_iff_left_of_imp
  intro readable page member
  obtain ⟨visited, walked, _⟩ := readableResources_iff.mp (readable page member)
  obtain ⟨root, found, walked⟩ := bind_eq_ok.mp walked
  refine ⟨root, visited, call_eq_ok.mp found, fun before after => ?_, fun object => (mem_traverse walked).mpr⟩
  rw [walk_eq_ok]
  exact ⟨fun ⟨others, again, ended⟩ => Except.ok.inj (walked.symm.trans again) ▸ ended,
    fun ended => ⟨visited, walked, ended⟩⟩

/-- Resources below which something refers back to one of its ancestors are never
readable, however much room the stack has. -/
theorem not_readableResources_of_cycle (below : Below pdf page object)
    (cycle : Relation.TransGen (Child (parts pdf.getObject)) object object) : ¬ ReadableResources lib pdf page := by
  rintro ⟨root, found, shallow, legible⟩
  obtain ⟨other, again, reached⟩ := below
  cases found.symm.trans again
  have walked : Returns (traverse (parts pdf.getObject) pdf.lookupDepth PyError.recursionError lib.stackRoom root) :=
    traverse_returns_iff.mpr ⟨shallow, fun other reached => (legible_iff.mp (legible other reached)).1⟩
  exact not_returns_of_cycle reached cycle walked

end Document

/-! ## Documents with given resources -/

open InMemoryLibraries

/-- A document all of whose pages have the same resources. -/
def documentWith (root : PdfObject) (getObject : Nat → Except LibraryError PdfObject) (pages : List TextPage) :
    PdfReader ℚ (List (Word ℚ)) :=
  { blankReader pages with resources := fun _ => .ok root, getObject := getObject }

def librariesWith (root : PdfObject) (getObject : Nat → Except LibraryError PdfObject) :
    Libraries ℚ (List (Word ℚ)) :=
  { libraries with pdfReader := fun bytes => do return documentWith root getObject (← readDocument bytes) }

theorem librariesWith_opens (root : PdfObject) (getObject : Nat → Except LibraryError PdfObject)
    (pages : List TextPage) :
    (librariesWith root getObject).pdfReader (encodePages pages) = .ok (documentWith root getObject pages) := by
  simp [librariesWith]

/-- The resources of a page hold a form, and those of the form are the page's own. -/
def formResources : PdfObject := .dictionary [("/XObject", .dictionary [("/Fm0", .reference 5)])]

def formObjects : Nat → Except LibraryError PdfObject
  | 4 => .ok formResources
  | 5 => .ok (.dictionary [("/Subtype", .text "/Form"), ("/Resources", .reference 4)])
  | _ => .ok (.text "")

/-- Forms with resources of their own. -/
def plainObjects (_ : Nat) : Except LibraryError PdfObject :=
  .ok (.dictionary [("/Subtype", .text "/Form"), ("/Resources", .dictionary [])])

theorem plain_resources_are_processed :
    ProcessesResources (librariesWith formResources plainObjects)
      (documentWith formResources plainObjects [blankPage])
        [blankPage] ⟨encodePages [blankPage], 0⟩ := by
  have walked : walk (documentWith formResources plainObjects [blankPage])
      (librariesWith formResources plainObjects).stackRoom formResources ⟨[], []⟩ = .ok ⟨[], []⟩ := rfl
  exact (resources_processed_iff (librariesWith_opens _ _ _) rfl).mpr fun page _ =>
    readableResources_of_walk rfl walked

theorem form_resources_are_not_processed :
    ¬ ProcessesResources (librariesWith formResources formObjects)
      (documentWith formResources formObjects [blankPage])
        [blankPage] ⟨encodePages [blankPage], 0⟩ := by
  rintro ⟨returns, _⟩
  have readable := (containsUnembeddedFonts_returns_iff (librariesWith_opens _ _ _) rfl).mp returns blankPage
    (by simp)
  refine not_readableResources_of_cycle ⟨formResources, rfl, .refl⟩ ?_ readable
  have forms : Child (parts formObjects) formResources (.dictionary [("/Fm0", .reference 5)]) :=
    ⟨_, rfl, by simp⟩
  have form : Child (parts formObjects) (.dictionary [("/Fm0", .reference 5)])
      (.dictionary [("/Subtype", .text "/Form"), ("/Resources", .reference 4)]) := ⟨_, rfl, by simp⟩
  have again : Child (parts formObjects) (.dictionary [("/Subtype", .text "/Form"), ("/Resources", .reference 4)])
      formResources := ⟨_, rfl, by simp⟩
  exact .tail (.tail (.single forms) form) again

end TemplatePreview.FontWalk
