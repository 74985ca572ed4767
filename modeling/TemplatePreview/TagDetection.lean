import TemplatePreview.Sanitisation

/-! When the test for the NOTIFY tag finds the tag. It compares all the text in the
tag box with the tag, so a tag is found only where no other word reaches into the
box, which overlaps the printable area. -/
namespace TemplatePreview.TagDetection
open Region PageLayout Pdf Outcomes TextExtraction PageValidation Overlays Sanitisation
open AddressRewrite EmbeddedFonts

variable {K σ : Type} [Field K] [LinearOrder K] {lib : Libraries K σ} {words : List (Word K)}

/-- The words of a page that reach into the tag box. -/
def wordsInTagBox (words : List (Word K)) : List (Word K) :=
  words.filter fun word => word.box.Intersects notifyTagBoundingBox

/-- Some word in the tag box reads as the tag. -/
def HasTag (lib : Libraries K σ) (words : List (Word K)) : Prop :=
  ∃ word ∈ wordsInTagBox words, UnicodeForms.nfkd lib.unicode word.text = notifyTagText

/-- A tag has the tag box to itself. -/
def TagAlone (lib : Libraries K σ) (words : List (Word K)) : Prop :=
  HasTag lib words → (wordsInTagBox words).length = 1

/-- What a library says of the words of a page. -/
def OnPage (lib : Libraries K σ) (property : List (Word K) → Prop) (page : Page K σ) : Prop :=
  ∃ words, lib.getTextWords page = .ok words ∧ property words

omit [Field K] [LinearOrder K] in
private theorem space_mem_joinLines (first next : Word K) (rest : List (Word K)) :
    ' ' ∈ (joinLines [first :: next :: rest]).toList := by
  simp [joinLines, String.intercalate_cons_cons]

omit [Field K] [LinearOrder K] in
private theorem newline_mem_joinLines (first next : List (Word K)) (rest : List (List (Word K))) :
    '\n' ∈ (joinLines (first :: next :: rest)).toList := by
  simp [joinLines, String.intercalate_cons_cons]

omit [Field K] [LinearOrder K] in
private theorem ne_tag_of_separator {separator : Char} (starter : lib.unicode.Starter separator)
    (other : separator ∉ notifyTagText.toList) {text : String} (member : separator ∈ text.toList) :
    UnicodeForms.nfkd lib.unicode text ≠ notifyTagText := fun same =>
  other (same ▸ UnicodeForms.starter_mem_nfkd starter member)

/-- The text in the tag box is the tag exactly when the tag is the only word in
the box. -/
theorem text_eq_tag_iff (space : lib.unicode.Starter ' ') (newline : lib.unicode.Starter '\n') :
    UnicodeForms.nfkd lib.unicode (joinLines (linesIn notifyTagBoundingBox words)) = notifyTagText ↔
      ∃ word, wordsInTagBox words = [word] ∧ UnicodeForms.nfkd lib.unicode word.text = notifyTagText := by
  have kept : (linesIn notifyTagBoundingBox words).flatten.Perm (wordsInTagBox words) := by
    rw [linesIn, Grouping.flatten_groupRuns]
    exact Grouping.sortBy_perm _
  have nonempty : [] ∉ linesIn notifyTagBoundingBox words := Grouping.groupRuns_nonempty _
  generalize linesIn notifyTagBoundingBox words = lines at kept nonempty ⊢
  cases lines with
  | nil =>
    rw [← List.nil_perm.mp kept]
    simp [joinLines, UnicodeForms.nfkd, UnicodeForms.reorder, notifyTagText]
  | cons line lines =>
    cases line with
    | nil => simp at nonempty
    | cons first line =>
      cases lines with
      | nil =>
        cases line with
        | nil =>
          have single : wordsInTagBox words = [first] := (List.singleton_perm.mp (by simpa using kept)).symm
          simp [joinLines, single]
        | cons next rest =>
          apply iff_of_false (ne_tag_of_separator space (by decide) (space_mem_joinLines first next rest))
          rintro ⟨word, single, _⟩
          simpa [single] using kept.length_eq
      | cons second rest =>
        cases second with
        | nil => simp at nonempty
        | cons next others =>
          apply iff_of_false (ne_tag_of_separator newline (by decide) (newline_mem_joinLines _ _ rest))
          rintro ⟨word, single, _⟩
          have long := kept.length_eq
          simp only [single, List.flatten_cons, List.length_append, List.length_cons, List.length_nil] at long
          omega

/-- Whether the test finds the tag where there is one. -/
theorem detects_iff (found : Prop) (exact : found ↔ ∃ word, wordsInTagBox words = [word] ∧
    UnicodeForms.nfkd lib.unicode word.text = notifyTagText) :
    (found ↔ HasTag lib words) ↔ TagAlone lib words := by
  have sound : found → HasTag lib words := by
    intro detected
    obtain ⟨word, single, reads⟩ := exact.mp detected
    exact ⟨word, by simp [single], reads⟩
  constructor
  · intro detects present
    obtain ⟨word, single, _⟩ := exact.mp (detects.mpr present)
    rw [single, List.length_singleton]
  · intro alone
    refine ⟨sound, fun present => exact.mpr ?_⟩
    obtain ⟨only, single⟩ := List.length_eq_one_iff.mp (alone present)
    obtain ⟨word, member, reads⟩ := present
    rw [single, List.mem_singleton] at member
    exact ⟨only, single, member ▸ reads⟩

/-! ## The two users of the test -/

section Users
variable {render : Page K σ → Image} {file out : MemoryFile} {page : Page K σ} {pages rest : List (Page K σ)}

/-- The canvas of `add_notify_tag_to_letter`. -/
def tagCanvas (page : Page K σ) : NotifyCanvas K :=
  (NotifyCanvas.new white).drawString font notifyTagFontSize (notifyTagFromLeftOfPage * mm)
    (page.mediabox.y1 - (notifyTagFromTopOfPage + notifyTagLineHeight) * mm) notifyTagText

omit [LinearOrder K] in
/-- Adding the tag draws it on the first page and leaves the others. -/
theorem addNotifyTagToLetter_eq_ok (lawful : lib.Lawful render) (added : addNotifyTagToLetter lib file = .ok out) :
    ∃ page rest, lib.readPages file.bytes = .ok (page :: rest) ∧ out.position = 0 ∧
      lib.readPages out.bytes = .ok (page.merge (tagCanvas page) :: rest) := by
  obtain ⟨pdf, read, added⟩ := bind_eq_ok.mp added
  cases pdf with
  | nil => cases added
  | cons page rest =>
    obtain ⟨_, _, added⟩ := bind_eq_ok.mp added
    obtain ⟨after, merged, added⟩ := bind_eq_ok.mp added
    obtain ⟨bytes, written, added⟩ := bind_eq_ok.mp added
    cases added
    refine ⟨page, rest, call_eq_ok.mp read, rfl, ?_⟩
    rw [lawful.written (call_eq_ok.mp written), lawful.merged (call_eq_ok.mp merged)]
    rfl

theorem bearsTag_iff (reliable : lib.Reliable) (found : lib.getTextWords page = .ok words) :
    BearsTag lib page ↔
      UnicodeForms.nfkd lib.unicode (joinLines (linesIn notifyTagBoundingBox words)) = notifyTagText := by
  rw [BearsTag, extractTextFromPage_ok reliable found, Except.ok.injEq]
  rfl

/-- The test on the first page of a document. -/
theorem isNotifyTagPresent_ok (lawful : lib.Lawful render) (reliable : lib.Reliable)
    (read : lib.readPages file.bytes = .ok (page :: rest)) (found : lib.getTextWords page = .ok words) :
    ∃ present, isNotifyTagPresent lib file = .ok (present, file.seek 0) ∧
      (present = true ↔ UnicodeForms.nfkd lib.unicode
        (joinLines (linesIn notifyTagBoundingBox words)) = notifyTagText) := by
  obtain ⟨doc, opened⟩ := reliable.openDocument read
  have same := lawful.opened read opened
  subst same
  refine ⟨_, ?_, beq_iff_eq⟩
  simp only [isNotifyTagPresent, extractTextFromFirstPageOfPdf, MemoryFile.seek_bytes, opened, call_ok, ok_bind,
    extractTextFromPage_ok reliable found, pure_eq_ok]
  rfl

/-- A letter that has a tag before the test is left alone exactly when the test
finds it. -/
theorem tag_not_added_iff (lawful : lib.Lawful render) {normalised tested : MemoryFile} {present : Bool}
    (testing : isNotifyTagPresent lib normalised = .ok (present, tested))
    (last : if present then out = tested else addNotifyTagToLetter lib tested = .ok out) :
    out.bytes = normalised.bytes ↔ present = true := by
  obtain ⟨rfl, _⟩ := isNotifyTagPresent_eq_ok testing
  cases present with
  | true =>
    obtain rfl : out = normalised.seek 0 := last
    exact iff_of_true rfl rfl
  | false =>
    obtain ⟨page, rest, read, _, readOut⟩ := addNotifyTagToLetter_eq_ok lawful last
    refine iff_of_false (fun same => ?_) (by simp)
    rw [same, ← MemoryFile.seek_bytes normalised 0, read] at readOut
    -- merging adds to what was merged before
    have drawn := congrArg (fun page => page.merged.length) (List.cons.inj (Except.ok.inj readOut)).1
    simp [Page.merge, tagCanvas, NotifyCanvas.drawString, NotifyCanvas.new] at drawn

omit [Field K] [LinearOrder K] in
theorem onPage_iff {property : List (Word K) → Prop} (found : lib.getTextWords page = .ok words) :
    OnPage lib property page ↔ property words := by
  constructor
  · rintro ⟨others, again, holds⟩
    cases found.symm.trans again
    exact holds
  · exact fun holds => ⟨words, found, holds⟩

/-- The tag of a page is found exactly when no other word reaches into the tag
box: by the test itself, by the list of pages with a tag, by the test on the first
page, and by the step that adds a tag to a letter without one. -/
theorem tag_detected_iff_alone (lawful : lib.Lawful render) (reliable : lib.Reliable)
    (space : lib.unicode.Starter ' ') (newline : lib.unicode.Starter '\n') :
    (∀ page words, lib.getTextWords page = .ok words →
      ((BearsTag lib page ↔ HasTag lib words) ↔ TagAlone lib words)) ∧
    (∀ file pages isAnAttachment, lib.readPages file.bytes = .ok pages → pages ≠ [] → ∃ numbers after,
      getPagesWithNotifyTag lib file isAnAttachment = .ok (numbers, after) ∧
      (NumbersOf (fun index page => ¬ isAddressPage isAnAttachment index ∧ OnPage lib (HasTag lib) page)
          pages numbers ↔
        ∀ index page, pages[index]? = some page → ¬ isAddressPage isAnAttachment index →
          OnPage lib (TagAlone lib) page)) ∧
    (∀ file page rest words, lib.readPages file.bytes = .ok (page :: rest) → lib.getTextWords page = .ok words →
      ∃ present, isNotifyTagPresent lib file = .ok (present, file.seek 0) ∧
        ((present = true ↔ HasTag lib words) ↔ TagAlone lib words)) ∧
    (∀ file pageCount allow out address, rewritePdf lib file pageCount allow = .ok (out, address) →
      ∃ logged rewritten normalised page rest words, logMetadataForLetter lib file = .ok logged ∧
        rewriteAddressBlock lib logged pageCount allow = .ok (rewritten, address) ∧
        normaliseFontsAndColours lib rewritten = .ok normalised ∧
        lib.openDocument normalised.bytes = .ok (page :: rest) ∧ lib.getTextWords page = .ok words ∧
        (HasTag lib words → (out.bytes = normalised.bytes ↔ TagAlone lib words))) := by
  have onWords (page : Page K σ) (words : List (Word K)) (found : lib.getTextWords page = .ok words) :
      (BearsTag lib page ↔ HasTag lib words) ↔ TagAlone lib words :=
    detects_iff _ ((bearsTag_iff reliable found).trans (text_eq_tag_iff space newline))
  refine ⟨onWords, ?_, ?_, ?_⟩
  · intro file pages isAnAttachment read nonempty
    obtain ⟨⟨numbers, after⟩, checked⟩ := getPagesWithNotifyTag_returns lawful reliable isAnAttachment read nonempty
    refine ⟨numbers, after, checked, ?_⟩
    rw [numbersOf_iff (getPagesWithNotifyTag_eq_ok lawful read checked)]
    refine forall_congr' fun index => forall_congr' fun page => imp_congr_right fun _ => ?_
    obtain ⟨words, found⟩ := reliable.getTextWords page
    rw [onPage_iff found, onPage_iff found, ← onWords page words found]
    tauto
  · intro file page rest words read found
    obtain ⟨present, tested, exact⟩ := isNotifyTagPresent_ok lawful reliable read found
    exact ⟨present, tested, detects_iff _ (exact.trans (text_eq_tag_iff space newline))⟩
  · intro file pageCount allow out address returned
    obtain ⟨logged, rewritten, normalised, tested, present, logging, rewriting, normalising, testing, last⟩ :=
      rewritePdf_eq_ok returned
    obtain ⟨_, page, rest, words, opened, found, exact⟩ := isNotifyTagPresent_eq_ok testing
    refine ⟨logged, rewritten, normalised, page, rest, words, logging, rewriting, normalising, opened, found,
      fun tagged => ?_⟩
    rw [tag_not_added_iff lawful testing last,
      ← detects_iff _ (exact.trans (text_eq_tag_iff space newline))]
    simp [tagged]

end Users

section InMemory
open InMemoryLibraries

/-- A tag where it belongs, and a word that starts where content may start. -/
def crowdedPage : TextPage :=
  { blankPage with
    source := [⟨⟨5.1, 5.1, 27, 13.1⟩, "NOTIFY", 0, 0, 0⟩, ⟨⟨42.6, 15, 80, 25⟩, "Reference", 1, 0, 0⟩] }

/-- A tag that has its box to itself. -/
def taggedPage : TextPage := { blankPage with source := [⟨⟨5.1, 5.1, 27, 13.1⟩, "NOTIFY", 0, 0, 0⟩] }

theorem taggedPage_is_detected : BearsTag libraries taggedPage := by
  have boxed : wordsInTagBox (wordsOn taggedPage) = taggedPage.source := by decide +kernel
  have tagged : HasTag libraries (wordsOn taggedPage) :=
    ⟨⟨⟨5.1, 5.1, 27, 13.1⟩, "NOTIFY", 0, 0, 0⟩, by rw [boxed]; exact List.mem_cons_self, stable "NOTIFY"⟩
  have alone : TagAlone libraries (wordsOn taggedPage) := fun _ => by rw [boxed]; rfl
  exact (((tag_detected_iff_alone lawful reliable ⟨rfl, rfl⟩ ⟨rfl, rfl⟩).1 taggedPage _ rfl).mpr alone).mpr tagged

/-- A tag next to other text is not found. -/
theorem crowded_tag_is_missed :
    ¬ ∀ (page : TextPage) words, libraries.getTextWords page = .ok words →
      (BearsTag libraries page ↔ HasTag libraries words) := by
  intro exact
  have crowded : wordsInTagBox (wordsOn crowdedPage) = crowdedPage.source := by decide +kernel
  have tagged : HasTag libraries (wordsOn crowdedPage) :=
    ⟨⟨⟨5.1, 5.1, 27, 13.1⟩, "NOTIFY", 0, 0, 0⟩, by rw [crowded]; exact List.mem_cons_self, stable "NOTIFY"⟩
  have found := (exact crowdedPage _ rfl).mpr tagged
  rw [bearsTag_iff reliable (rfl : libraries.getTextWords crowdedPage = .ok (wordsOn crowdedPage)),
    text_eq_tag_iff ⟨rfl, rfl⟩ ⟨rfl, rfl⟩, crowded] at found
  obtain ⟨word, single, _⟩ := found
  simpa [crowdedPage] using congrArg List.length single

end InMemory

end TemplatePreview.TagDetection
