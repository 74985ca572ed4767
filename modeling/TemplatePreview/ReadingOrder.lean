import TemplatePreview.InMemoryLibraries

/-! The text of a rectangle of a page. Words are reported in any order; sorting by
position and cutting where the line changes gives every line once, whole and in
reading order, because the sort key refines the line. -/
namespace TemplatePreview.ReadingOrder
open Region Pdf Outcomes TextExtraction Grouping

variable {K σ : Type} [LinearOrder K] {rect : Box K} {words : List (Word K)}

/-- The lines of a rectangle, each with its block and line number: one for every
pair that a word in the rectangle has, in order, holding exactly those words from
left to right. -/
structure ReadsAs (rect : Box K) (words : List (Word K)) (lines : List ((ℕ × ℕ) × List (Word K))) : Prop where
  ordered : lines.Pairwise fun one other => toLex one.1 < toLex other.1
  pairs : ∀ pair, pair ∈ lines.map Prod.fst ↔
    ∃ word ∈ words, word.box.Intersects rect ∧ Word.blockLine word = pair
  holds : ∀ line ∈ lines, ∀ word, word ∈ line.2 ↔
    word ∈ words ∧ word.box.Intersects rect ∧ Word.blockLine word = line.1
  numbered : ∀ line ∈ lines, line.2.Pairwise fun one other => one.word < other.word
  once : (lines.map Prod.snd).flatten.Perm (words.filter fun word => word.box.Intersects rect)

/-- A line with the block and line number of its words. -/
def labelled (line : List (Word K)) : (ℕ × ℕ) × List (Word K) := ((line.map Word.blockLine).headD (0, 0), line)

omit [LinearOrder K] in
private theorem labelled_snd (lines : List (List (Word K))) : (lines.map labelled).map Prod.snd = lines := by
  simp [labelled, Function.comp_def]

private theorem label_eq {line : List (Word K)} (member : line ∈ linesIn rect words) {word : Word K}
    (inLine : word ∈ line) : (labelled line).1 = Word.blockLine word := by
  cases line with
  | nil => cases inLine
  | cons first rest => exact groupRuns_alike member List.mem_cons_self inLine

omit [LinearOrder K] in
/-- The position of a word refines the pair of its block and line number. -/
theorem blockLine_le {one other : Word K} (below : Word.position one ≤ Word.position other) :
    toLex (Word.blockLine one) ≤ toLex (Word.blockLine other) := by
  simp only [Word.position, Word.blockLine, Prod.Lex.toLex_le_toLex] at below ⊢
  rcases below with block | ⟨block, line | ⟨line, _⟩⟩
  · exact .inl block
  · exact .inr ⟨block, line.le⟩
  · exact .inr ⟨block, line.le⟩

theorem flatten_linesIn : (linesIn rect words).flatten.Perm
    (words.filter fun word => word.box.Intersects rect) := by
  rw [linesIn, flatten_groupRuns]
  exact sortBy_perm _

private theorem mem_linesIn {word : Word K} :
    (∃ line ∈ linesIn rect words, word ∈ line) ↔ word ∈ words ∧ word.box.Intersects rect := by
  rw [← List.mem_flatten, flatten_linesIn.mem_iff]
  simp

private theorem distinct_filter (distinct : (words.map Word.position).Nodup) :
    ((words.filter fun word => word.box.Intersects rect).map Word.position).Nodup :=
  distinct.sublist (List.filter_sublist.map _)

private theorem labels_increasing :
    (linesIn rect words).Pairwise fun one other => toLex (labelled one).1 < toLex (labelled other).1 := by
  have value (one other : Word K) : Word.blockLine one = Word.blockLine other ↔
      toLex (Word.blockLine one) = toLex (Word.blockLine other) := toLex.injective.eq_iff.symm
  have apart := groupRuns_sorted value (fun _ _ => blockLine_le) (words.filter fun word => word.box.Intersects rect)
  refine List.Pairwise.imp_of_mem (fun {one other} left right less => ?_) apart
  have filled : ∀ line ∈ linesIn rect words, line ≠ [] := fun line member empty =>
    groupRuns_nonempty _ (empty ▸ member)
  obtain ⟨first, inOne⟩ := List.exists_mem_of_ne_nil one (filled one left)
  obtain ⟨second, inOther⟩ := List.exists_mem_of_ne_nil other (filled other right)
  rw [label_eq left inOne, label_eq right inOther]
  exact less first inOne second inOther

/-- Sorting and grouping gives the lines of the rectangle. -/
theorem linesIn_reads (distinct : (words.map Word.position).Nodup) :
    ReadsAs rect words ((linesIn rect words).map labelled) where
  ordered := List.pairwise_map.mpr labels_increasing
  pairs := by
    intro pair
    simp only [List.map_map, List.mem_map, Function.comp_apply]
    constructor
    · rintro ⟨line, member, rfl⟩
      have filled : line ≠ [] := fun empty => groupRuns_nonempty _ (empty ▸ member)
      obtain ⟨word, inLine⟩ := List.exists_mem_of_ne_nil line filled
      obtain ⟨inWords, inside⟩ := mem_linesIn.mp ⟨line, member, inLine⟩
      exact ⟨word, inWords, inside, (label_eq member inLine).symm⟩
    · rintro ⟨word, inWords, inside, rfl⟩
      obtain ⟨line, member, inLine⟩ := mem_linesIn.mpr ⟨inWords, inside⟩
      exact ⟨line, member, label_eq member inLine⟩
  holds := by
    intro labelledLine member word
    obtain ⟨line, inLines, rfl⟩ := List.mem_map.mp member
    constructor
    · intro inLine
      obtain ⟨inWords, inside⟩ := mem_linesIn.mp ⟨line, inLines, inLine⟩
      exact ⟨inWords, inside, (label_eq inLines inLine).symm⟩
    · rintro ⟨inWords, inside, same⟩
      obtain ⟨other, otherIn, inOther⟩ := mem_linesIn.mpr ⟨inWords, inside⟩
      -- no two lines have the same label
      have labels : ((linesIn rect words).map fun line => (labelled line).1).Nodup :=
        List.pairwise_map.mpr (labels_increasing.imp fun less equal => less.ne (congrArg toLex equal))
      have found : other = line :=
        List.inj_on_of_nodup_map labels otherIn inLines ((label_eq otherIn inOther).trans same)
      exact found ▸ inOther
  numbered := by
    intro labelledLine member
    obtain ⟨line, inLines, rfl⟩ := List.mem_map.mp member
    have increasing : (linesIn rect words).flatten.Pairwise fun one other =>
      Word.position one < Word.position other := by
      rw [linesIn, flatten_groupRuns]
      exact sortBy_increasing (distinct_filter distinct)
    refine List.Pairwise.imp_of_mem (fun {one other} left right less => ?_)
      ((List.pairwise_flatten.mp increasing).1 line inLines)
    have same := groupRuns_alike inLines left right
    simp only [Word.blockLine, Prod.mk.injEq] at same
    simpa [Word.position, Prod.Lex.toLex_lt_toLex, same.1, same.2] using less
  once := by
    rw [labelled_snd]
    exact flatten_linesIn

/-- Only the words in the rectangle matter, and not their order. -/
theorem linesIn_congr {others extra : List (Word K)} (same : others.Perm (words ++ extra))
    (outside : ∀ word ∈ extra, ¬ word.box.Intersects rect) (distinct : (words.map Word.position).Nodup) :
    linesIn rect others = linesIn rect words := by
  have kept : (others.filter fun word => word.box.Intersects rect).Perm
      (words.filter fun word => word.box.Intersects rect) := by
    have none : (extra.filter fun word => word.box.Intersects rect) = [] :=
      List.filter_eq_nil_iff.mpr (by simpa using outside)
    simpa [none] using same.filter fun word => decide (word.box.Intersects rect)
  rw [linesIn, linesIn, sortBy_congr kept (distinct_filter distinct)]

section Extraction
variable [Field K] {lib : Libraries K σ} {page : Page K σ}

/-- The extracted text has one line for each line of the page with a word in the
rectangle, and depends on nothing but those words. -/
theorem extracted_in_reading_order (reliable : lib.Reliable) (read : lib.getTextWords page = .ok words)
    (distinct : (words.map Word.position).Nodup) (rect : Box K) :
    (∃ lines, ReadsAs rect words lines ∧ extractTextFromPage lib page rect =
      .ok (UnicodeForms.nfkd lib.unicode
        ("\n".intercalate (lines.map fun line => " ".intercalate (line.2.map Word.text))))) ∧
    ∀ (other : Page K σ) (others extra : List (Word K)), lib.getTextWords other = .ok others →
      others.Perm (words ++ extra) → (∀ word ∈ extra, ¬ word.box.Intersects rect) →
      extractTextFromPage lib other rect = extractTextFromPage lib page rect := by
  refine ⟨⟨_, linesIn_reads distinct, ?_⟩, fun other others extra readOther same outside => ?_⟩
  · rw [extractTextFromPage_ok reliable read, joinLines, List.map_map]
    rfl
  · rw [extractTextFromPage_ok reliable read, extractTextFromPage_ok reliable readOther,
      linesIn_congr same outside distinct]

end Extraction

section InMemory
open InMemoryLibraries PageLayout

/-- Two lines of an address, reported from the bottom right. -/
def shuffledPage : TextPage :=
  { blankPage with
    source := [⟨⟨135, 140, 150, 150⟩, "7AA", 1, 1, 1⟩, ⟨⟨100, 140, 130, 150⟩, "N1", 1, 1, 0⟩,
      ⟨⟨100, 130, 130, 140⟩, "London", 1, 0, 0⟩] }

/-- The same words in another order, above a word that is not in the address. -/
def footedPage : TextPage :=
  { blankPage with
    source := [⟨⟨100, 130, 130, 140⟩, "London", 1, 0, 0⟩, ⟨⟨100, 140, 130, 150⟩, "N1", 1, 1, 0⟩,
      ⟨⟨135, 140, 150, 150⟩, "7AA", 1, 1, 1⟩, ⟨⟨100, 700, 130, 710⟩, "1", 2, 0, 0⟩] }

theorem shuffledPage_in_reading_order :
    (∃ lines, ReadsAs addressBoundingBox (wordsOn shuffledPage) lines ∧
      extractTextFromPage libraries shuffledPage addressBoundingBox = .ok (UnicodeForms.nfkd libraries.unicode
        ("\n".intercalate (lines.map fun line => " ".intercalate (line.2.map Word.text))))) ∧
    extractTextFromPage libraries footedPage addressBoundingBox =
      extractTextFromPage libraries shuffledPage addressBoundingBox := by
  have words : libraries.getTextWords shuffledPage = .ok (wordsOn shuffledPage) := rfl
  obtain ⟨reads, unchanged⟩ := extracted_in_reading_order reliable words (by decide) addressBoundingBox
  refine ⟨reads, unchanged footedPage _ [⟨⟨100, 700, 130, 710⟩, "1", 2, 0, 0⟩] rfl ?_ ?_⟩
  · decide +kernel
  · decide +kernel

example : joinLines (linesIn addressBoundingBox (wordsOn shuffledPage)) = "London\nN1 7AA" := by decide +kernel

end InMemory

end TemplatePreview.ReadingOrder
