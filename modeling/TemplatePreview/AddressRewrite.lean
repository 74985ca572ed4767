import TemplatePreview.AddressWindow

/-! The address of a letter is read, checked, removed and written again at its
place. What is read back is what was written: the lines are drawn upwards from the
bottom of the window and read downwards from the top of the page. -/
namespace TemplatePreview.AddressRewrite
open Region PageLayout Pdf Outcomes TextExtraction AddressWindow Grouping

variable {K σ : Type} [Field K] [LinearOrder K]

/-- `PrecompiledPostalAddress.error_code`. -/
def errorCode (address : PostalAddress) (allowInternationalLetters : Bool) : Option String :=
  if !address.nonempty then some "address-is-empty"
  else if !address.hasEnoughLines then some "not-enough-address-lines"
  else if address.hasTooManyLines then some "too-many-address-lines"
  else if !address.hasAlphanumericCharacterInAddressLines1And2 then some "invalid-address-line-1-or-2"
  else if address.hasInvalidCountryForBfpoAddress then some "has-country-for-bfpo-address"
  else if !address.hasValidLastLine then
    if allowInternationalLetters then some "not-a-real-uk-postcode-or-country"
    else if address.international then some "cant-send-international-letters"
    else some "not-a-real-uk-postcode"
  else if address.hasInvalidCharacters then some "invalid-char-in-address"
  else if address.hasNoFixedAbodeAddress then some "no-fixed-abode-address"
  else none

/-- `overlay_first_page_of_pdf_with_new_content`, the new page being a canvas. -/
def overlayFirstPageOfPdfWithNewContent (lib : Libraries K σ) (oldPdfReader : List (Page K σ))
    (newPage : NotifyCanvas K) : Py MemoryFile :=
  match oldPdfReader with
  | [] => throw .indexError
  | existingPage :: rest => do
    let existingPage ← call (lib.mergePage existingPage newPage)
    bytesioFromPdf lib (existingPage :: rest)

/-- The canvas of `add_address_to_precompiled_letter`: a white rectangle over the
old address, and the new one with its last line on the bottom of the window. -/
def addressCanvas (address : String) : NotifyCanvas K :=
  let can := NotifyCanvas.new white
  let bottomLeftCornerX := addressLeftFromLeftOfPage * mm
  let bottomLeftCornerY := a4HeightInPts - addressBottomFromTopOfPage * mm
  let can := can.rect (addressLeftFromLeftOfPage, addressTopFromTopOfPage)
    (addressRightFromLeftOfPage, addressBottomFromTopOfPage)
  let addressLinesAfterFirst := address.toList.count '\n'
  let firstCharacterOfAddress := bottomLeftCornerY + addressLineHeight * (addressLinesAfterFirst : K)
  can.drawText black font addressFontSize addressLineHeight 2.0 bottomLeftCornerX firstCharacterOfAddress address

/-- `add_address_to_precompiled_letter`. -/
def addAddressToPrecompiledLetter (lib : Libraries K σ) (pdf : MemoryFile) (address : String) : Py MemoryFile := do
  let oldPdf ← call (lib.readPages pdf.bytes)
  let _ ← call (lib.registerFont font)
  overlayFirstPageOfPdfWithNewContent lib oldPdf (addressCanvas address)

/-- `rewrite_address_block`: the rewritten file and the address in its normalised
form. -/
def rewriteAddressBlock (lib : Libraries K σ) (pdf : MemoryFile) (pageCount : Nat)
    (allowInternationalLetters : Bool) : Py (MemoryFile × String) := do
  let (text, pdf) ← extractAddressBlock lib pdf
  let address ← call (lib.postalAddress text allowInternationalLetters)
  match errorCode address allowInternationalLetters with
  | some code => throw (.validationFailed code (some [1]) (some pageCount) 400)
  | none => do
    let pdf ← redactPrecompiledLetterAddressBlock lib pdf
    let pdf ← addAddressToPrecompiledLetter lib pdf address.normalised
    return (pdf, address.normalised)

/-! ## Reading back what was written -/

private theorem count_newlines {lines : List (List String)} (spaced : SingleSpaced lines) :
    (textOf lines).toList.count '\n' = lines.length - 1 := by
  have plain : ∀ piece ∈ lines.map fun words => " ".intercalate words, '\n' ∉ piece.toList := by
    intro piece member
    obtain ⟨words, wordsMember, rfl⟩ := List.mem_map.mp member
    exact newline_notMem_line fun word inLine => (spaced.words words wordsMember word inLine).2
  rw [textOf, ← List.length_map (f := fun words => " ".intercalate words)]
  generalize lines.map (fun words => " ".intercalate words) = pieces at plain ⊢
  induction pieces with
  | nil => rfl
  | cons piece rest ih =>
    have head : piece.toList.count '\n' = 0 := List.count_eq_zero.mpr (plain piece (by simp))
    have tail := ih fun other member => plain other (List.mem_cons_of_mem _ member)
    cases rest with
    | nil => simpa using head
    | cons next rest =>
      rw [String.intercalate_cons_cons]
      simp only [String.toList_append, List.count_append, head, tail]
      simp [Nat.add_comm]

section ReadBack
variable {textWidth : String → K → String → K} {page : Page K σ} {lines : List (List String)}
  {drawn : List (List (Word K))}

/-- Sorting and grouping words that contain a drawn text and nothing else in the
rectangle gives the lines of the text. -/
theorem linesIn_drawn {font : String} {size leading rise x y : K} {rect : Box K} {words : List (Word K)}
    (placed : Drawn page textWidth font size leading rise x y lines drawn) (filled : [] ∉ lines)
    (outside : ∀ word ∈ words, ¬ word.box.Intersects rect)
    (inside : ∀ line ∈ drawn, ∀ word ∈ line, word.box.Intersects rect) :
    linesIn rect (words ++ drawn.flatten) = drawn := by
  have kept : (words ++ drawn.flatten).filter (fun word => word.box.Intersects rect) = drawn.flatten := by
    rw [List.filter_append, List.filter_eq_nil_iff.mpr (by simpa using outside), List.nil_append]
    apply List.filter_eq_self.mpr
    intro word member
    obtain ⟨line, lineMember, inLine⟩ := List.mem_flatten.mp member
    simpa using inside line lineMember word inLine
  rw [linesIn, kept]
  refine groupRuns_sortBy (List.Perm.refl _) ?_ ?_ placed.alike ?_
  · refine List.pairwise_flatten.mpr ⟨fun line member => ?_, ?_⟩
    · refine List.Pairwise.imp_of_mem (fun {one other} oneMember otherMember less => ?_)
        (placed.numbered line member)
      have same := placed.alike line member one oneMember other otherMember
      simp only [Word.blockLine, Prod.mk.injEq] at same
      simp only [Word.position, Prod.Lex.toLex_lt_toLex, same.1, same.2]
      exact .inr ⟨trivial, .inr ⟨trivial, less⟩⟩
    · refine placed.ordered.imp fun less one oneMember other otherMember => ?_
      simp only [Word.position, Prod.Lex.toLex_lt_toLex]
      rcases less one oneMember other otherMember with block | ⟨block, line⟩
      · exact .inl block
      · exact .inr ⟨block, .inl line⟩
  · intro member
    apply filled
    rw [← placed.texts]
    exact List.mem_map.mpr ⟨[], member, rfl⟩
  · refine placed.ordered.imp fun less one oneMember other otherMember same => ?_
    simp only [Word.blockLine, Prod.mk.injEq] at same
    rcases less one oneMember other otherMember with block | ⟨_, line⟩
    · exact absurd same.1 block.ne
    · exact absurd same.2 line.ne

omit [Field K] [LinearOrder K] in
theorem joinLines_drawn (texts : drawn.map (List.map Word.text) = lines) : joinLines drawn = textOf lines := by
  rw [joinLines, textOf, ← texts, List.map_map]
  rfl

variable [IsStrictOrderedRing K]

/-- All the words of a drawn address are in the rectangle it is read from. -/
theorem drawn_intersects (upright : Upright page) (short : lines.length ≤ 7)
    (narrow : ∀ line ∈ lines, textWidth font addressFontSize (" ".intercalate line) ≤ 95.4 * mm)
    (placed : Drawn page textWidth font addressFontSize addressLineHeight 2.0 (addressLeftFromLeftOfPage * mm)
      (a4HeightInPts - addressBottomFromTopOfPage * mm + addressLineHeight * ((lines.length - 1 : ℕ) : K))
      lines drawn) : ∀ line ∈ drawn, ∀ word ∈ line, word.box.Intersects addressBoundingBox := by
  intro line member word inLine
  have unit : (mm : K) = 360 / 127 := mm_eq
  obtain ⟨low, high⟩ := upright.height_bound
  obtain ⟨index, found⟩ := List.mem_iff_getElem?.mp member
  have count : drawn.length = lines.length := by rw [← placed.texts, List.length_map]
  have bound : index < drawn.length := (List.getElem?_eq_some_iff.mp found).1
  -- how many lines are below this one
  obtain ⟨below, split⟩ : ∃ below, lines.length - 1 = index + below := ⟨lines.length - 1 - index, by omega⟩
  have few : (below : K) ≤ 6 := by exact_mod_cast (by omega : below ≤ 6)
  have some : (0 : K) ≤ below := Nat.cast_nonneg _
  have within := narrow (line.map Word.text) (by
    rw [← placed.texts]
    exact List.mem_map_of_mem member)
  obtain ⟨left, right⟩ := placed.horizontally line member word inLine
  obtain ⟨top, bottom⟩ := placed.vertically index line found word inLine
  rw [split, Nat.cast_add] at top bottom
  rw [upright.left] at left right
  rw [unit] at low high
  apply intersects_of_subset (placed.proper line member word inLine)
  norm_num [unit] at left right top bottom within
  apply Box.region_subset
  all_goals
    norm_num [addressBoundingBox, unit]
    linarith

end ReadBack

section Composition
variable {lib : Libraries K σ} {render : Page K σ → Image}
  {textWidth : String → K → String → K} {pdf : MemoryFile} {page : Page K σ} {rest : List (Page K σ)}
  {words : List (Word K)} {lines : List (List String)}

/-- What the canvas of an address draws. -/
theorem addressCanvas_operations (spaced : SingleSpaced lines) :
    ∃ background left bottom width height, (addressCanvas (K := K) (textOf lines)).operations =
      [.rect background left bottom width height,
        .text black font addressFontSize addressLineHeight 2.0 (addressLeftFromLeftOfPage * mm)
          (a4HeightInPts - addressBottomFromTopOfPage * mm + addressLineHeight * ((lines.length - 1 : ℕ) : K))
          (textOf lines)] := by
  rw [← count_newlines spaced]
  exact ⟨_, _, _, _, _, rfl⟩

/-- Adding an address draws it on the first page and leaves the others. -/
theorem addAddressToPrecompiledLetter_eq_ok (lawful : lib.Lawful render) {address : String}
    {out : MemoryFile} (added : addAddressToPrecompiledLetter lib pdf address = .ok out) :
    ∃ page rest, lib.readPages pdf.bytes = .ok (page :: rest) ∧ out.position = 0 ∧
      lib.readPages out.bytes = .ok (page.merge (addressCanvas address) :: rest) := by
  obtain ⟨pages, read, added⟩ := bind_eq_ok.mp added
  obtain ⟨_, _, added⟩ := bind_eq_ok.mp added
  cases pages with
  | nil => cases added
  | cons page rest =>
    obtain ⟨after, merged, added⟩ := bind_eq_ok.mp added
    obtain ⟨bytes, written, added⟩ := bind_eq_ok.mp added
    cases added
    refine ⟨page, rest, call_eq_ok.mp read, rfl, ?_⟩
    rw [lawful.written (call_eq_ok.mp written), lawful.merged (call_eq_ok.mp merged)]

variable [IsStrictOrderedRing K]

/-- Writing an address on the first page of a document. -/
theorem addAddressToPrecompiledLetter_ok (lawful : lib.Lawful render) (reliable : lib.Reliable)
    (laws : TextLaws lib textWidth) (read : lib.readPages pdf.bytes = .ok (page :: rest))
    (upright : Upright page) (found : lib.getTextWords page = .ok words) (spaced : SingleSpaced lines) :
    ∃ out after drawn, addAddressToPrecompiledLetter lib pdf (textOf lines) = .ok out ∧ out.position = 0 ∧
      lib.readPages out.bytes = .ok (after :: rest) ∧
      Drawn page textWidth font addressFontSize addressLineHeight 2.0 (addressLeftFromLeftOfPage * mm)
        (a4HeightInPts - addressBottomFromTopOfPage * mm + addressLineHeight * ((lines.length - 1 : ℕ) : K))
        lines drawn ∧
      lib.getTextWords after = .ok (words ++ drawn.flatten) := by
  obtain ⟨after, merged⟩ := reliable.merge page (addressCanvas (textOf lines))
  obtain ⟨bytes, written⟩ := reliable.write (after :: rest)
  obtain ⟨background, left, bottom, width, height, operations⟩ := addressCanvas_operations (K := K) spaced
  obtain ⟨drawn, placed, now⟩ := laws.drawn upright.unrotated (by norm_num) operations spaced found
  refine ⟨{ bytes := bytes }, after, drawn, ?_, rfl, lawful.written written, placed, ?_⟩
  · simp only [addAddressToPrecompiledLetter, read, reliable.registerFont, call_ok, ok_bind,
      overlayFirstPageOfPdfWithNewContent, merged, bytesioFromPdf, written, pure_eq_ok]
  · rw [lawful.merged merged]
    exact now

/-- An address that was written over a redacted one is read back as it is. Every
word that was not part of the old address stays, and so do all other pages. -/
theorem rewritten_address_reads_back (lawful : lib.Lawful render) (reliable : lib.Reliable)
    (laws : TextLaws lib textWidth) (newline : lib.unicode.Starter '\n')
    (read : lib.readPages pdf.bytes = .ok (page :: rest)) (upright : Upright page)
    (found : lib.getTextWords page = .ok words) (spaced : SingleSpaced lines) (short : lines.length ≤ 7)
    (stable : ∀ line ∈ lines, UnicodeForms.Stable lib.unicode (" ".intercalate line))
    (narrow : ∀ line ∈ lines, textWidth font addressFontSize (" ".intercalate line) ≤ 95.4 * mm) :
    ∃ redacted rewritten after wordsAfter, redactPrecompiledLetterAddressBlock lib pdf = .ok redacted ∧
      addAddressToPrecompiledLetter lib redacted (textOf lines) = .ok rewritten ∧
      lib.readPages rewritten.bytes = .ok (after :: rest) ∧
      extractTextFromPage lib after addressBoundingBox = .ok (textOf lines) ∧
      lib.getTextWords after = .ok wordsAfter ∧
      ∀ word ∈ words, ¬ word.box.Intersects addressBoundingBox → word ∈ wordsAfter := by
  obtain ⟨redacted, blank, redaction, _, readRedacted, box, rotation, kept⟩ :=
    redactPrecompiledLetterAddressBlock_ok lawful reliable laws read found
  have uprightBlank : Upright blank := by
    obtain ⟨unrotated, left, bottom, width, height⟩ := upright
    refine ⟨by rwa [rotation], by rwa [box], by rwa [box], ?_, ?_⟩
    · rwa [PageValidation.pageWidth, box]
    · rwa [PageValidation.pageHeight, box]
  obtain ⟨rewritten, after, drawn, rewriting, _, readRewritten, placed, wordsNow⟩ :=
    addAddressToPrecompiledLetter_ok lawful reliable laws readRedacted uprightBlank kept spaced
  refine ⟨redacted, rewritten, after, _, redaction, rewriting, readRewritten, ?_, wordsNow, ?_⟩
  · rw [extractTextFromPage_ok reliable wordsNow,
      linesIn_drawn placed spaced.filled (by simp) (drawn_intersects uprightBlank short narrow placed),
      joinLines_drawn placed.texts]
    refine congrArg Except.ok (UnicodeForms.stable_intercalate newline _ fun piece member => ?_)
    obtain ⟨line, lineMember, rfl⟩ := List.mem_map.mp member
    exact stable line lineMember
  · intro word member outside
    exact List.mem_append_left _ (List.mem_filter.mpr ⟨member, by simpa using outside⟩)

/-- An address of three lines, as words. -/
def highStreet : List (List String) := [["1", "High", "Street"], ["London"], ["N1", "7AA"]]

open InMemoryLibraries in
theorem addressedPage_reads_back :
    ∃ redacted rewritten after wordsAfter,
      redactPrecompiledLetterAddressBlock libraries { bytes := encodePages [addressedPage] } = .ok redacted ∧
      addAddressToPrecompiledLetter libraries redacted (textOf highStreet) = .ok rewritten ∧
      libraries.readPages rewritten.bytes = .ok [after] ∧
      extractTextFromPage libraries after addressBoundingBox = .ok (textOf highStreet) ∧
      libraries.getTextWords after = .ok wordsAfter ∧
      ∀ word ∈ wordsOn addressedPage, ¬ word.box.Intersects addressBoundingBox → word ∈ wordsAfter :=
  rewritten_address_reads_back lawful reliable textLaws ⟨rfl, rfl⟩ (readPages_encodePages [addressedPage])
    addressedPage_upright rfl ⟨by decide, by simp [highStreet]⟩ (by decide)
    (fun line _ => stable (" ".intercalate line)) (by decide +kernel)

end Composition

end TemplatePreview.AddressRewrite
