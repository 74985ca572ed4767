import TemplatePreview.Sanitisation

/-! What each stage of rewriting a letter did when it returned: which calls it made,
and which pages it left. -/
namespace TemplatePreview.RewriteStages
open PageLayout Pdf Outcomes TextExtraction AddressWindow AddressRewrite EmbeddedFonts Sanitisation

variable {K σ : Type} {lib : Libraries K σ} {render : Page K σ → Image} {file out : MemoryFile}
  {page : Page K σ} {pages rest : List (Page K σ)}

/-! ## Ghostscript -/

/-- A job of ghostscript that ended without an error, on a whole file. -/
def Rewritten (lib : Libraries K σ) (job : GsJob) (file out : MemoryFile) : Prop :=
  ∃ gs, lib.ghostscript job file.bytes = .ok gs ∧ gs.returncode = 0 ∧ out = { bytes := gs.stdout }

theorem convertPdfToCmyk_eq_ok (start : file.position = 0) (returned : convertPdfToCmyk lib file = .ok out) :
    Rewritten lib .convertToCmyk file out := by
  obtain ⟨gs, ran, returned⟩ := bind_eq_ok.mp returned
  rw [MemoryFile.read_start file start] at ran
  dsimp only at returned
  split at returned
  · cases returned
  split at returned
  · cases returned
  rename_i succeeded
  cases returned
  exact ⟨gs, call_eq_ok.mp ran, not_not.mp succeeded, rfl⟩

theorem embedFonts_eq_ok (start : file.position = 0) (returned : embedFonts lib file = .ok out) :
    Rewritten lib .embedFonts file out := by
  obtain ⟨gs, ran, returned⟩ := bind_eq_ok.mp returned
  rw [MemoryFile.read_start file start] at ran
  split at returned
  · obtain ⟨_, _, returned⟩ := bind_eq_ok.mp returned
    cases returned
  · rename_i succeeded
    cases returned
    exact ⟨gs, call_eq_ok.mp ran, not_not.mp succeeded, rfl⟩

/-! ## Fonts and colours -/

/-- The search for a colour space leaves the file at its start. -/
theorem doesPdfContainColorspace_eq_ok {colourspace : String} {found : Bool}
    (returned : doesPdfContainColorspace lib colourspace file = .ok (found, out)) :
    out = file.seek 0 ∧ ∃ doc, lib.openDocument file.bytes = .ok doc ∧
      anyPageHasColorspace lib doc colourspace doc 0 = .ok found := by
  obtain ⟨doc, opened, returned⟩ := bind_eq_ok.mp returned
  obtain ⟨any, searched, returned⟩ := bind_eq_ok.mp returned
  cases returned
  exact ⟨rfl, doc, call_eq_ok.mp opened, searched⟩

/-- A letter is converted unless it holds CMYK and no RGB. -/
theorem normaliseFontsAndColours_eq_ok (returned : normaliseFontsAndColours lib file = .ok out) :
    ∃ containsCmyk converted, doesPdfContainCmyk lib file = .ok (containsCmyk, file.seek 0) ∧
      (Rewritten lib .convertToCmyk (file.seek 0) converted ∧
          (containsCmyk = true → doesPdfContainRgb lib (file.seek 0) = .ok (true, file.seek 0)) ∨
        converted = file.seek 0 ∧ containsCmyk = true ∧
          doesPdfContainRgb lib (file.seek 0) = .ok (false, file.seek 0)) ∧
      (out = converted ∨ Rewritten lib .embedFonts converted out) := by
  obtain ⟨⟨containsCmyk, afterCmyk⟩, searched, returned⟩ := bind_eq_ok.mp returned
  obtain ⟨rfl, _⟩ := doesPdfContainColorspace_eq_ok searched
  obtain ⟨converted, converting, returned⟩ := bind_eq_ok.mp returned
  obtain ⟨⟨unembedded, checked⟩, walked, returned⟩ := bind_eq_ok.mp returned
  obtain rfl := containsUnembeddedFonts_file walked
  have conversion : (Rewritten lib .convertToCmyk (file.seek 0) converted ∧
        (containsCmyk = true → doesPdfContainRgb lib (file.seek 0) = .ok (true, file.seek 0))) ∨
      (converted = file.seek 0 ∧ containsCmyk = true ∧
        doesPdfContainRgb lib (file.seek 0) = .ok (false, file.seek 0)) := by
    cases containsCmyk with
    | false => exact .inl ⟨convertPdfToCmyk_eq_ok rfl converting, by simp⟩
    | true =>
      obtain ⟨⟨containsRgb, afterRgb⟩, searchedRgb, converting⟩ := bind_eq_ok.mp converting
      obtain ⟨rfl, _⟩ := doesPdfContainColorspace_eq_ok searchedRgb
      cases containsRgb with
      | true => exact .inl ⟨convertPdfToCmyk_eq_ok rfl converting, fun _ => searchedRgb⟩
      | false =>
        cases converting
        exact .inr ⟨rfl, rfl, searchedRgb⟩
  have start : converted.seek 0 = converted := by
    rcases conversion with ⟨⟨gs, _, _, rfl⟩, _⟩ | ⟨rfl, _⟩ <;> rfl
  rw [start] at returned
  refine ⟨containsCmyk, converted, searched, conversion, ?_⟩
  dsimp only at returned
  split at returned
  · obtain ⟨_, _, returned⟩ := bind_eq_ok.mp returned
    exact .inr (embedFonts_eq_ok (by rw [← start]; rfl) returned)
  · cases returned
    exact .inl rfl

/-! ## The address -/

section Address
variable [Field K] {pageCount : Nat} {allow : Bool} {address : String}

theorem redactPrecompiledLetterAddressBlock_eq_ok (lawful : lib.Lawful render)
    (read : lib.readPages file.bytes = .ok (page :: rest))
    (returned : redactPrecompiledLetterAddressBlock lib file = .ok out) :
    ∃ redacted, lib.applyRedaction page addressBoundingBox = .ok redacted ∧
      lib.readPages out.bytes = .ok (redacted :: rest) := by
  obtain ⟨doc, opened, returned⟩ := bind_eq_ok.mp returned
  obtain rfl := lawful.opened read (call_eq_ok.mp opened)
  obtain ⟨redacted, redaction, returned⟩ := bind_eq_ok.mp returned
  obtain ⟨bytes, saved, returned⟩ := bind_eq_ok.mp returned
  cases returned
  exact ⟨redacted, call_eq_ok.mp redaction, lawful.saved (call_eq_ok.mp saved)⟩

variable [LinearOrder K]

/-- The address is redacted on the first page and drawn there again. -/
theorem rewriteAddressBlock_eq_ok (lawful : lib.Lawful render)
    (read : lib.readPages file.bytes = .ok (page :: rest))
    (returned : rewriteAddressBlock lib file pageCount allow = .ok (out, address)) :
    ∃ redacted, lib.applyRedaction page addressBoundingBox = .ok redacted ∧
      lib.readPages out.bytes = .ok (redacted.merge (addressCanvas address) :: rest) := by
  obtain ⟨⟨text, extracted⟩, extraction, returned⟩ := bind_eq_ok.mp returned
  have same : extracted.bytes = file.bytes := by
    obtain ⟨doc, _, extraction⟩ := bind_eq_ok.mp extraction
    cases doc with
    | nil => cases extraction
    | cons first others =>
      obtain ⟨_, _, extraction⟩ := bind_eq_ok.mp extraction
      cases extraction
      rfl
  obtain ⟨postal, _, returned⟩ := bind_eq_ok.mp returned
  split at returned
  · cases returned
  obtain ⟨blank, redacting, returned⟩ := bind_eq_ok.mp returned
  obtain ⟨written, adding, returned⟩ := bind_eq_ok.mp returned
  cases returned
  rw [← same] at read
  obtain ⟨redacted, redaction, readBlank⟩ := redactPrecompiledLetterAddressBlock_eq_ok lawful read redacting
  obtain ⟨first, others, again, _, readOut⟩ := addAddressToPrecompiledLetter_eq_ok lawful adding
  cases readBlank.symm.trans again
  exact ⟨redacted, redaction, readOut⟩

end Address

end TemplatePreview.RewriteStages
