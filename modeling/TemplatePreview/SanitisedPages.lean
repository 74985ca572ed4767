import TemplatePreview.LetterColours

/-! The pages of the file that sanitisation returns, as made from the pages of the
file that was uploaded: all of them by ghostscript, the first page of a letter also
by redaction, the address that is drawn again and the tag. No page is lost. -/
namespace TemplatePreview.SanitisedPages
open Region PageLayout Pdf Outcomes TextExtraction PageValidation AddressWindow AddressRewrite EmbeddedFonts
open Sanitisation TagDetection RewriteStages LetterColours

variable {K σ : Type}

/-- Ghostscript makes one page of every page. -/
def Pagewise (lib : Libraries K σ) (rewrite : GsJob → Page K σ → Page K σ) : Prop :=
  ∀ {job file out pages}, lib.readPages file.bytes = .ok pages → Rewritten lib job file out →
    lib.readPages out.bytes = .ok (pages.map (rewrite job))

/-- What is left of a page after some jobs of ghostscript, the first one first. -/
def afterJobs (rewrite : GsJob → Page K σ → Page K σ) (jobs : List GsJob) (page : Page K σ) : Page K σ :=
  jobs.foldl (fun page job => rewrite job page) page

section Stages
variable {lib : Libraries K σ} {rewrite : GsJob → Page K σ → Page K σ} {file out : MemoryFile}
  {pages rest : List (Page K σ)} {page : Page K σ}

/-- The jobs that normalisation may run, in their order. -/
def Normalises (jobs : List GsJob) : Prop := jobs.Sublist [.convertToCmyk, .embedFonts]

/-- Normalisation runs the same jobs on every page. -/
theorem normaliseFontsAndColours_pages (pagewise : Pagewise lib rewrite)
    (read : lib.readPages file.bytes = .ok pages) (returned : normaliseFontsAndColours lib file = .ok out) :
    ∃ jobs, Normalises jobs ∧ lib.readPages out.bytes = .ok (pages.map (afterJobs rewrite jobs)) := by
  obtain ⟨_, converted, _, conversion, embedding⟩ := normaliseFontsAndColours_eq_ok returned
  have readAgain : lib.readPages (file.seek 0).bytes = .ok pages := read
  obtain ⟨first, early, readConverted⟩ : ∃ first : List GsJob, first.Sublist [.convertToCmyk] ∧
      lib.readPages converted.bytes = .ok (pages.map (afterJobs rewrite first)) := by
    rcases conversion with ⟨rewritten, _⟩ | ⟨rfl, _⟩
    · exact ⟨[.convertToCmyk], .refl _, pagewise readAgain rewritten⟩
    · exact ⟨[], List.nil_sublist _, by rw [readAgain, show afterJobs rewrite [] = id from rfl, List.map_id]⟩
  rcases embedding with rfl | rewritten
  · exact ⟨first, early.trans (List.sublist_append_left _ _), readConverted⟩
  · refine ⟨first ++ [GsJob.embedFonts], early.append_right [.embedFonts], ?_⟩
    rw [pagewise readConverted rewritten, List.map_map]
    simp [Function.comp_def, afterJobs]

variable [Field K] [LinearOrder K] {render : Page K σ → Image} {pageCount : Nat} {allow : Bool} {address : String}

/-- What the first page of a letter is rewritten to before it is normalised: its
address is redacted and drawn again. -/
def Readdressed (lib : Libraries K σ) (address : String) (page after : Page K σ) : Prop :=
  ∃ redacted, lib.applyRedaction page addressBoundingBox = .ok redacted ∧
    after = redacted.merge (addressCanvas address)

/-- A tag is drawn on a page that does not bear one. -/
def Tagged (lib : Libraries K σ) (page after : Page K σ) : Prop :=
  BearsTag lib page ∧ after = page ∨ ¬ BearsTag lib page ∧ after = page.merge (tagCanvas page)

/-- The test for the tag asks whether the first page bears it. -/
theorem isNotifyTagPresent_bears (lawful : lib.Lawful render) {present : Bool}
    (read : lib.readPages file.bytes = .ok pages) (tested : isNotifyTagPresent lib file = .ok (present, out)) :
    out = file.seek 0 ∧ ∃ page rest, pages = page :: rest ∧ (present = true ↔ BearsTag lib page) := by
  obtain ⟨⟨text, restored⟩, found, tested⟩ := bind_eq_ok.mp tested
  cases tested
  obtain ⟨doc, opened, found⟩ := bind_eq_ok.mp found
  obtain rfl := lawful.opened read (call_eq_ok.mp opened)
  cases doc with
  | nil => cases found
  | cons page rest =>
    obtain ⟨_, extracted, found⟩ := bind_eq_ok.mp found
    cases found
    refine ⟨rfl, page, rest, rfl, ?_⟩
    rw [BearsTag, extracted, Except.ok.injEq]
    exact beq_iff_eq

/-- A document without pages has no address to rewrite. -/
theorem rewriteAddressBlock_page (lawful : lib.Lawful render) (read : lib.readPages file.bytes = .ok pages)
    (returned : rewriteAddressBlock lib file pageCount allow = .ok (out, address)) :
    ∃ page rest, pages = page :: rest := by
  obtain ⟨_, extraction, _⟩ := bind_eq_ok.mp returned
  obtain ⟨doc, opened, extraction⟩ := bind_eq_ok.mp extraction
  obtain rfl := lawful.opened read (call_eq_ok.mp opened)
  cases doc with
  | nil => cases extraction
  | cons page rest => exact ⟨page, rest, rfl⟩

/-- The pages of a rewritten letter. -/
theorem rewritePdf_pages (lawful : lib.Lawful render) (pagewise : Pagewise lib rewrite)
    (read : lib.readPages file.bytes = .ok pages)
    (returned : rewritePdf lib file pageCount allow = .ok (out, address)) :
    ∃ jobs page rest middle first, pages = page :: rest ∧ Normalises jobs ∧ Readdressed lib address page middle ∧
      Tagged lib (afterJobs rewrite jobs middle) first ∧
      lib.readPages out.bytes = .ok (first :: rest.map (afterJobs rewrite jobs)) := by
  obtain ⟨logged, rewritten, normalised, tested, present, logging, rewriting, normalising, testing, last⟩ :=
    rewritePdf_eq_ok returned
  rw [← logMetadataForLetter_bytes logging] at read
  obtain ⟨page, rest, rfl⟩ := rewriteAddressBlock_page lawful read rewriting
  obtain ⟨redacted, redaction, readRewritten⟩ := rewriteAddressBlock_eq_ok lawful read rewriting
  obtain ⟨jobs, normalises, readNormalised⟩ := normaliseFontsAndColours_pages pagewise readRewritten normalising
  obtain ⟨rfl, first, others, same, bears⟩ := isNotifyTagPresent_bears lawful readNormalised testing
  obtain ⟨rfl, rfl⟩ := List.cons.inj same
  cases present with
  | true =>
    obtain rfl : out = normalised.seek 0 := last
    exact ⟨jobs, page, rest, _, _, rfl, normalises, ⟨redacted, redaction, rfl⟩, .inl ⟨bears.mp rfl, rfl⟩,
      readNormalised⟩
  | false =>
    obtain ⟨again, later, readTested, _, readOut⟩ := addNotifyTagToLetter_eq_ok lawful last
    obtain ⟨rfl, rfl⟩ := List.cons.inj (Except.ok.inj (readNormalised.symm.trans readTested))
    exact ⟨jobs, page, rest, _, _, rfl, normalises, ⟨redacted, redaction, rfl⟩,
      .inr ⟨mt bears.mpr (by simp), rfl⟩, readOut⟩

end Stages

/-! ## The whole file -/

section Files
variable [Field K] [LinearOrder K] {lib : Libraries K σ} {render : Page K σ → Image}
  {rewrite : GsJob → Page K σ → Page K σ} {content : Bytes} {allow isAnAttachment : Bool}

/-- The pages of a sanitised file. A letter has an address, an attachment has none. -/
inductive FinalPages (lib : Libraries K σ) (rewrite : GsJob → Page K σ → Page K σ) :
    Option String → List (Page K σ) → List (Page K σ) → Prop where
  | attachment {jobs : List GsJob} (normalises : Normalises jobs) :
      FinalPages lib rewrite none pages (pages.map (afterJobs rewrite jobs))
  | letter {jobs : List GsJob} (normalises : Normalises jobs) (readdressed : Readdressed lib address page middle)
      (tagged : Tagged lib (afterJobs rewrite jobs middle) first) :
      FinalPages lib rewrite (some address) (page :: rest) (first :: rest.map (afterJobs rewrite jobs))

theorem FinalPages.length_eq {address : Option String} {pages after : List (Page K σ)}
    (final : FinalPages lib rewrite address pages after) : after.length = pages.length := by
  cases final <;> simp

/-- A file that passes was produced from its own bytes. -/
theorem passed_production (lawful : lib.Lawful render)
    (passed : (sanitiseFileContents lib content allow isAnAttachment).failed = false) :
    ∃ text counted validated produced pages, lib.readPages content = .ok pages ∧
      (sanitiseFileContents lib content allow isAnAttachment).file = some text ∧
      Base64.b64decode text = .ok produced.bytes ∧
      (sanitiseFileContents lib content allow isAnAttachment).pageCount = some pages.length ∧
      lib.readPages validated.bytes = .ok pages ∧
      produce lib validated counted allow isAnAttachment =
        .ok (produced, (sanitiseFileContents lib content allow isAnAttachment).recipientAddress) := by
  rcases sanitiseFileContents_shape lawful content allow isAnAttachment with success | failure
  · obtain ⟨pages, read, count, _⟩ := success.pageCount
    obtain ⟨text, counted, produced, file, _, ⟨⟨validated, same, start, production⟩, _⟩, decoded⟩ := success.file
    exact ⟨text, counted, validated, produced, pages, read, file, decoded, count, by rwa [same], production⟩
  · rw [failure.failed] at passed
    cases passed

/-- The pages of an attachment are produced one by one. -/
theorem attachment_pages (pagewise : Pagewise lib rewrite) {file out : MemoryFile} {pages : List (Page K σ)}
    {pageCount : Nat} {address : Option String} (read : lib.readPages file.bytes = .ok pages)
    (production : produce lib file pageCount allow true = .ok (out, address)) :
    address = none ∧ ∃ jobs, Normalises jobs ∧
      lib.readPages out.bytes = .ok (pages.map (afterJobs rewrite jobs)) := by
  obtain ⟨normalised, normalising, production⟩ := bind_eq_ok.mp production
  cases production
  exact ⟨rfl, normaliseFontsAndColours_pages pagewise read normalising⟩

/-- A file that passes is returned with as many pages as were counted: those of an
attachment as ghostscript makes them; in a letter, the first page also has the
address in its place again and bears a tag, and the others are as ghostscript makes
them. -/
theorem sanitised_pages (lawful : lib.Lawful render) (pagewise : Pagewise lib rewrite)
    (passed : (sanitiseFileContents lib content allow isAnAttachment).failed = false) :
    ∃ text fileData pages after, lib.readPages content = .ok pages ∧
      (sanitiseFileContents lib content allow isAnAttachment).file = some text ∧
      Base64.b64decode text = .ok fileData ∧ lib.readPages fileData = .ok after ∧
      FinalPages lib rewrite (sanitiseFileContents lib content allow isAnAttachment).recipientAddress pages after ∧
      (sanitiseFileContents lib content allow isAnAttachment).pageCount = some after.length := by
  obtain ⟨text, counted, validated, produced, pages, read, file, decoded, count, readValidated, production⟩ :=
    passed_production lawful passed
  suffices ∃ after, lib.readPages produced.bytes = .ok after ∧
      FinalPages lib rewrite (sanitiseFileContents lib content allow isAnAttachment).recipientAddress pages after by
    obtain ⟨after, readAfter, final⟩ := this
    exact ⟨text, _, pages, after, read, file, decoded, readAfter, final, by rw [count, final.length_eq]⟩
  generalize (sanitiseFileContents lib content allow isAnAttachment).recipientAddress = address at production ⊢
  cases isAnAttachment with
  | true =>
    obtain ⟨rfl, jobs, normalises, readAfter⟩ := attachment_pages pagewise readValidated production
    exact ⟨_, readAfter, .attachment normalises⟩
  | false =>
    obtain ⟨⟨out, found⟩, rewriting, production⟩ := bind_eq_ok.mp production
    cases production
    obtain ⟨jobs, page, rest, middle, first, rfl, normalises, readdressed, tagged, readAfter⟩ :=
      rewritePdf_pages lawful pagewise readValidated rewriting
    exact ⟨_, readAfter, .letter normalises readdressed tagged⟩

/-- A file that gets through all stages is returned as base 64. -/
theorem sanitiseFileContents_eq {count : Nat} {validated produced : MemoryFile} {address : Option String}
    (counted : lib.pdfPageCount content = .ok count) (short : lib.isLetterTooLong count = false)
    (accepted : getInvalidPagesWithMessage lib (lib.leave .pageCount { bytes := content }) isAnAttachment =
      .ok (("", []), validated))
    (production : produce lib validated count allow isAnAttachment = .ok (produced, address))
    (sized : warnIfFilesizeHasGrown content.length produced.read.1.length = .ok ()) :
    sanitiseFileContents lib content allow isAnAttachment =
      { recipientAddress := address, pageCount := some count, message := none, invalidPages := none,
        file := some (Base64.b64encode produced.read.1) } := by
  simp [sanitiseFileContents, sanitise, counted, short, accepted, production, sized]

end Files

section Coloured
open InMemoryLibraries

/-- What ghostscript makes of a page in memory. -/
def rewriteColoured : GsJob → TextPage → TextPage
  | .convertToCmyk, page => pageInCmyk page
  | .embedFonts, page => page

theorem coloured_rewrites : Pagewise coloured rewriteColoured := by
  intro job file out pages read rewritten
  cases job with
  | convertToCmyk => exact coloured_pagewise read rewritten
  | embedFonts =>
    obtain ⟨_, ⟨⟩, _, rfl⟩ := rewritten
    rw [show rewriteColoured .embedFonts = id from rfl, List.map_id]
    exact read

/-- A letter with a CMYK image in memory. -/
def cmykLetter : Bytes := encodePages [letterWith ["DeviceCMYK"]]

theorem cmykLetter_sanitised : ∃ text, sanitiseFileContents coloured cmykLetter false false =
    { recipientAddress := some (textOf highStreet), pageCount := some 1, message := none, invalidPages := none,
      file := some text } := by
  have read := coloured_encodePages [letterWith ["DeviceCMYK"]]
  have counted : coloured.pdfPageCount cmykLetter = .ok 1 := by
    simp [coloured, libraries, cmykLetter]
  obtain ⟨_, accepted⟩ := letterWith_accepted
  obtain ⟨⟨_, again, passes⟩, _⟩ := getInvalidPagesWithMessage_eq_ok coloured_lawful accepted
  cases read.symm.trans again
  -- the verdict does not depend on where the file stands
  obtain ⟨⟨⟨message, invalidPages⟩, after⟩, validated⟩ :=
    getInvalidPagesWithMessage_returns coloured_lawful coloured_reliable false
      (show coloured.readPages (coloured.leave .pageCount { bytes := cmykLetter }).bytes = .ok _ from read) (by simp)
  obtain ⟨⟨_, another, verdict⟩, bytes, start⟩ := getInvalidPagesWithMessage_eq_ok coloured_lawful validated
  cases read.symm.trans another
  obtain ⟨rfl, rfl⟩ := verdict.accepts.mpr (passes.accepts.mp ⟨rfl, rfl⟩)
  have same : after = { bytes := cmykLetter } := by
    cases after
    cases bytes
    cases start rfl
    rfl
  subst same
  obtain ⟨out, rewritten⟩ := letterWith_rewritten ["DeviceCMYK"]
  have sized (size : Nat) : warnIfFilesizeHasGrown cmykLetter.length size = .ok () := by
    have positive : cmykLetter.length ≠ 0 := mt List.eq_nil_of_length_eq_zero (encodePages_ne_nil (by simp))
    rw [warnIfFilesizeHasGrown, if_neg positive]
    split_ifs <;> simp
  have produced : produce coloured { bytes := cmykLetter } 1 false false =
      .ok (out, some (textOf highStreet)) := by
    rw [produce, if_neg (by decide), show rewritePdf coloured { bytes := cmykLetter } 1 false = _ from rewritten]
    rfl
  exact ⟨_, sanitiseFileContents_eq counted rfl validated produced (sized _)⟩

theorem cmykLetter_pages : ∃ after, FinalPages coloured rewriteColoured (some (textOf highStreet))
    [letterWith ["DeviceCMYK"]] after := by
  obtain ⟨_, sanitised⟩ := cmykLetter_sanitised
  have passed : (sanitiseFileContents coloured cmykLetter false false).failed = false := by
    rw [sanitised]
    rfl
  obtain ⟨_, _, pages, after, read, _, _, _, final, _⟩ := sanitised_pages coloured_lawful coloured_rewrites passed
  cases (coloured_encodePages [letterWith ["DeviceCMYK"]]).symm.trans read
  rw [sanitised] at final
  exact ⟨after, final⟩

end Coloured

end TemplatePreview.SanitisedPages
