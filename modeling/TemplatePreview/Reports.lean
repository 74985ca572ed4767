import TemplatePreview.SanitisedPages

/-! What sanitisation reports of a document is the first thing that is wrong with it,
and nothing is reported of a document without a fault. -/
namespace TemplatePreview.Reports
open Region PageLayout Pdf Outcomes TextExtraction PageValidation AddressWindow AddressRewrite Sanitisation
open SanitisedPages

variable {K σ : Type} [Field K] [LinearOrder K]

/-- A result that says what is wrong with a document that could be read. -/
def refusal (pageCount : Nat) (message : String) (invalidPages : Option (List Nat)) : SanitisationDetails where
  recipientAddress := none
  pageCount := some pageCount
  message := some message
  invalidPages := invalidPages
  file := none

def unreadable : SanitisationDetails where
  recipientAddress := none
  pageCount := none
  message := some "unable-to-read-the-file"
  invalidPages := none
  file := none

section Faults
variable (lib : Libraries K σ) (render : Page K σ → Image) (content : Bytes) (allow isAnAttachment : Bool)

/-- The address that is read from a page is refused. -/
def WrongAddress (page : Page K σ) (code : String) : Prop :=
  ∃ words address, lib.getTextWords page = .ok words ∧
    lib.postalAddress (UnicodeForms.nfkd lib.unicode (joinLines (linesIn addressBoundingBox words))) allow =
      .ok address ∧
    errorCode address allow = some code

/-- What is wrong with a document, in the order in which it is looked for: its
length, its pages, its address. -/
inductive Fault (pages : List (Page K σ)) : String → Option (List Nat) → Prop where
  | tooLong (long : lib.isLetterTooLong pages.length = true) : Fault pages "letter-too-long" none
  | pages {check : Check} {numbers : List Nat} (short : lib.isLetterTooLong pages.length = false)
      (first : FirstFailed lib render isAnAttachment pages check)
      (failed : NumbersOf (fun index page => ¬ Passes lib render isAnAttachment index page check) pages numbers) :
      Fault pages check.message (some numbers)
  | address {page : Page K σ} {rest : List (Page K σ)} {code : String}
      (short : lib.isLetterTooLong pages.length = false)
      (pass : ∀ check, AllPass lib render isAnAttachment pages check) (letter : isAnAttachment = false)
      (described : ∃ logged, logMetadataForLetter lib { bytes := content } = .ok logged)
      (first : pages = page :: rest) (wrong : WrongAddress lib allow page code) : Fault pages code (some [1])

end Faults

section Checks
variable {lib : Libraries K σ} {render : Page K σ → Image} {isAnAttachment : Bool} {pages : List (Page K σ)}

theorem message_ne_empty (check : Check) : check.message ≠ "" := by
  cases check <;> decide

end Checks

section Stages
variable {lib : Libraries K σ} {render : Page K σ → Image} {content : Bytes} {allow isAnAttachment : Bool}
  {pages rest : List (Page K σ)} {page : Page K σ}

/-- What a file becomes whose pages pass all checks. -/
private theorem accepted_file (isAnAttachment : Bool) (lawful : lib.Lawful render) (reliable : lib.Reliable)
    (read : lib.readPages content = .ok pages) (nonempty : pages ≠ []) :
    ∃ message invalidPages validated,
      getInvalidPagesWithMessage lib (lib.leave .pageCount { bytes := content }) isAnAttachment =
        .ok ((message, invalidPages), validated) ∧
      Verdict lib render isAnAttachment pages message invalidPages ∧
      (message = "" → validated = { bytes := content }) := by
  obtain ⟨⟨⟨message, invalidPages⟩, validated⟩, checked⟩ :=
    getInvalidPagesWithMessage_returns lawful reliable isAnAttachment
      (show lib.readPages (lib.leave .pageCount { bytes := content }).bytes = .ok pages from read) nonempty
  obtain ⟨⟨others, again, verdict⟩, kept, start⟩ := getInvalidPagesWithMessage_eq_ok lawful checked
  cases read.symm.trans again
  refine ⟨message, invalidPages, validated, checked, verdict, fun unnamed => ?_⟩
  cases validated
  cases kept
  cases start unnamed
  rfl

/-- A fault is what sanitisation raises. -/
private theorem sanitise_fault (lawful : lib.Lawful render) (reliable : lib.Reliable)
    (counted : lib.pdfPageCount content = .ok pages.length) (read : lib.readPages content = .ok pages)
    (nonempty : pages ≠ []) {message : String} {invalidPages : Option (List Nat)}
    (fault : Fault lib render content allow isAnAttachment pages message invalidPages) :
    sanitise lib content allow isAnAttachment =
      .error (.validationFailed message invalidPages (some pages.length) 400) := by
  obtain ⟨reported, numbers, validated, checked, verdict, same⟩ :=
    accepted_file isAnAttachment lawful reliable read nonempty
  cases fault with
  | tooLong long => simp [sanitise, counted, long, throw_eq_error]
  | @pages check numbers' short first failed =>
    obtain ⟨rfl, found⟩ := verdict.blames check first
    obtain rfl := numbers_unique failed found
    simp [sanitise, counted, short, checked, message_ne_empty, throw_eq_error]
  | @address page rest code short pass letter described first wrong =>
    obtain ⟨rfl, rfl⟩ := verdict.accepts.mpr pass
    obtain rfl := same rfl
    subst letter first
    obtain ⟨logged, logging⟩ := described
    obtain ⟨words, address, found, recognised, refused⟩ := wrong
    have readLogged : lib.readPages logged.bytes = .ok (page :: rest) := by
      rwa [logMetadataForLetter_bytes logging]
    have extracted := extractAddressBlock_ok lawful reliable readLogged found
    simp only [List.length_cons] at counted short ⊢
    simp [sanitise, counted, short, checked, produce, rewritePdf, logging, rewriteAddressBlock, extracted,
      recognised, refused, throw_eq_error]

/-- Without a fault nothing is refused. -/
private theorem sanitise_faultless (lawful : lib.Lawful render) (reliable : lib.Reliable)
    (counted : lib.pdfPageCount content = .ok pages.length) (read : lib.readPages content = .ok pages)
    (nonempty : pages ≠ [])
    (faultless : ∀ message invalidPages, ¬ Fault lib render content allow isAnAttachment pages message invalidPages) :
    Raises Internal (sanitise lib content allow isAnAttachment) := by
  have short : lib.isLetterTooLong pages.length = false := by
    by_contra long
    exact faultless _ _ (.tooLong (by simpa using long))
  obtain ⟨message, numbers, validated, checked, verdict, same⟩ :=
    accepted_file isAnAttachment lawful reliable read nonempty
  have pass : ∀ check, AllPass lib render isAnAttachment pages check := by
    by_contra failed
    obtain ⟨check, first⟩ := exists_firstFailed failed
    exact faultless _ _ (.pages short first (verdict.blames check first).2)
  obtain ⟨rfl, rfl⟩ := verdict.accepts.mpr pass
  obtain rfl := same rfl
  simp only [sanitise, counted, call_ok, ok_bind, short, Bool.false_eq_true, ↓reduceIte, checked, ne_eq,
    not_true_eq_false]
  refine Raises.bind ⟨fun error raised => ?_⟩ fun value _ =>
    Raises.bind warnIfFilesizeHasGrown_internal fun _ _ => inferInstance
  rcases (produce_refuses pages.length allow isAnAttachment).only error raised with
    internal | ⟨letter, logged, logging, text, restored, address, code, extracted, recognised, refused, rfl⟩
  · exact internal
  obtain ⟨page, rest, rfl⟩ := List.exists_cons_of_ne_nil nonempty
  obtain ⟨words, found⟩ := reliable.getTextWords page
  have readLogged : lib.readPages logged.bytes = .ok (page :: rest) := by
    rwa [logMetadataForLetter_bytes logging]
  rw [extractAddressBlock_ok lawful reliable readLogged found] at extracted
  cases extracted
  exact absurd (.address short pass letter ⟨logged, logging⟩ rfl ⟨words, address, found, recognised, refused⟩)
    (faultless code (some [1]))

/-- Sanitisation refuses a document that can be read with a message and pages exactly
when these are its first fault; a document without a fault passes or cannot be
processed. -/
theorem refusal_iff_fault (lawful : lib.Lawful render) (reliable : lib.Reliable)
    (counted : lib.pdfPageCount content = .ok pages.length) (read : lib.readPages content = .ok pages)
    (nonempty : pages ≠ []) :
    (∀ message invalidPages, sanitiseFileContents lib content allow isAnAttachment =
        refusal pages.length message invalidPages ↔
      Fault lib render content allow isAnAttachment pages message invalidPages) ∧
    ((∀ message invalidPages, ¬ Fault lib render content allow isAnAttachment pages message invalidPages) ↔
      (sanitiseFileContents lib content allow isAnAttachment).message = none ∨
        sanitiseFileContents lib content allow isAnAttachment = unreadable) := by
  have refused {message : String} {invalidPages : Option (List Nat)}
      (fault : Fault lib render content allow isAnAttachment pages message invalidPages) :
      sanitiseFileContents lib content allow isAnAttachment = refusal pages.length message invalidPages := by
    rw [sanitiseFileContents, sanitise_fault lawful reliable counted read nonempty fault]
    rfl
  have otherwise (faultless : ∀ message invalidPages,
      ¬ Fault lib render content allow isAnAttachment pages message invalidPages) :
      (sanitiseFileContents lib content allow isAnAttachment).message = none ∨
        sanitiseFileContents lib content allow isAnAttachment = unreadable := by
    have internal := sanitise_faultless lawful reliable counted read nonempty faultless
    rw [sanitiseFileContents]
    cases outcome : sanitise lib content allow isAnAttachment with
    | ok details => exact .inl (sanitise_eq_ok lawful outcome).message
    | error error =>
      right
      cases error with
      | validationFailed => exact (internal.only _ outcome).elim
      | _ => rfl
  constructor
  · refine fun message invalidPages => ⟨fun same => ?_, refused⟩
    by_cases faultless : ∀ message invalidPages,
        ¬ Fault lib render content allow isAnAttachment pages message invalidPages
    · rcases otherwise faultless with passed | failed
      · rw [same] at passed
        cases passed
      · cases same.symm.trans failed
    · push Not at faultless
      obtain ⟨_, _, fault⟩ := faultless
      cases same.symm.trans (refused fault)
      exact fault
  · refine ⟨otherwise, fun outcome message invalidPages fault => ?_⟩
    rw [refused fault] at outcome
    rcases outcome with passed | failed
    · cases passed
    · cases failed

end Stages

open InMemoryLibraries in
theorem wide_page_is_reported :
    sanitiseFileContents libraries (encodePages [widePage]) false true =
      refusal 1 "letter-not-a4-portrait-oriented" (some [1]) := by
  have read := readPages_encodePages [widePage]
  have counted : libraries.pdfPageCount (encodePages [widePage]) = .ok [widePage].length := by simp [libraries]
  have wide : ¬ Passes libraries InMemoryLibraries.render true 0 widePage .orientationAndSize := by
    show ¬ Page.isA4Portrait widePage = true
    decide +kernel
  refine ((refusal_iff_fault lawful reliable counted read (by simp)).1 _ _).mpr
    (.pages rfl ⟨fun all => wide (all 0 widePage rfl), by simp [Check.earlier]⟩ ⟨by simp, fun number => ?_⟩)
  constructor
  · intro member
    exact ⟨0, widePage, rfl, wide, by simpa using member⟩
  · rintro ⟨index, other, found, _, rfl⟩
    cases index with
    | zero => simp
    | succ => cases found

end TemplatePreview.Reports
