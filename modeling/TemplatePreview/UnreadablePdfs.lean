import TemplatePreview.PreviewEndpoints
import TemplatePreview.Overlays

/-! What the endpoints answer to a PDF that pypdf cannot read. Which status an
exception becomes is decided by the error handlers of the application, and which
exception is raised by how much of the reading each endpoint guards. -/
namespace TemplatePreview.UnreadablePdfs
open Workers Pdf Outcomes Overlays Sanitisation LetterTasks RenderCache JsonSchema PreviewEndpoints

variable {K σ Date : Type}

/-! ## Error handlers -/

/-- An exception as the error handlers see it: whether it is an `InvalidRequest`,
the code of an `HTTPException`, and the attributes it has. -/
structure RaisedException where
  isInvalidRequest : Bool := false
  httpCode : Option Nat := none
  description : String := ""
  message : Option String := none
  code : Option Nat := none
  deriving DecidableEq, Repr

/-- Only the classes of the application and of Flask have a message or a code. -/
def raisedException : EndpointError → RaisedException
  | .raised (.invalidRequest message code) => { isInvalidRequest := true, message := message, code := code }
  | .raised (.validationFailed message _ _ code) => { message := message, code := code }
  | .raised (.httpException code description) | .render (.abort code description) =>
    { httpCode := code, description := description, code := code }
  | _ => {}

/-- The error handlers that `init_app` registers. -/
inductive ErrorHandler where
  | invalidRequest
  | exception
  | badRequest
  | pageNotFound
  deriving DecidableEq, Repr

/-- The handler that Flask selects: by code first, then by class. -/
def errorHandler (error : RaisedException) : ErrorHandler :=
  if error.httpCode = some 400 then .badRequest
  else if error.httpCode = some 404 then .pageNotFound
  else if error.isInvalidRequest then .invalidRequest
  else .exception

/-- The JSON that is sent for an exception, and its status. -/
structure ErrorResponse where
  result : String := "error"
  message : Option String
  statusCode : Nat
  deriving DecidableEq, Repr

/-- `error.code or 500`. -/
def codeOr500 (code : Nat) : Nat := if code = 0 then 500 else code

/-- What a handler returns for an exception with this text. -/
def ErrorHandler.respond (error : RaisedException) (str : String) : ErrorHandler → ErrorResponse
  | .invalidRequest => { message := some (error.message.getD ""), statusCode := error.code.getD 500 }
  | .exception =>
    match error.message, error.code with
    | some message, code => { message := some message, statusCode := codeOr500 (code.getD 0) }
    | none, some code => { message := none, statusCode := codeOr500 code }
    | none, none => { message := some str, statusCode := 500 }
  | .badRequest => { message := some str, statusCode := 400 }
  | .pageNotFound =>
    { message := some (if error.description = "" then "Not found" else error.description), statusCode := 404 }

/-- The response to what an endpoint raised. -/
def errorResponse (str : EndpointError → String) (error : EndpointError) : ErrorResponse :=
  (errorHandler (raisedException error)).respond (raisedException error) (str error)

/-- An exception that is answered with 400, and not by the handler of `Exception`. -/
def Refused (str : EndpointError → String) (error : EndpointError) : Prop :=
  errorHandler (raisedException error) ≠ .exception ∧ (errorResponse str error).statusCode = 400

theorem refused_invalidRequest (str : EndpointError → String) (message : String) :
    Refused str (.raised (.invalidRequest message 400)) := ⟨nofun, rfl⟩

theorem refused_abort (str : EndpointError → String) (description : String) :
    Refused str (.render (.abort 400 description)) := ⟨nofun, rfl⟩

/-- No handler is registered for what libraries raise. -/
theorem not_refused_library (str : EndpointError → String) (error : LibraryError) :
    ¬ Refused str (.raised (.library error)) := fun refused => refused.1 rfl

/-! ## Drawing the red overlay -/

/-- What the overlay endpoints are built on besides: the constructor of integers,
and the texts of the arguments of a request and of exceptions. -/
structure Site (K σ Date : Type) extends Application K σ Date where
  int : String → Py Int
  strOfArgs : List (String × String) → String
  str : EndpointError → String

section Overlay
variable [Field K] [LinearOrder K]

/-- `_colour_no_print_areas_of_single_page_pdf_in_red`. Its `try` block holds the
opening of the PDF only. -/
def colourNoPrintAreasOfSinglePagePdfInRed (lib : Libraries K σ) (srcPdf : MemoryFile) (isFirstPage : Bool) :
    Py MemoryFile := do
  let pdf ← (match lib.pdfReader srcPdf.bytes with
    | .ok pdf => pure pdf
    | .error (.pdfReadError text) => throw (.invalidRequest s!"Unable to read the PDF data: {text}" 400)
    | .error error => throw (.library error))
  match ← call pdf.pages with
  | [page] => do
    let page ← colourNoPrintAreasOfPageInRed lib page isFirstPage
    bytesioFromPdf lib [page]
  | _ => throw (.invalidRequest
      "_colour_no_print_areas_of_page_in_red should only be called for a one-page-pdf" 400)

variable (site : Site K σ Date)

/-- Whether the page of a request is drawn as the first page of a letter. -/
def requestedFirstPage (args : List (String × String)) : Py Bool :=
  let isAnAttachment := ((args.lookup "is_an_attachment").getD "").toLower == "true"
  if (args.lookup "is_first_page").isSome && !isAnAttachment then
    return ((args.lookup "is_first_page").getD "").toLower == "true"
  else
    match args.lookup "page_number" with
    | some pageNumber => do
      let page ← site.int pageNumber
      return page == 1 && !isAnAttachment
    | none => throw (.invalidRequest
        s!"page_number or is_first_page must be specified in request params {site.strOfArgs args}" 400)

/-- `overlay_template_png_for_page`. -/
def overlayTemplatePngForPage (encodedString : Bytes) (args : List (String × String)) : EndpointAction :=
  if encodedString = [] then return .error (.raised (.invalidRequest "no data received in POST" 400))
  else
    match requestedFirstPage site args with
    | .error error => return .error (.raised error)
    | .ok isFirstPage =>
      match colourNoPrintAreasOfSinglePagePdfInRed site.lib { bytes := encodedString } isFirstPage with
      | .error error => return .error (.raised error)
      | .ok pdf => return (← pngFromPdf site.lib site.renderers pdf 1 false).mapError .render

/-- The loop of `overlay_template_pdf`, over the pages of an opened document. -/
def colourNoPrintAreasInRed (lib : Libraries K σ) (pages : List (Page K σ)) : Py MemoryFile := do
  let pages ← pages.zipIdx.mapM fun (page, i) => colourNoPrintAreasOfPageInRed lib page (i == 0)
  bytesioFromPdf lib pages

/-- `overlay_template_pdf`. -/
def overlayTemplatePdf (encodedString : Bytes) (args : List (String × String)) : EndpointAction :=
  if encodedString = [] then return .error (.raised (.invalidRequest "no data received in POST" 400))
  else if args ≠ [] then return .error (.raised (.invalidRequest
    s!"Did not expect any args but received {site.strOfArgs args}. Did you mean to call overlay.png?" 400))
  else return (do
    let pdf ← call (site.lib.pdfReader encodedString)
    colourNoPrintAreasInRed site.lib (← call pdf.pages)).mapError .raised

/-! ## From the PDF to the answer -/

/-- A request to an endpoint that takes a PDF or reads one. -/
inductive PdfRequest where
  | overlayPng (encodedString : Bytes) (args : List (String × String))
  | overlayPdf (encodedString : Bytes) (args : List (String × String))
  | precompiledPreview (encodedString : Bytes) (page : Option Int) (hideNotify : Option String)
  | letterAttachmentPreview (json : Json) (page : Option Int)

namespace PdfRequest

def handler : PdfRequest → EndpointAction
  | .overlayPng encodedString args => overlayTemplatePngForPage site encodedString args
  | .overlayPdf encodedString args => overlayTemplatePdf site encodedString args
  | .precompiledPreview encodedString page hideNotify =>
    viewPrecompiledLetter site.toApplication encodedString page hideNotify
  | .letterAttachmentPreview json page => viewLetterAttachmentPreview site.toApplication json page

/-- The PDF that pypdf is handed, unless the request is refused before. -/
def pdf : PdfRequest → EndpointAction
  | .overlayPng encodedString args =>
    if encodedString = [] then return .error (.raised (.invalidRequest "no data received in POST" 400))
    else return ((requestedFirstPage site args).map fun _ => { bytes := encodedString }).mapError .raised
  | .overlayPdf encodedString args =>
    if encodedString = [] then return .error (.raised (.invalidRequest "no data received in POST" 400))
    else if args ≠ [] then return .error (.raised (.invalidRequest
      s!"Did not expect any args but received {site.strOfArgs args}. Did you mean to call overlay.png?" 400))
    else return .ok { bytes := encodedString }
  | .precompiledPreview encodedString _ hideNotify =>
    PageRequest.pdf site.toApplication (.precompiled encodedString hideNotify)
  | .letterAttachmentPreview json page =>
    match page with
    | none => return abort 400 ""
    | some _ => PageRequest.pdf site.toApplication (.letterAttachment json)

/-- What is done with the PDF. -/
def answer (file : MemoryFile) : PdfRequest → EndpointAction
  | .overlayPng _ args =>
    match do colourNoPrintAreasOfSinglePagePdfInRed site.lib file (← requestedFirstPage site args) with
    | .error error => return .error (.raised error)
    | .ok pdf => return (← pngFromPdf site.lib site.renderers pdf 1 false).mapError .render
  | .overlayPdf .. => return (do
    let pdf ← call (site.lib.pdfReader file.bytes)
    colourNoPrintAreasInRed site.lib (← call pdf.pages)).mapError .raised
  | .precompiledPreview encodedString page hideNotify =>
    (PageRequest.precompiled encodedString hideNotify).preview site.toApplication (page.getD 1) file
  | .letterAttachmentPreview json page =>
    (PageRequest.letterAttachment json).preview site.toApplication (page.getD 1) file

/-- Every handler obtains a PDF first. -/
theorem handler_eq (request : PdfRequest) :
    request.handler site = request.pdf site >>= fun obtained =>
      match obtained with
      | .error error => return .error error
      | .ok file => request.answer site file := by
  cases request with
  | overlayPng encodedString args =>
    simp only [handler, overlayTemplatePngForPage, pdf]
    split
    · rfl
    · cases first : requestedFirstPage site args with
      | error error => rfl
      | ok isFirstPage =>
        simp only [answer, first]
        rfl
  | overlayPdf encodedString args =>
    simp only [handler, overlayTemplatePdf, pdf]
    split
    · rfl
    · split <;> rfl
  | precompiledPreview encodedString page hideNotify =>
    exact PageRequest.handler_eq site.toApplication (.precompiled encodedString hideNotify) (page.getD 1)
  | letterAttachmentPreview json page =>
    cases page with
    | none => rfl
    | some page => exact PageRequest.handler_eq site.toApplication (.letterAttachment json) page

/-- Whether a `PdfReadError` for these bytes is raised inside a `try` block. -/
def Guards (lib : Libraries K σ) (bytes : Bytes) : PdfRequest → Prop
  | .precompiledPreview .. => True
  | .overlayPng .. => ∃ text, lib.pdfReader bytes = .error (.pdfReadError text)
  | .overlayPdf .. | .letterAttachmentPreview .. => False

end PdfRequest

/-! ## Unreadable PDFs -/

/-- From the PDF on, every run is refused. -/
def AnswersBadRequest (request : PdfRequest) (earlier : List TaskEvent) : Prop :=
  ∀ history response, (request.handler site).Finishes (earlier ++ history) response →
    ∃ error, response = .error error ∧ Refused site.str error

/-- The status of the answer of `/precompiled/sanitise`. -/
def sanitiseStatus (encodedString : Bytes) (allowInternationalLetters isAnAttachment : Option String) : Nat :=
  match sanitisePrecompiledLetter site.lib encodedString allowInternationalLetters isAnAttachment with
  | .ok response => response.statusCode
  | .error error => (errorResponse site.str (.raised error)).statusCode

section Unreadable
variable {site : Site K σ Date} {request : PdfRequest} {earlier : List TaskEvent} {file : MemoryFile} {text : String}

/-- A PDF is not sanitised when its pages cannot be read, whoever notices. -/
theorem sanitise_refuses_unreadable {render : Page K σ → Image} (lawful : site.lib.Lawful render) {bytes : Bytes}
    (unreadable : site.lib.readPages bytes = .error (.pdfReadError text)) (allow isAnAttachment : Option String) :
    sanitiseStatus site bytes allow isAnAttachment = 400 := by
  unfold sanitiseStatus sanitisePrecompiledLetter
  split_ifs with empty
  · rfl
  · have failed : (sanitiseFileContents site.lib bytes (allow == some "true")
        (isAnAttachment == some "true")).failed = true := by
      rcases sanitiseFileContents_shape lawful bytes (allow == some "true") (isAnAttachment == some "true") with
        success | failure
      · obtain ⟨pages, read, _⟩ := success.pageCount
        rw [unreadable] at read
        cases read
      · exact failure.failed
    exact if_pos failed

/-- Only what opening the PDF raises becomes an `InvalidRequest`. -/
theorem colour_of_unreadable {lib : Libraries K σ} (unreadable : lib.readPages file.bytes = .error (.pdfReadError text))
    (isFirstPage : Bool) :
    ∃ error, colourNoPrintAreasOfSinglePagePdfInRed lib file isFirstPage = .error error ∧
      ∀ str, Refused str (.raised error) ↔ ∃ text, lib.pdfReader file.bytes = .error (.pdfReadError text) := by
  unfold colourNoPrintAreasOfSinglePagePdfInRed
  rcases bind_eq_error.mp unreadable with opening | ⟨pdf, opened, pages⟩
  · refine ⟨.invalidRequest s!"Unable to read the PDF data: {text}" 400, ?_,
      fun str => iff_of_true (refused_invalidRequest str _) ⟨text, opening⟩⟩
    rw [opening]
    rfl
  · refine ⟨.library (.pdfReadError text), ?_, fun str => iff_of_false (not_refused_library str _) (by simp [opened])⟩
    rw [opened, pure_bind, pages]
    rfl

omit [Field K] [LinearOrder K] in
/-- The arguments of a request are read before its PDF. -/
theorem requestedFirstPage_of_obtained {encodedString : Bytes} {args : List (String × String)}
    (obtained : (PdfRequest.pdf site (.overlayPng encodedString args)).Finishes earlier (.ok file)) :
    ∃ isFirstPage, requestedFirstPage site args = .ok isFirstPage := by
  rw [PdfRequest.pdf] at obtained
  split_ifs at obtained
  · cases obtained
  · cases first : requestedFirstPage site args with
    | ok isFirstPage => exact ⟨isFirstPage, rfl⟩
    | error error =>
      rw [first] at obtained
      cases obtained

omit [Field K] [LinearOrder K] in
/-- Whatever of wand's exceptions is caught, the exception of `abort` stays one. -/
theorem catchMissingDelegate_abort (description : String) :
    ∃ answered, catchMissingDelegate site.toApplication (.error (.abort 400 description)) =
      .error (.render (.abort 400 answered)) := by
  cases caught : site.missingDelegate (.abort 400 description) with
  | true => exact ⟨"", if_pos caught⟩
  | false => exact ⟨description, if_neg (by simp [caught])⟩

/-- What an endpoint raises for a PDF that cannot be read. It is refused exactly
where it is guarded. -/
theorem answer_of_unreadable (obtained : (request.pdf site).Finishes earlier (.ok file))
    (unreadable : site.lib.readPages file.bytes = .error (.pdfReadError text)) :
    ∃ error, request.answer site file = pure (.error error) ∧
      (Refused site.str error ↔ request.Guards site.lib file.bytes) := by
  cases request with
  | overlayPng encodedString args =>
    obtain ⟨isFirstPage, first⟩ := requestedFirstPage_of_obtained obtained
    obtain ⟨error, raised, guarded⟩ := colour_of_unreadable unreadable isFirstPage
    refine ⟨.raised error, ?_, guarded site.str⟩
    simp only [PdfRequest.answer, first, ok_bind, raised]
  | overlayPdf encodedString args =>
    refine ⟨.raised (.library (.pdfReadError text)), ?_, iff_of_false (not_refused_library _ _) id⟩
    rcases bind_eq_error.mp unreadable with opening | ⟨pdf, opened, pages⟩
    · simp only [PdfRequest.answer, opening]
      rfl
    · simp only [PdfRequest.answer, opened, call_ok, ok_bind, pages]
      rfl
  | precompiledPreview encodedString page hideNotify =>
    have selected : selectPage site.lib file (page.getD 1) = .error (.abort 400 "Could not read PDF") := by
      rw [selectPage, unreadable]
    obtain ⟨description, caught⟩ : ∃ answered, catchMissingDelegate site.toApplication
        (.error (.abort 400 "Could not read PDF")) = .error (.render (.abort 400 answered)) :=
      catchMissingDelegate_abort "Could not read PDF"
    refine ⟨.render (.abort 400 description), ?_, iff_of_true (refused_abort _ _) trivial⟩
    simp only [PdfRequest.answer, PageRequest.preview, pngFromPdf, selected]
    exact congrArg Program.done caught
  | letterAttachmentPreview json page =>
    refine ⟨.raised (.library (.pdfReadError text)), ?_, iff_of_false (not_refused_library _ _) id⟩
    simp only [PdfRequest.answer, PageRequest.preview, TemplatedLetters.getPageCountForPdf, unreadable]
    rfl

theorem handler_finishes_iff (obtained : (request.pdf site).Finishes earlier (.ok file)) {history : List TaskEvent}
    {response : PreviewEndpoints.Response} :
    (request.handler site).Finishes (earlier ++ history) response ↔
      (request.answer site file).Finishes history response := by
  rw [PdfRequest.handler_eq, Program.finishes_bind_iff obtained]

theorem answersBadRequest_iff (obtained : (request.pdf site).Finishes earlier (.ok file))
    (unreadable : site.lib.readPages file.bytes = .error (.pdfReadError text)) :
    AnswersBadRequest site request earlier ↔ request.Guards site.lib file.bytes := by
  obtain ⟨error, answered, guarded⟩ := answer_of_unreadable obtained unreadable
  rw [← guarded]
  constructor
  · intro refuses
    have ran : (request.handler site).Finishes (earlier ++ []) (.error error) := by
      rw [handler_finishes_iff obtained, answered]
      exact .done
    obtain ⟨_, ⟨⟩, refused⟩ := refuses [] (.error error) ran
    exact refused
  · intro refused history response finishes
    rw [handler_finishes_iff obtained, answered, Program.finishes_pure] at finishes
    exact ⟨error, finishes.2, refused⟩

/-- A PDF that pypdf cannot read is answered with 400, as it is where letters are
sanitised, exactly by the endpoints that guard what raises. -/
theorem unreadable_pdf_refused_iff {render : Page K σ → Image} (lawful : site.lib.Lawful render)
    (obtained : (request.pdf site).Finishes earlier (.ok file))
    (unreadable : site.lib.readPages file.bytes = .error (.pdfReadError text)) :
    (AnswersBadRequest site request earlier ∧
        ∀ allow isAnAttachment, sanitiseStatus site file.bytes allow isAnAttachment = 400) ↔
      request.Guards site.lib file.bytes := by
  rw [answersBadRequest_iff obtained unreadable]
  exact and_iff_left (sanitise_refuses_unreadable lawful unreadable)

end Unreadable

end Overlay

section InMemory
open InMemoryLibraries

def site : Site ℚ (List (Word ℚ)) String where
  toApplication := application
  int text := (text.toInt?.map Except.ok).getD (.error (.exception "invalid literal for int() with base 10"))
  strOfArgs _ := "ImmutableMultiDict([])"
  str
    | .raised (.library (.pdfReadError text)) => text
    | .render (.abort 400 description) => "400 Bad Request: " ++ description
    | _ => ""

/-- One byte that is no PDF, and its base 64. -/
def noPdf : Bytes := [1]
def encodedNoPdf : Bytes := (Base64.b64encode noPdf).toList.map fun character => UInt8.ofNat character.toNat

theorem noPdf_unreadable : libraries.readPages noPdf = .error (.pdfReadError "EOF marker not found") := rfl

private theorem encodedNoPdf_obtained :
    ((PdfRequest.precompiledPreview encodedNoPdf none none).pdf site).Finishes [] (.ok { bytes := noPdf }) := .done

theorem noPdf_preview_is_refused :
    AnswersBadRequest site (.precompiledPreview encodedNoPdf none none) [] ∧
      ∀ allow isAnAttachment, sanitiseStatus site noPdf allow isAnAttachment = 400 :=
  (unreadable_pdf_refused_iff lawful encodedNoPdf_obtained noPdf_unreadable).mpr trivial

/-- Nothing is caught where a whole letter is overlaid. -/
theorem noPdf_overlay_is_not_refused :
    ((PdfRequest.overlayPdf noPdf []).pdf site).Finishes [] (.ok { bytes := noPdf }) ∧
      site.lib.readPages noPdf = .error (.pdfReadError "EOF marker not found") ∧
      ¬ AnswersBadRequest site (.overlayPdf noPdf []) [] := by
  have obtained : ((PdfRequest.overlayPdf noPdf []).pdf site).Finishes [] (.ok { bytes := noPdf }) := .done
  exact ⟨obtained, noPdf_unreadable, (answersBadRequest_iff obtained noPdf_unreadable).mp⟩

end InMemory

end TemplatePreview.UnreadablePdfs
