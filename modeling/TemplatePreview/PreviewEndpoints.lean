import TemplatePreview.RenderCache
import TemplatePreview.AttachmentReads
import TemplatePreview.TemplatedLetters

/-! The endpoints that show one page of a letter as an image. Pages are numbered
from one; a number below that is handed on and counts from the end. -/
namespace TemplatePreview.PreviewEndpoints
open Workers ObjectStore Pdf Outcomes LetterTasks CachedDownloads AttachmentReads RenderCache JsonSchema
open TemplatedLetters (Templates previewSchema preparePdf getPageCountForPdf)

variable {K σ Date : Type}

/-- What an endpoint raises or lets through. -/
inductive EndpointError where
  | raised (error : PyError)
  | render (error : RenderError)
  deriving DecidableEq, Repr

abbrev Response : Type := Except EndpointError MemoryFile

abbrev EndpointAction : Type := CacheAction SanitiseData Response

/-- `abort`. -/
def abort (code : Nat) (description : String) : Response := .error (.render (.abort code description))

/-- What the endpoints are built on, `missingDelegate` being whether an exception is
wand's `MissingDelegateError`. -/
structure Application (K σ Date : Type) where
  lib : Libraries K σ
  renderers : Renderers K σ
  templates : Templates Date
  missingDelegate : RenderError → Bool

def letterAttachmentPreviewSchema : Schema :=
  allOf [ofType [.object],
    properties [("service_id", ofType [.string]), ("letter_attachment_id", ofType [.string])],
    required ["service_id", "letter_attachment_id"],
    onlyProperties ["service_id", "letter_attachment_id"]]

/-- `base64.decodebytes`. -/
def decodebytes (encoded : Bytes) : Except Base64.DecodeError Bytes :=
  Base64.decodeFrom (encoded.map fun byte => Char.ofNat byte.toNat) 0 0 0

section Handlers
variable (app : Application K σ Date)

/-- `view_letter_template_png`. The argument of the request is an integer when it is
there. -/
def viewLetterTemplatePng (json : Json) (page : Option Int) : EndpointAction :=
  if !previewSchema json then return abort 400 (app.templates.validationError json)
  else
    match preparePdf app.lib app.templates json with
    | .error error => return .error (.raised error)
    | .ok pdf => do
      let requestedPage := page.getD 1
      return (← pngFromPdf app.lib app.renderers pdf requestedPage false).mapError .render

/-- `view_letter_attachment_preview`. -/
def viewLetterAttachmentPreview (json : Json) (page : Option Int) : EndpointAction :=
  match page with
  | none => return abort 400 ""
  | some requestedPage =>
    if !letterAttachmentPreviewSchema json then return abort 400 (app.templates.validationError json)
    else
      match TemplatedLetters.getItem json "service_id", TemplatedLetters.getItem json "letter_attachment_id" with
      | .error error, _ => return .error (.raised error)
      | .ok _, .error error => return .error (.raised error)
      | .ok serviceId, .ok attachmentId => do
        match ← getAttachmentPdf (app.templates.str serviceId) (app.templates.str attachmentId) with
        | .error error => return .error (.render (.download error))
        | .ok attachmentPdf =>
          match getPageCountForPdf app.lib attachmentPdf with
          | .error error => return .error (.raised error)
          | .ok attachmentPageCount =>
            if requestedPage ≤ attachmentPageCount then
              return (← pngFromPdf app.lib app.renderers attachmentPdf requestedPage false).mapError .render
            else return abort 400 s!"Letter attachment does not have a page {requestedPage}"

/-- `except MissingDelegateError`. -/
def catchMissingDelegate : Except RenderError MemoryFile → Response
  | .ok png => .ok png
  | .error error => if app.missingDelegate error then abort 400 "" else .error (.render error)

/-- `view_precompiled_letter`. -/
def viewPrecompiledLetter (encodedString : Bytes) (page : Option Int) (hideNotify : Option String) :
    EndpointAction :=
  if encodedString = [] then return abort 400 ""
  else
    match decodebytes encodedString with
    | .error _ => return .error (.raised .binasciiError)
    | .ok data => do
      return catchMissingDelegate app (← pngFromPdf app.lib app.renderers { bytes := data } (page.getD 1)
        (hideNotify.getD "" == "true"))

end Handlers

/-! ## From the PDF to the page -/

/-- A request for a page, apart from its number. -/
inductive PageRequest where
  | letterTemplate (json : Json)
  | letterAttachment (json : Json)
  | precompiled (encodedString : Bytes) (hideNotify : Option String)

namespace PageRequest
variable (app : Application K σ Date)

def handler (page : Int) : PageRequest → EndpointAction
  | .letterTemplate json => viewLetterTemplatePng app json (some page)
  | .letterAttachment json => viewLetterAttachmentPreview app json (some page)
  | .precompiled encodedString hideNotify => viewPrecompiledLetter app encodedString (some page) hideNotify

/-- The PDF that a page of is asked for. -/
def pdf : PageRequest → EndpointAction
  | .letterTemplate json =>
    if !previewSchema json then return abort 400 (app.templates.validationError json)
    else return (preparePdf app.lib app.templates json).mapError .raised
  | .letterAttachment json =>
    if !letterAttachmentPreviewSchema json then return abort 400 (app.templates.validationError json)
    else
      match TemplatedLetters.getItem json "service_id", TemplatedLetters.getItem json "letter_attachment_id" with
      | .error error, _ => return .error (.raised error)
      | .ok _, .error error => return .error (.raised error)
      | .ok serviceId, .ok attachmentId => do
        return (← getAttachmentPdf (app.templates.str serviceId) (app.templates.str attachmentId)).mapError
          fun error => .render (.download error)
  | .precompiled encodedString _ =>
    if encodedString = [] then return abort 400 ""
    else return ((decodebytes encodedString).map fun data => { bytes := data }).mapError fun _ =>
      .raised .binasciiError

def hideNotify : PageRequest → Bool
  | .letterTemplate _ | .letterAttachment _ => false
  | .precompiled _ hideNotify => hideNotify.getD "" == "true"

/-- What is made of the image, or of what was raised instead. -/
def finish : PageRequest → Except RenderError MemoryFile → Response
  | .letterTemplate _ | .letterAttachment _ => Except.mapError .render
  | .precompiled .. => catchMissingDelegate app

/-- What is done with the PDF. -/
def preview (request : PageRequest) (page : Int) (file : MemoryFile) : EndpointAction :=
  match request with
  | .letterAttachment _ =>
    match getPageCountForPdf app.lib file with
    | .error error => return .error (.raised error)
    | .ok count =>
      if page ≤ count then
        return request.finish app (← pngFromPdf app.lib app.renderers file page request.hideNotify)
      else return abort 400 s!"Letter attachment does not have a page {page}"
  | .letterTemplate _ | .precompiled .. => do
    return request.finish app (← pngFromPdf app.lib app.renderers file page request.hideNotify)

/-- Every handler obtains a PDF first. -/
theorem handler_eq (request : PageRequest) (page : Int) :
    request.handler app page = request.pdf app >>= fun obtained =>
      match obtained with
      | .error error => return .error error
      | .ok file => request.preview app page file := by
  cases request with
  | letterTemplate json =>
    simp only [handler, viewLetterTemplatePng, pdf]
    split
    · rfl
    · cases preparePdf app.lib app.templates json <;> rfl
  | letterAttachment json =>
    simp only [handler, viewLetterAttachmentPreview, pdf]
    split
    · rfl
    · split
      · rfl
      · rfl
      · rename_i serviceId attachmentId _ _
        refine Eq.trans (congrArg _ (funext fun obtained => ?_)) (Program.bind_assoc _ _ _).symm
        cases obtained <;> rfl
  | precompiled encodedString hideNotify =>
    simp only [handler, viewPrecompiledLetter, pdf]
    split
    · rfl
    · cases decodebytes encodedString <;> rfl

end PageRequest

/-! ## Which page is shown -/

section Pages
variable {app : Application K σ Date} {request : PageRequest} {earlier history : List TaskEvent} {file : MemoryFile}
  {pages : List (Page K σ)} {page : Page K σ} {requested : Int} {response : Response}

/-- The image of a page, from the cache or rendered. -/
def pageImage (app : Application K σ Date) (page : Page K σ) (hideNotify : Bool) :
    CacheAction SanitiseData (Except RenderError MemoryFile) :=
  newFunction (pngKey app.renderers (app.renderers.dumps page) hideNotify)
    (app.renderers.convertToPng (app.renderers.dumps page) hideNotify)

/-- From the PDF on, every run for a page that the PDF has renders that page and does
nothing else, and every run for another number ends at once with 400. -/
structure AnswersRequested (app : Application K σ Date) (request : PageRequest) (earlier : List TaskEvent)
    (pages : List (Page K σ)) (requested : Int) : Prop where
  rendered : ∀ (index : ℕ) page, requested = index + 1 → pages[index]? = some page → ∀ history response,
    (request.handler app requested).Finishes (earlier ++ history) response ↔
      ∃ image, (pageImage app page request.hideNotify).Finishes history image ∧ response = request.finish app image
  refused : requested < 1 ∨ pages.length < requested → ∃ description, ∀ history response,
    (request.handler app requested).Finishes (earlier ++ history) response ↔
      history = [] ∧ response = abort 400 description

private theorem selectPage_eq {lib : Libraries K σ} (read : lib.readPages file.bytes = .ok pages) :
    selectPage lib file requested =
      match getItem pages (requested - 1) with
      | none => .error (.abort 400 s!"Letter does not have a page {requested}")
      | some page => .ok page := by
  cases found : getItem pages (requested - 1) <;> simp [selectPage, read, found]

theorem selectPage_of_index {lib : Libraries K σ} (read : lib.readPages file.bytes = .ok pages) {index : ℕ}
    (found : pages[index]? = some page) : selectPage lib file (index + 1) = .ok page := by
  rw [selectPage_eq read]
  simp [getItem, found]

/-- Numbers beyond either end of the pages are refused. -/
theorem selectPage_outside {lib : Libraries K σ} (read : lib.readPages file.bytes = .ok pages)
    (outside : requested ≤ -pages.length ∨ pages.length < requested) :
    ∃ description, selectPage lib file requested = .error (.abort 400 description) := by
  have absent : getItem pages (requested - 1) = none := by
    unfold getItem
    split
    · exact List.getElem?_eq_none (by omega)
    · exact if_neg (by omega)
  rw [selectPage_eq read, absent]
  exact ⟨_, rfl⟩

/-- Zero and the numbers below it count from the end. -/
theorem selectPage_backward {lib : Libraries K σ} (read : lib.readPages file.bytes = .ok pages)
    (low : requested < 1) (high : -pages.length < requested) :
    ∃ page, selectPage lib file requested = .ok page := by
  have bound : (pages.length + (requested - 1)).toNat < pages.length := by omega
  have found : getItem pages (requested - 1) = some pages[(pages.length + (requested - 1)).toNat] := by
    rw [getItem, if_neg (by omega), if_pos (by omega), List.getElem?_eq_getElem bound]
  rw [selectPage_eq read, found]
  exact ⟨_, rfl⟩

theorem handler_finishes_iff (obtained : (request.pdf app).Finishes earlier (.ok file)) :
    (request.handler app requested).Finishes (earlier ++ history) response ↔
      (request.preview app requested file).Finishes history response := by
  rw [PageRequest.handler_eq, Program.finishes_bind_iff obtained]

/-- A page that is selected is the one whose image is made. -/
theorem preview_of_selected (read : app.lib.readPages file.bytes = .ok pages)
    (selected : selectPage app.lib file requested = .ok page) (present : requested ≤ pages.length) :
    request.preview app requested file =
      pageImage app page request.hideNotify >>= fun image => pure (request.finish app image) := by
  have image : ∀ hideNotify, (pngFromPdf app.lib app.renderers file requested hideNotify :
      CacheAction SanitiseData _) = pageImage app page hideNotify := fun hideNotify => by
    rw [pngFromPdf, selected]
    rfl
  cases request with
  | letterTemplate | precompiled => simp only [PageRequest.preview, image]
  | letterAttachment =>
    simp only [PageRequest.preview, getPageCountForPdf, read, call_ok, ok_bind, pure_eq_ok, present,
      ↓reduceIte, image]

/-- Where no page is selected the answer is 400. -/
theorem preview_of_refused (read : app.lib.readPages file.bytes = .ok pages) {description : String}
    (refused : selectPage app.lib file requested = .error (.abort 400 description)) :
    ∃ description, request.preview app requested file = pure (abort 400 description) := by
  have image : ∀ hideNotify, (pngFromPdf app.lib app.renderers file requested hideNotify :
      CacheAction SanitiseData _) = pure (.error (.abort 400 description)) := fun hideNotify => by
    rw [pngFromPdf, refused]
  cases request with
  | letterTemplate =>
    refine ⟨description, ?_⟩
    simp only [PageRequest.preview, image]
    rfl
  | letterAttachment =>
    simp only [PageRequest.preview, getPageCountForPdf, read, call_ok, ok_bind, pure_eq_ok]
    split
    · refine ⟨description, ?_⟩
      rw [image]
      rfl
    · exact ⟨_, rfl⟩
  | precompiled =>
    simp only [PageRequest.preview, image]
    cases caught : app.missingDelegate (.abort 400 description) with
    | true => exact ⟨"", congrArg Program.done (if_pos caught)⟩
    | false => exact ⟨description, congrArg Program.done (if_neg (by simp [caught]))⟩

/-- Making an image takes at least one call. -/
theorem pageImage_finishes (app : Application K σ Date) (page : Page K σ) (hideNotify : Bool) :
    ∃ event image, (pageImage app page hideNotify).Finishes [event] image :=
  ⟨Event.recalled _ _ (some (Base64.b64encode [])), _, .ask .done⟩

/-- Numbers from zero down are answered with the image of another page. -/
theorem not_answered_of_backward (obtained : (request.pdf app).Finishes earlier (.ok file))
    (read : app.lib.readPages file.bytes = .ok pages) (low : requested < 1) (high : -pages.length < requested) :
    ¬ AnswersRequested app request earlier pages requested := by
  rintro ⟨_, refused⟩
  obtain ⟨page, selected⟩ := selectPage_backward read low high
  obtain ⟨description, ends⟩ := refused (.inl low)
  obtain ⟨event, image, made⟩ := pageImage_finishes app page request.hideNotify
  have ran : (request.handler app requested).Finishes (earlier ++ [event]) (request.finish app image) := by
    rw [handler_finishes_iff obtained, preview_of_selected read selected (by omega)]
    exact Program.finishes_map_iff.mpr ⟨image, made, rfl⟩
  exact absurd ((ends _ _).mp ran).1 (by simp)

/-- Each endpoint answers a request for a page as it should exactly when the number
is positive, or so far below that not even counting from the end finds a page. -/
theorem requested_page_answered_iff (obtained : (request.pdf app).Finishes earlier (.ok file))
    (read : app.lib.readPages file.bytes = .ok pages) :
    AnswersRequested app request earlier pages requested ↔ 1 ≤ requested ∨ requested ≤ -pages.length := by
  constructor
  · intro answered
    by_contra! between
    exact not_answered_of_backward obtained read between.1 between.2 answered
  · intro positive
    constructor
    · rintro index page rfl found history response
      have present : (index : Int) + 1 ≤ pages.length := by
        have bound := (List.getElem?_eq_some_iff.mp found).1
        omega
      rw [handler_finishes_iff obtained, preview_of_selected read (selectPage_of_index read found) present,
        Program.finishes_map_iff]
    · intro outside
      obtain ⟨description, refused⟩ := selectPage_outside read
        (show requested ≤ -pages.length ∨ pages.length < requested by omega)
      obtain ⟨answer, same⟩ : ∃ description, request.preview app requested file = pure (abort 400 description) :=
        preview_of_refused read refused
      refine ⟨answer, fun history response => ?_⟩
      rw [handler_finishes_iff obtained, same, Program.finishes_pure]

end Pages

section InMemory
open InMemoryLibraries TemplatedLetters

def application : Application ℚ (List (Word ℚ)) String where
  lib := libraries
  renderers := greetingRenderers
  templates := tightTemplates
  missingDelegate _ := false

/-- A request for a page of an attachment of two pages. -/
def attachmentRequest : PageRequest :=
  .letterAttachment (.object [("service_id", .string "service"), ("letter_attachment_id", .string "attachment")])

/-- The attachment is in the cache of the process. -/
def attachmentRecalled : List TaskEvent :=
  [Event.recalled .letterAttachment (getTransientLetterFileLocation "" "")
    (some (Base64.b64encode (encodePages [blankPage, blankPage])))]

theorem attachmentRequest_obtains :
    (attachmentRequest.pdf application).Finishes attachmentRecalled
      (.ok { bytes := encodePages [blankPage, blankPage] }) := by
  have obtains : attachmentRequest.pdf application = getAttachmentPdf "" "" >>= fun obtained =>
      pure (obtained.mapError fun error => .render (.download error)) := by
    rw [attachmentRequest, PageRequest.pdf, if_neg (by decide)]
    rfl
  rw [obtains, Program.finishes_map_iff]
  refine ⟨.ok { bytes := encodePages [blankPage, blankPage] }, ?_, rfl⟩
  rw [← decodeCached_b64encode]
  exact .ask .done

theorem second_page_answered : AnswersRequested application attachmentRequest attachmentRecalled
    [blankPage, blankPage] 2 :=
  (requested_page_answered_iff attachmentRequest_obtains (readPages_encodePages _)).mpr (.inl (by decide))

/-- Page zero is shown, and it is the last page. -/
theorem page_zero_is_not_refused : ¬ AnswersRequested application attachmentRequest attachmentRecalled
    [blankPage, blankPage] 0 :=
  not_answered_of_backward attachmentRequest_obtains (readPages_encodePages _) (by decide) (by decide)

end InMemory

end TemplatePreview.PreviewEndpoints
