import TemplatePreview.Sanitisation
import TemplatePreview.ObjectStore

/-! The tasks that sanitise a stored file: a new letter, a letter whose file is
made again, an attachment that is made again. -/
namespace TemplatePreview.LetterTasks
open Workers ObjectStore Pdf Sanitisation

variable {K σ : Type} [Field K] [LinearOrder K]

inductive Bucket where
  | letterCache
  | letterAttachment
  | lettersPdf
  | lettersScan
  | sanitisedLetter
  | precompiledOriginalsBackup
  deriving DecidableEq, Repr

structure S3Object where
  filedata : Bytes
  metadata : List (String × String) := []
  deriving DecidableEq, Repr

inductive ValidationStatus where
  | passed
  | failed
  deriving DecidableEq, Repr

/-- What is sent to `process-sanitised-letter`. -/
structure SanitiseData where
  pageCount : Option Nat
  message : Option String
  invalidPages : Option (List Nat)
  validationStatus : ValidationStatus
  filename : String
  notificationId : String
  address : Option String
  deriving DecidableEq, Repr

/-- Processes cache text. -/
abbrev TaskEvent : Type := ObjectStore.Event Bucket String S3Object String SanitiseData

/-- A task ends in what it returns or raises. -/
abbrev TaskAction : Type := Action Bucket String S3Object String SanitiseData (Py Unit)

/-- `except BotoClientError`: logged, and the task returns. -/
def caught : Failure → Py Unit
  | .objectNotFound | .clientError => .ok ()
  | .other => .error (.exception "S3")

/-- `base64.b64decode(sanitisation_details["file"].encode())`. -/
def decodedFile (details : SanitisationDetails) : Py Bytes :=
  match details.file with
  | none => .error .attributeError
  | some file =>
    match Base64.b64decode file with
    | .error _ => .error .binasciiError
    | .ok fileData => .ok fileData

/-- The arguments of `sanitise_and_upload_letter`. -/
structure Delivery where
  notificationId : String
  filename : String
  allowInternationalLetters : Bool
  deriving DecidableEq, Repr

def Delivery.backupFilename (delivery : Delivery) : String := delivery.notificationId ++ ".pdf"

/-- The result of sanitising the file of a delivery. -/
def Delivery.details (lib : Libraries K σ) (delivery : Delivery) (pdfContent : S3Object) : SanitisationDetails :=
  sanitiseFileContents lib pdfContent.filedata delivery.allowInternationalLetters false

def Delivery.sanitiseData (delivery : Delivery) (details : SanitisationDetails)
    (validationStatus : ValidationStatus) : SanitiseData where
  pageCount := details.pageCount
  message := details.message
  invalidPages := details.invalidPages
  validationStatus := validationStatus
  filename := delivery.filename
  notificationId := delivery.notificationId
  address := details.recipientAddress

/-- `sanitise_and_upload_letter`. -/
def sanitiseAndUploadLetter (lib : Libraries K σ) (delivery : Delivery) : TaskAction := do
  match ← download .lettersScan delivery.filename with
  | .error failure => return caught failure
  | .ok pdfContent =>
    let sanitisationDetails := delivery.details lib pdfContent
    if sanitisationDetails.failed then do
      send (delivery.sanitiseData sanitisationDetails .failed)
      return .ok ()
    else
      match decodedFile sanitisationDetails with
      | .error error => return .error error
      | .ok fileData => do
        match ← upload .sanitisedLetter delivery.filename { filedata := fileData } with
        | .error failure => return caught failure
        | .ok () => do
          match ← copy .lettersScan delivery.filename .precompiledOriginalsBackup delivery.backupFilename with
          | .error failure => return caught failure
          | .ok () => do
            send (delivery.sanitiseData sanitisationDetails .passed)
            return .ok ()

/-- The body of the two tasks that make a file again from its backup: one object
is read, sanitised and written over another one. -/
def resanitise (backupFilename : String) (details : S3Object → SanitisationDetails) (bucket : Bucket)
    (fileLocation : String) (metadata : SanitisationDetails → List (String × String)) : TaskAction := do
  match ← download .precompiledOriginalsBackup backupFilename with
  | .error failure => return caught failure
  | .ok pdfContent =>
    let sanitisationDetails := details pdfContent
    if sanitisationDetails.failed then return .ok ()
    else
      match decodedFile sanitisationDetails with
      | .error error => return .error error
      | .ok fileData => do
        match ← upload bucket fileLocation { filedata := fileData, metadata := metadata sanitisationDetails } with
        | .error failure => return caught failure
        | .ok () => return .ok ()

/-- `recreate_pdf_for_precompiled_letter`. -/
def recreatePdfForPrecompiledLetter (lib : Libraries K σ) (notificationId fileLocation : String)
    (allowInternationalLetters : Bool) : TaskAction :=
  resanitise (notificationId ++ ".pdf")
    (fun pdfContent => sanitiseFileContents lib pdfContent.filedata allowInternationalLetters false)
    .lettersPdf fileLocation fun _ => []

/-- `get_transient_letter_file_location`. -/
def getTransientLetterFileLocation (serviceId uploadId : String) : String :=
  "service-" ++ serviceId ++ "/" ++ uploadId ++ ".pdf"

/-- `recreate_pdf_for_template_letter_attachments`. `quote` is
`urllib.parse.quote`. -/
def recreatePdfForTemplateLetterAttachments (lib : Libraries K σ) (quote : String → String)
    (serviceId attachmentId originalFilename : String) : TaskAction :=
  resanitise (attachmentId ++ ".pdf")
    (fun pdfContent => sanitiseFileContents lib pdfContent.filedata false true)
    .letterAttachment (getTransientLetterFileLocation serviceId attachmentId)
    fun sanitisationDetails => [("page_count", sanitisationDetails.pageCount.elim "None" toString),
      ("filename", quote originalFilename)]

/-! ## Failed sanitisation -/

section Failing
variable {lib : Libraries K σ} {render : Page K σ → Image}

theorem decodedFile_of_file {details : SanitisationDetails} {fileData : Bytes}
    (file : details.file = some (Base64.b64encode fileData)) : decodedFile details = .ok fileData := by
  simp [decodedFile, file, Base64.b64decode_b64encode]

/-- The file of a result that is not a failure can be decoded. -/
theorem decodedFile_ok (lawful : lib.Lawful render) {content : Bytes} {allow isAnAttachment : Bool}
    (passed : ¬ (sanitiseFileContents lib content allow isAnAttachment).failed) :
    ∃ text fileData, (sanitiseFileContents lib content allow isAnAttachment).file = some text ∧
      Base64.b64decode text = .ok fileData ∧
      decodedFile (sanitiseFileContents lib content allow isAnAttachment) = .ok fileData := by
  rcases sanitiseFileContents_shape lawful content allow isAnAttachment with success | failure
  · obtain ⟨text, count, produced, file, _, _, decoded⟩ := success.file
    exact ⟨text, produced.bytes, file, decoded, by simp [decodedFile, file, decoded]⟩
  · exact absurd failure.failed passed

/-- A result with a file to decode is not a failure. -/
theorem passed_of_decoded (lawful : lib.Lawful render) {content fileData : Bytes} {allow isAnAttachment : Bool}
    (decoded : decodedFile (sanitiseFileContents lib content allow isAnAttachment) = .ok fileData) :
    (sanitiseFileContents lib content allow isAnAttachment).failed = false := by
  by_contra failed
  have failure := (failed_iff_failure lawful content allow isAnAttachment).mp (eq_true_of_ne_false failed)
  rw [decodedFile, failure.file] at decoded
  cases decoded

/-- A downloaded file that passes has a file to decode. -/
private theorem decodes_passed (lawful : lib.Lawful render) (allow isAnAttachment : Bool) (pdfContent : S3Object)
    (passed : ¬ (sanitiseFileContents lib pdfContent.filedata allow isAnAttachment).failed) :
    ∃ fileData, decodedFile (sanitiseFileContents lib pdfContent.filedata allow isAnAttachment) = .ok fileData := by
  obtain ⟨_, fileData, _, _, decoded⟩ := decodedFile_ok lawful passed
  exact ⟨fileData, decoded⟩

/-- A run that decodes no missing file, and that writes to no bucket when the file
it downloaded failed sanitisation. -/
structure HandlesFailure (details : S3Object → SanitisationDetails) (history : List TaskEvent)
    (result : Py Unit) : Prop where
  decodes : result ≠ .error .attributeError ∧ result ≠ .error .binasciiError
  writesNothing : ∀ bucket key pdfContent, Event.downloaded bucket key (.ok pdfContent) ∈ history →
    (details pdfContent).failed → ∀ event ∈ history, ¬ Event.Writes event

/-- A contract that allows every call. -/
def anyCall : Contract (Call Bucket String S3Object String SanitiseData) Call.Answer :=
  ⟨fun _ _ => True, fun _ _ => True⟩

theorem caught_decodes (failure : ObjectStore.Failure) :
    caught failure ≠ .error .attributeError ∧ caught failure ≠ .error .binasciiError := by
  cases failure <;> simp [caught]

private theorem handles_of_passed {details : S3Object → SanitisationDetails} {pdfContent : S3Object}
    {history : List TaskEvent} {result : Py Unit} (passed : ¬ (details pdfContent).failed)
    (only : ∀ bucket key object, Event.downloaded bucket key (.ok object) ∈ history → object = pdfContent)
    (decodes : result ≠ .error .attributeError ∧ result ≠ .error .binasciiError) :
    HandlesFailure details history result :=
  ⟨decodes, fun bucket key object found failed => absurd (only bucket key object found ▸ failed) passed⟩

theorem sanitiseAndUploadLetter_handles (lawful : lib.Lawful render) (delivery : Delivery) :
    anyCall.Keeps (HandlesFailure (delivery.details lib)) [] (sanitiseAndUploadLetter lib delivery) := by
  refine keeps_download trivial (fun failure => ?_) fun pdfContent _ => ?_
  · exact ⟨caught_decodes failure, by simp⟩
  dsimp only
  split
  · exact keeps_send trivial ⟨by simp, by simp⟩
  rename_i passed
  obtain ⟨text, fileData, _, _, decoded⟩ := decodedFile_ok lawful passed
  rw [Delivery.details, decoded]
  refine keeps_upload trivial (fun failure => ?_) (keeps_copy trivial (fun failure => ?_) (keeps_send trivial ?_))
  · exact handles_of_passed passed (by simp) (caught_decodes failure)
  · exact handles_of_passed passed (by simp) (caught_decodes failure)
  · exact handles_of_passed passed (by simp) (by simp)

theorem resanitise_handles {details : S3Object → SanitisationDetails}
    (decodes : ∀ pdfContent, ¬ (details pdfContent).failed →
      ∃ fileData, decodedFile (details pdfContent) = .ok fileData)
    (backupFilename : String) (bucket : Bucket) (fileLocation : String)
    (metadata : SanitisationDetails → List (String × String)) :
    anyCall.Keeps (HandlesFailure details) []
      (resanitise backupFilename details bucket fileLocation metadata) := by
  refine keeps_download trivial (fun failure => ?_) fun pdfContent _ => ?_
  · exact ⟨caught_decodes failure, by simp⟩
  dsimp only
  split
  · exact ⟨by simp, by simp⟩
  rename_i passed
  obtain ⟨fileData, decoded⟩ := decodes pdfContent passed
  rw [decoded]
  refine keeps_upload trivial (fun failure => ?_) ?_
  · exact handles_of_passed passed (by simp) (caught_decodes failure)
  · exact handles_of_passed passed (by simp) (by simp)

/-- Every run of a program that handles failures under any answers handles them. -/
private theorem run_handles {details : S3Object → SanitisationDetails} {program : TaskAction}
    (keeps : anyCall.Keeps (HandlesFailure details) [] program) {history : List TaskEvent} {result : Py Unit}
    (ran : program.Finishes history result) : HandlesFailure details history result := by
  simpa using Contract.keeps_finishes ran keeps fun _ _ => trivial

/-- Sanitisation returns for every file in one of two shapes, whatever a stage of
it raises. The endpoint answers 400 exactly on failure, and none of the tasks
decodes a missing file or writes anything on failure. -/
theorem sanitisation_is_total (lawful : lib.Lawful render) (content : Bytes) (allow isAnAttachment : Bool) :
    ((Success lib content allow isAnAttachment (sanitiseFileContents lib content allow isAnAttachment) ∧
        ¬ Failure (sanitiseFileContents lib content allow isAnAttachment)) ∨
      (Failure (sanitiseFileContents lib content allow isAnAttachment) ∧
        ¬ Success lib content allow isAnAttachment (sanitiseFileContents lib content allow isAnAttachment))) ∧
    (∀ allowArgument attachmentArgument,
      sanitisePrecompiledLetter lib [] allowArgument attachmentArgument =
        .error (.invalidRequest "no-encoded-string" 400)) ∧
    (∀ allowArgument attachmentArgument response,
      sanitisePrecompiledLetter lib content allowArgument attachmentArgument = .ok response →
      (response.statusCode = 400 ↔ Failure response.json) ∧
      (response.statusCode = 200 ↔ ¬ Failure response.json)) ∧
    (∀ delivery history result, (sanitiseAndUploadLetter lib delivery).Finishes history result →
      HandlesFailure (delivery.details lib) history result) ∧
    (∀ notificationId fileLocation history result,
      (recreatePdfForPrecompiledLetter lib notificationId fileLocation allow).Finishes history result →
      HandlesFailure (fun pdfContent => sanitiseFileContents lib pdfContent.filedata allow false) history result) ∧
    (∀ quote serviceId attachmentId originalFilename history result,
      (recreatePdfForTemplateLetterAttachments lib quote serviceId attachmentId originalFilename).Finishes
        history result →
      HandlesFailure (fun pdfContent => sanitiseFileContents lib pdfContent.filedata false true)
        history result) := by
  refine ⟨?_, fun _ _ => rfl, ?_, ?_, ?_, ?_⟩
  · rcases sanitiseFileContents_shape lawful content allow isAnAttachment with success | failure
    · exact .inl ⟨success, fun failure => by simpa [success.not_failed] using failure.failed⟩
    · exact .inr ⟨failure, fun success => by simpa [success.not_failed] using failure.failed⟩
  · intro allowArgument attachmentArgument response answered
    unfold sanitisePrecompiledLetter at answered
    split at answered
    · cases answered
    cases answered
    dsimp only
    rw [← failed_iff_failure lawful]
    split
    · rename_i failed
      simp [failed]
    · rename_i passed
      simp [passed]
  · exact fun delivery history result ran => run_handles (sanitiseAndUploadLetter_handles lawful delivery) ran
  · intro notificationId fileLocation history result ran
    exact run_handles (resanitise_handles (decodes_passed lawful allow false) _ _ _ _) ran
  · intro quote serviceId attachmentId originalFilename history result ran
    exact run_handles (resanitise_handles (decodes_passed lawful false true) _ _ _ _) ran

end Failing

section InMemory
open InMemoryLibraries

theorem blankAttachment_passed : (sanitiseFileContents libraries (encodePages [blankPage]) false true).failed = false :=
  (congrArg SanitisationDetails.failed blankAttachment_sanitised).trans rfl

theorem blankAttachment_decoded :
    decodedFile (sanitiseFileContents libraries (encodePages [blankPage]) false true) =
      .ok (encodePages [blankPage]) :=
  decodedFile_of_file (congrArg SanitisationDetails.file blankAttachment_sanitised)

/-- A file that cannot be read fails, and a blank attachment does not. -/
theorem files_fail_or_succeed :
    Failure (sanitiseFileContents libraries [1] false false) ∧
    Success libraries (encodePages [blankPage]) false true
      (sanitiseFileContents libraries (encodePages [blankPage]) false true) := by
  have unreadable : (sanitiseFileContents libraries [1] false false).failed = true := rfl
  constructor
  · rcases (sanitisation_is_total lawful [1] false false).1 with ⟨success, _⟩ | ⟨failure, _⟩
    · cases success.not_failed.symm.trans unreadable
    · exact failure
  · rcases (sanitisation_is_total lawful (encodePages [blankPage]) false true).1 with ⟨success, _⟩ | ⟨failure, _⟩
    · exact success
    · rw [blankAttachment_sanitised] at failure
      cases failure.file

end InMemory

end TemplatePreview.LetterTasks
