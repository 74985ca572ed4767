import TemplatePreview.PrintTasks

/-! Letters are printed any number of times, in any processes, beside the tasks that make
their attachments again. What is announced about a letter is what is stored, in every run
of all tasks. -/
namespace TemplatePreview.PrintRuns
open Workers ObjectStore Pdf Outcomes LetterTasks CachedDownloads PrintTasks
open AttachmentReads (AttachmentJob AttachmentResult attachmentContract)
open AttachmentUploads (attachmentUses MadeAgain)
open AttachmentContents (IsId UploadedAs Attaches attaches_unique location_injective)
open LetterPreviews (PreviewCall AttachmentCall)
open PreviewEndpoints (EndpointError)
open TemplatedLetterTask (Printing PreparedLetter PrintLaws StoresLetter removeFolderFromFilename prepareLetter_eq_ok)

variable {K σ Date Process TaskId : Type} [Field K] [LinearOrder K] [DecidableEq Process] [DecidableEq TaskId]

inductive PrintKind where
  | letter
  | attachment

def PrintKind.Job : PrintKind → Type
  | .letter => Json
  | .attachment => AttachmentJob

def PrintKind.Result : PrintKind → Type
  | .letter => Except EndpointError Unit
  | .attachment => AttachmentResult

/-- What the tasks are run with, and the contents of the attachments. -/
structure Press (K σ Date : Type) extends WholeService.Setting K σ Date where
  printing : Printing Date
  contents : String → String → Bytes

/-- The printing with the contents of the attachments at hand. -/
def Press.stocked (press : Press K σ Date) : Printing Date :=
  givenAttachments press.printing fun serviceId attachmentId => .ok { bytes := press.contents serviceId attachmentId }

def Press.program (press : Press K σ Date) (kind : PrintKind) (job : kind.Job) :
    Program PrintCall Call.Answer kind.Result :=
  match kind, job with
  | .letter, letterDetails => createPdfForTemplatedLetter press.toApplication press.printing letterDetails
  | .attachment, job => serviceCalls.program (job.program press.lib press.quote)

abbrev PrintShared (Process : Type) : Type := Shared PrintBucket String S3Object String Process cacheSize

abbrev PrintLog (TaskId Process : Type) : Type := List (Entry TaskId Process PrintCall Call.Answer)

abbrev PrintState (TaskId Process : Type) : Type :=
  State (PrintShared Process) TaskId ((kind : PrintKind) × kind.Job) Process PrintCall Call.Answer
    ((kind : PrintKind) × kind.Result)

/-- Tasks of some letters, and all tasks for attachments. -/
def admitted (letters : Json → Prop) (kind : PrintKind) (job : kind.Job) (_ : Process) : Prop :=
  match kind, job with
  | .letter, letterDetails => letters letterDetails
  | .attachment, _ => True

def PrintStep (press : Press K σ Date) (letters : Json → Prop) (vanishes : PrintBucket → Prop) :
    PrintState TaskId Process → PrintState TaskId Process → Prop :=
  Step (service vanishes) (mixed press.program) fun job => admitted letters job.1 job.2

/-- The states of all runs from a store, with empty caches. -/
def PrintReachable (press : Press K σ Date) (letters : Json → Prop) (vanishes : PrintBucket → Prop)
    (initial : PrintBucket → String → Option S3Object) (state : PrintState TaskId Process) : Prop :=
  Reachable (service vanishes) (mixed press.program) (fun job => admitted letters job.1 job.2)
    ⟨initial, fun _ => .empty⟩ state

/-! ## Contracts -/

section Contracts
variable (press : Press K σ Date) (letters : Json → Prop) (letterDetails : Json)

/-- The letter as it is prepared from the contents of its attachment. -/
def printed : Py PreparedLetter := TemplatedLetterTask.prepareLetter press.lib press.stocked letterDetails

def uploadedAs (letter : PreparedLetter) (answer : Except Failure Unit) : PrintEvent :=
  Event.uploaded (.ofPdf letter.bucketName) letter.filename letter.filedata answer

/-- A letter is uploaded as it was prepared, and announced after that. -/
def Storing (history : List PrintEvent) (call : PrintCall) : Prop :=
  ∃ letter, printed press letterDetails = .ok letter ∧
    (call = .upload (.ofPdf letter.bucketName) letter.filename letter.filedata ∨
      call = .send (.inr letter.message) ∧ uploadedAs letter (.ok ()) ∈ history)

def letterContract (fails : Prop) : Contract PrintCall Call.Answer where
  asks history call := letters letterDetails ∧
    ((serviceCalls.contract (attachmentReading (Attaches press.printing.templates.str letterDetails) press.contents
      fails)).asks history call ∨ Storing press letterDetails history call)
  relies call answer :=
    (serviceCalls.contract (attachmentReading (Attaches press.printing.templates.str letterDetails) press.contents
      fails)).relies call answer ∧
    match call, answer with
    | .upload .., answer => fails ∨ answer = .ok ()
    | _, _ => True

/-- The letter was announced, or it cannot be prepared, unless a transfer failed. -/
def LetterEnded (fails : Prop) (history : List PrintEvent) (result : Except EndpointError Unit) : Prop :=
  (∃ letter, printed press letterDetails = .ok letter ∧ result = .ok () ∧ uploadedAs letter (.ok ()) ∈ history ∧
    Event.sent (.inr letter.message) ∈ history) ∨
  (∃ error, printed press letterDetails = .error error ∧ result = .error (.raised error)) ∨
  fails ∧ ((∃ error, result = .error error) ∨
    ∃ letter failure, printed press letterDetails = .ok letter ∧ uploadedAs letter (.error failure) ∈ history)

end Contracts

section Programs
variable {press : Press K σ Date} {letters : Json → Prop} {letterDetails : Json} {fails : Prop}

omit [Field K] [LinearOrder K] in
/-- A letter is stored and announced as it was prepared. -/
theorem keeps_storeLetter {letter : PreparedLetter} (member : letters letterDetails)
    (prepared : printed press letterDetails = .ok letter) {history : List PrintEvent} :
    (letterContract press letters letterDetails fails).Keeps (LetterEnded press letterDetails fails) history
      (pdfCalls.program (storeLetter letter) >>= fun outcome => return outcome.mapError .raised) := by
  refine ⟨⟨member, .inr ⟨letter, prepared, .inl rfl⟩⟩, fun answer relied => ?_⟩
  cases answer with
  | error failure =>
    have failing : fails := relied.2.resolve_right (by simp)
    exact .inr (.inr ⟨failing, .inr ⟨letter, failure, prepared, List.mem_append_right _ (List.mem_singleton_self _)⟩⟩)
  | ok done =>
    refine ⟨⟨member, .inr ⟨letter, prepared, .inr ⟨rfl, List.mem_append_right _ (List.mem_singleton_self _)⟩⟩⟩, ?_⟩
    rintro ⟨⟩ _
    refine .inl ⟨letter, prepared, rfl, List.mem_append_left _ (List.mem_append_right _ ?_),
      List.mem_append_right _ ?_⟩
    · exact List.mem_singleton_self _
    · exact List.mem_singleton_self _

omit [Field K] [LinearOrder K] in
/-- The task of a letter keeps to its contract. -/
theorem letter_keeps (member : letters letterDetails) :
    (letterContract press letters letterDetails fails).Keeps (LetterEnded press letterDetails fails) []
      (createPdfForTemplatedLetter press.toApplication press.printing letterDetails) := by
  have computes :
      (attachmentReading (Attaches press.printing.templates.str letterDetails) press.contents fails).Computes
      fails EndpointError.raised (printed press letterDetails) []
      (prepareLetter press.toApplication press.printing letterDetails) := computes_prepareLetter fun _ _ => id
  have prepares : (letterContract press letters letterDetails fails).Keeps _ ([] ++ []) (serviceCalls.program
      (prepareLetter press.toApplication press.printing letterDetails).run) :=
    (serviceCalls.keeps computes).called (fun _ _ asked => ⟨member, .inl asked⟩) fun _ _ _ _ => And.left
  refine Contract.keeps_bind _ (prepares.mono fun history result described => ?_)
  obtain ⟨_, _, _, _, rfl | ⟨failing, error, rfl⟩⟩ := described
  · cases prepared : printed press letterDetails with
    | ok letter => exact keeps_storeLetter member prepared
    | error error => exact .inr (.inl ⟨error, prepared, rfl⟩)
  · exact .inr (.inr ⟨failing, .inl ⟨error, rfl⟩⟩)

end Programs

/-! ## What the buckets hold -/

section Buckets
variable (press : Press K σ Date) (letters : Json → Prop) (vanishes : PrintBucket → Prop)
  (initial : PrintBucket → String → Option S3Object)

/-- The attachment was uploaded with its original, and has its contents. -/
structure Known (serviceId attachmentId : String) : Prop where
  service : IsId serviceId
  attachment : IsId attachmentId
  uploaded : UploadedAs press.lib (fun bucket => initial (.service bucket)) serviceId attachmentId
    (press.contents serviceId attachmentId)

/-- Attachments have their contents, their originals are kept, and a letter is stored as
it is prepared. -/
def Right (bucket : PrintBucket) (key : String) (value : S3Object) : Prop :=
  match bucket with
  | .service .letterAttachment => ∀ serviceId attachmentId, Known press initial serviceId attachmentId →
    key = getTransientLetterFileLocation serviceId attachmentId →
    value.filedata = press.contents serviceId attachmentId
  | .service .precompiledOriginalsBackup => initial (.service .precompiledOriginalsBackup) key = some value
  | bucket => ∀ letterDetails letter, letters letterDetails → printed press letterDetails = .ok letter →
    bucket = .ofPdf letter.bucketName → key = letter.filename → value = letter.filedata

def printPart (bucket : PrintBucket) (shared : PrintShared Process) (log : PrintLog TaskId Process) : Prop :=
  Conforms encoded (Right press letters initial bucket) bucket shared log ∧
    (¬ vanishes bucket → Present bucket shared log)

def printContract (kind : PrintKind) (job : kind.Job) : Contract PrintCall Call.Answer :=
  match kind, job with
  | .letter, letterDetails => letterContract press letters letterDetails True
  | .attachment, job => serviceCalls.contract ((attachmentContract job).both (attachmentUses press.lib press.quote))

def printPost (kind : PrintKind) (job : kind.Job) (history : List PrintEvent) (result : kind.Result) : Prop :=
  match kind, job, result with
  | .letter, letterDetails, result => LetterEnded press letterDetails True history result
  | .attachment, _, _ => True

/-- What a run starts from and what it relies on, the libraries being functions here
too: a letter and its attachment are rendered, converted and sanitised in one way.
A letter is known by its file name without the folder, its attachment was uploaded
with its original, and nothing is stored under its name before. -/
structure Premises (render : Page K σ → Image) (cmyk : Page K σ → Page K σ) : Prop where
  lawful : press.lib.Lawful render
  laws : PrintLaws press.lib press.printing cmyk
  named : ∀ one other filename again, letters one → letters other →
    one.get? "letter_filename" = some (.string filename) → other.get? "letter_filename" = some (.string again) →
    removeFolderFromFilename filename = removeFolderFromFilename again → one = other
  known : ∀ letterDetails, letters letterDetails → ∀ serviceId attachmentId,
    Attaches press.printing.templates.str letterDetails serviceId attachmentId →
    Known press initial serviceId attachmentId
  unprinted : ∀ letterDetails letter, letters letterDetails → printed press letterDetails = .ok letter →
    initial (.ofPdf letter.bucketName) letter.filename = none

end Buckets

section Verification
variable {press : Press K σ Date} {letters : Json → Prop} {vanishes : PrintBucket → Prop}
  {initial : PrintBucket → String → Option S3Object} {render : Page K σ → Image} {cmyk : Page K σ → Page K σ}

theorem right_ofPdf {bucket : TemplatedLetterTask.PdfBucket} {key : String} {value : S3Object} :
    Right press letters initial (.ofPdf bucket) key value ↔ ∀ letterDetails letter, letters letterDetails →
      printed press letterDetails = .ok letter → PrintBucket.ofPdf bucket = .ofPdf letter.bucketName →
      key = letter.filename → value = letter.filedata := by
  cases bucket <;> exact Iff.rfl

omit [Field K] [LinearOrder K] in
/-- The laws are not about attachments. -/
theorem laws_stocked (laws : PrintLaws press.lib press.printing cmyk) : PrintLaws press.lib press.stocked cmyk :=
  ⟨laws.converted, laws.readable⟩

/-- A letter that was prepared stores its PDF and matches its number of pages. -/
theorem storesLetter_of_printed (premises : Premises press letters initial render cmyk) {letterDetails : Json}
    {letter : PreparedLetter} (prepared : printed press letterDetails = .ok letter) :
    StoresLetter press.lib press.stocked letterDetails cmyk letter :=
  prepareLetter_eq_ok premises.lawful (laws_stocked premises.laws) prepared

/-- The name under which a letter is stored. -/
theorem filename_of_printed (premises : Premises press letters initial render cmyk) {letterDetails : Json}
    {letter : PreparedLetter} (prepared : printed press letterDetails = .ok letter) :
    ∃ filename, letterDetails.get? "letter_filename" = some (.string filename) ∧
      letter.filename = if letter.bucketName = .invalidPdf then removeFolderFromFilename filename else filename := by
  obtain ⟨pages, _, _, consistent⟩ := storesLetter_of_printed premises prepared
  by_cases long : press.stocked.letterMaxPageCount < pages.length
  · obtain ⟨invalid, _, _, filename, found, same⟩ := consistent.tooLong long
    exact ⟨filename, found, by rw [if_pos invalid, same]⟩
  · obtain ⟨test, live, _, _, found⟩ := consistent.fits (not_lt.mp long)
    refine ⟨letter.filename, found, ?_⟩
    split
    · rename_i invalid
      rw [invalid] at test live
      have other : letterDetails.get? "key_type" ≠ some (.string "test") := fun kind => nomatch test.mpr kind
      cases live.mpr other
    · rfl

/-- Only one letter is stored under a name. -/
theorem letter_of_name (premises : Premises press letters initial render cmyk) {one other : Json}
    {letter again : PreparedLetter} (member : letters one) (otherMember : letters other)
    (prepared : printed press one = .ok letter) (reprepared : printed press other = .ok again)
    (bucket : PrintBucket.ofPdf letter.bucketName = .ofPdf again.bucketName)
    (name : letter.filename = again.filename) :
    letter = again := by
  obtain ⟨filename, found, same⟩ := filename_of_printed premises prepared
  obtain ⟨otherFilename, otherFound, otherSame⟩ := filename_of_printed premises reprepared
  have folderless : removeFolderFromFilename filename = removeFolderFromFilename otherFilename := by
    rw [same, otherSame, PrintBucket.ofPdf_injective bucket] at name
    split at name
    · exact name
    · rw [name]
  obtain rfl := premises.named one other filename otherFilename member otherMember found otherFound folderless
  exact Except.ok.inj (prepared.symm.trans reprepared)

/-! ## The tasks keep the buckets right -/

omit [Field K] [LinearOrder K] in
/-- A call of the letter itself, or one that stores it. -/
theorem asks_cases {letterDetails : Json} {fails : Prop} {history : List PrintEvent} {call : PrintCall}
    (asked : (letterContract press letters letterDetails fails).asks history call) :
    (∃ serviceId attachmentId, Attaches press.printing.templates.str letterDetails serviceId attachmentId ∧
      (call = .lookup (.service .letterAttachment) (getTransientLetterFileLocation serviceId attachmentId) ∨
        call = .download (.service .letterAttachment) (getTransientLetterFileLocation serviceId attachmentId) ∨
        call = .remember (.service .letterAttachment) (getTransientLetterFileLocation serviceId attachmentId)
          (Base64.b64encode (press.contents serviceId attachmentId)))) ∨
    Storing press letterDetails history call := by
  apply asked.2.imp_left
  rintro ⟨_, own, _, rfl, serviceId, attachmentId, attached, rfl | rfl | rfl⟩
  · exact ⟨serviceId, attachmentId, attached, .inl rfl⟩
  · exact ⟨serviceId, attachmentId, attached, .inr (.inl rfl)⟩
  · exact ⟨serviceId, attachmentId, attached, .inr (.inr rfl)⟩

omit [DecidableEq TaskId] in
/-- Reading relies on the bucket of attachments. -/
theorem reading_relied {log : PrintLog TaskId Process} {shared after : PrintShared Process} {process : Process}
    {call : PrintCall} {answer : call.Answer} {attaches : String → String → Prop} {fails : Prop}
    (succeeds : fails ∨ ¬ Event.Failed (⟨call, answer⟩ : PrintEvent))
    (right : Conforms encoded (Right press letters initial (.service .letterAttachment)) (.service .letterAttachment)
      shared log)
    (known : ∀ serviceId attachmentId, attaches serviceId attachmentId → Known press initial serviceId attachmentId)
    (answered : Answers shared process call answer after) :
    (serviceCalls.contract (attachmentReading attaches press.contents fails)).relies call answer := by
  rintro ⟨own, ownAnswer⟩ same
  cases same
  cases own with
  | lookup bucket key =>
    rintro serviceId attachmentId attached rfl rfl text rfl
    cases answered with
    | recalled cached =>
      obtain ⟨object, held, same⟩ := right.caches _ _ _ cached
      rw [same, encoded, held serviceId attachmentId (known _ _ attached) rfl]
  | download bucket key =>
    rintro serviceId attachmentId attached rfl rfl
    refine ⟨?_, succeeds.imp_right fun unfailed => ?_⟩
    · rintro object rfl
      cases answered with
      | downloaded held => exact right.store _ _ held serviceId attachmentId (known _ _ attached) rfl
    · cases answered with
      | downloaded => exact ⟨_, rfl⟩
      | downloadFailed => exact absurd ⟨_, rfl⟩ unfailed
  | _ => trivial

private theorem print_relied (premises : Premises press letters initial render cmyk) (kind : PrintKind) :
    Relied (service vanishes) (printContract press letters kind)
      (Parts (printPart press letters vanishes initial : PrintBucket → PrintShared Process → PrintLog TaskId Process →
        Prop)) := by
  intro shared log task job process call answer after invariant single asked answered
  have right := (invariant (.service .letterAttachment)).1
  match kind, job with
  | .letter, letterDetails =>
    refine ⟨reading_relied (.inl trivial) right (premises.known letterDetails asked.1) answered, ?_⟩
    cases call with
    | upload => exact .inl trivial
    | _ => trivial
  | .attachment, job =>
    rintro ⟨own, ownAnswer⟩ same
    cases same
    refine ⟨?_, trivial⟩
    cases own with
    | lookup bucket key =>
      rintro text rfl
      obtain ⟨_, other, _, same, _, asks, _⟩ := asked
      cases answered with
      | recalled cached =>
        cases other with
        | lookup =>
          cases same
          cases asks
          obtain ⟨object, _, same⟩ := right.caches _ _ _ cached
          exact ⟨object.filedata, same⟩
        | _ => cases same
    | _ => trivial

/-- A letter is stored as it is prepared, and of its attachment the contents are
remembered. -/
private theorem letter_conforming (premises : Premises press letters initial render cmyk) {letterDetails : Json}
    {fails : Prop} {history : List PrintEvent} {call : PrintCall}
    (asked : (letterContract press letters letterDetails fails).asks history call) (bucket : PrintBucket) :
    call.Conforming encoded (Right press letters initial bucket) bucket := by
  rcases asks_cases asked with
    ⟨serviceId, attachmentId, attached, rfl | rfl | rfl⟩ | ⟨letter, prepared, rfl | ⟨rfl, _⟩⟩
  · trivial
  · trivial
  · rintro rfl
    refine ⟨{ filedata := press.contents serviceId attachmentId }, fun otherService other known same => ?_, rfl⟩
    obtain ⟨rfl, rfl⟩ := location_injective known.service known.attachment same.symm
    rfl
  · rintro rfl
    apply right_ofPdf.mpr
    intro other again member reprepared sameBucket sameName
    rw [letter_of_name premises asked.1 member prepared reprepared sameBucket sameName]
  · trivial

omit [DecidableEq Process] in
/-- An attachment is made again as it was, and remembered as it was downloaded. -/
private theorem attachment_conforming {shared : PrintShared Process} {log : PrintLog TaskId Process} {task : TaskId}
    {job : AttachmentJob} {call : PrintCall}
    (right : ∀ bucket, Conforms encoded (Right press letters initial bucket) bucket shared log)
    (asked : (serviceCalls.contract ((attachmentContract job).both (attachmentUses press.lib press.quote))).asks
      (history task log) call) (bucket : PrintBucket) :
    call.Conforming encoded (Right press letters initial bucket) bucket := by
  obtain ⟨ownHistory, own, whole, rfl, asks, changes, uses⟩ := asked
  have logged {event : TaskEvent} (member : event ∈ ownHistory) :
      ∃ entry ∈ log, entry.event = serviceCalls.event event := by
    have inside : serviceCalls.event event ∈ history task log := whole ▸ List.mem_map_of_mem member
    obtain ⟨process, inLog⟩ := mem_history.mp inside
    exact ⟨_, inLog, rfl⟩
  cases own with
  | upload other key value =>
    obtain rfl := changes
    rintro rfl serviceId attachmentId known same
    obtain ⟨otherService, otherAttachment, _, pdfContent, rfl, found, remade⟩ := uses
    obtain ⟨rfl, rfl⟩ := location_injective known.service known.attachment same.symm
    obtain ⟨entry, inLog, downloaded⟩ := logged found
    have backup := (right (.service .precompiledOriginalsBackup)).downloads entry inLog _ _ downloaded
    exact Except.ok.inj (remade.decoded.symm.trans (known.uploaded.decoded backup))
  | remember other key text =>
    obtain rfl := changes
    rintro rfl
    obtain ⟨object, found, rfl⟩ := asks
    obtain ⟨entry, inLog, downloaded⟩ := logged found
    exact ⟨object, (right _).downloads entry inLog _ _ downloaded, rfl⟩
  | copy => exact asks.elim
  | _ => trivial

private theorem print_kept (premises : Premises press letters initial render cmyk) (kind : PrintKind)
    (bucket : PrintBucket) :
    Preserves (service vanishes) (printContract press letters kind)
      (Parts (printPart press letters vanishes initial : PrintBucket → PrintShared Process → PrintLog TaskId Process →
        Prop)) (printPart press letters vanishes initial bucket) := by
  intro shared log task job process call answer after invariant single asked answered
  refine ⟨(invariant bucket).1.answer ?_ answered, fun stays => ((invariant bucket).2 stays).answer answered⟩
  match kind, job with
  | .letter, letterDetails => exact letter_conforming premises asked bucket
  | .attachment, job => exact attachment_conforming (fun bucket => (invariant bucket).1) asked bucket

omit [DecidableEq Process] in
private theorem print_keeps (kind : PrintKind) (job : kind.Job) (process : Process)
    (admits : admitted letters kind job process) :
    (printContract press letters kind job).Keeps (printPost press kind job) [] (press.program kind job) :=
  match kind, job with
  | .letter, _ => letter_keeps admits
  | .attachment, job => (serviceCalls.keeps (Contract.keeps_both (AttachmentReads.program_keeps job)
    (AttachmentUploads.uses_program job))).mono fun _ _ _ => trivial

/-- The buckets are right at first. -/
private theorem right_initial (premises : Premises press letters initial render cmyk) {bucket : PrintBucket}
    {key : String} {value : S3Object} (held : initial bucket key = some value) :
    Right press letters initial bucket key value := by
  unfold Right
  split
  · rintro serviceId attachmentId known rfl
    exact known.uploaded.stored value held
  · exact held
  · rintro letterDetails letter member prepared rfl rfl
    rw [premises.unprinted letterDetails letter member prepared] at held
    cases held

/-- In every state of every run the buckets are right, and every task keeps to its
contract. -/
theorem print_reachable (premises : Premises press letters initial render cmyk) {state : PrintState TaskId Process}
    (reachable : PrintReachable press letters vanishes initial state) :
    Parts (printPart press letters vanishes initial) state.shared state.log ∧
      Tasks (fun job => printContract press letters job.1 job.2) (mixedPost (printPost press)) state ∧
      Placed state := by
  have verified : Verified (service vanishes) (mixed press.program) (fun job => admitted letters job.1 job.2)
      (fun job => printContract press letters job.1 job.2) (mixedPost (printPost press))
      (Parts (printPart press letters vanishes initial : PrintBucket → PrintShared Process → PrintLog TaskId Process →
        Prop)) := by
    refine verified_mixture print_keeps (print_relied premises) (print_kept premises)
      fun bucket shared log after right moved => ?_
    exact ⟨right.1.shrinks (moved.shrinks bucket), fun stays => (right.2 stays).drift stays moved⟩
  refine verified_reachable verified (fun bucket => ⟨.nil fun key value held => ?_, fun _ _ member => ?_⟩) reachable
  · exact right_initial premises held
  · cases member

end Verification

section Results
variable {press : Press K σ Date} {letters : Json → Prop} {vanishes : PrintBucket → Prop}
  {initial : PrintBucket → String → Option S3Object} {render : Page K σ → Image} {cmyk : Page K σ → Page K σ}
  {state : PrintState TaskId Process} {task : TaskId} {letterDetails : Json} {process : Process}
  {remaining : Program PrintCall Call.Answer ((kind : PrintKind) × kind.Result)}

/-- What a task has announced is the letter as it is prepared, and its upload came
before. -/
private theorem printed_of_sent (premises : Premises press letters initial render cmyk)
    (reachable : PrintReachable press letters vanishes initial state)
    (started : state.tasks task = some ⟨⟨.letter, letterDetails⟩, process, remaining⟩) {message : PrintMessage}
    (sent : Event.sent message ∈ history task state.log) :
    letters letterDetails ∧ ∃ letter, printed press letterDetails = .ok letter ∧ message = .inr letter.message ∧
      uploadedAs letter (.ok ()) ∈ history task state.log := by
  obtain ⟨_, tasks, _⟩ := print_reachable premises reachable
  obtain ⟨earlier, later, whole, asked, _⟩ := (tasks task _ started).1.of_mem sent
  rcases asks_cases asked with ⟨_, _, _, reading⟩ | ⟨letter, prepared, storing | ⟨announcing, uploaded⟩⟩
  · rcases reading with reading | reading | reading <;> cases reading
  · cases storing
  · cases announcing
    exact ⟨asked.1, letter, prepared, rfl, whole ▸ List.mem_append_left _ uploaded⟩

/-- The bucket holds a letter that was uploaded, unless it vanishes. -/
private theorem stored_of_uploaded (premises : Premises press letters initial render cmyk)
    (reachable : PrintReachable press letters vanishes initial state) (member : letters letterDetails)
    {letter : PreparedLetter} (prepared : printed press letterDetails = .ok letter)
    (uploaded : uploadedAs letter (.ok ()) ∈ history task state.log) :
    (∀ value, state.shared.store (.ofPdf letter.bucketName) letter.filename = some value → value = letter.filedata) ∧
    (¬ vanishes (.ofPdf letter.bucketName) →
      state.shared.store (.ofPdf letter.bucketName) letter.filename = some letter.filedata) := by
  obtain ⟨invariant, _, _⟩ := print_reachable premises reachable
  have right {value : S3Object}
      (held : state.shared.store (.ofPdf letter.bucketName) letter.filename = some value) : value = letter.filedata :=
    right_ofPdf.mp ((invariant _).1.store _ _ held) letterDetails letter member prepared rfl rfl
  refine ⟨fun value => right, fun stays => ?_⟩
  obtain ⟨_, inLog⟩ := mem_history.mp uploaded
  obtain ⟨value, held⟩ := Option.isSome_iff_exists.mp ((invariant _).2 stays _ inLog _ _ rfl)
  rw [held, right held]

/-- What is billed is what is stored, however often a letter is printed. All messages
about it are the same, and its bucket holds the PDF of the letter, with the pages of the
message, whatever attachments are made again in between. -/
theorem billed_as_stored (premises : Premises press letters initial render cmyk)
    (reachable : PrintReachable press letters vanishes initial state)
    (started : state.tasks task = some ⟨⟨.letter, letterDetails⟩, process, remaining⟩) {message : PrintMessage}
    (sent : Event.sent message ∈ history task state.log) :
    (∃ letter, message = .inr letter.message ∧ StoresLetter press.lib press.stocked letterDetails cmyk letter ∧
      (∀ value, state.shared.store (.ofPdf letter.bucketName) letter.filename = some value →
        value = letter.filedata) ∧
      (¬ vanishes (.ofPdf letter.bucketName) →
        state.shared.store (.ofPdf letter.bucketName) letter.filename = some letter.filedata)) ∧
    ∀ other otherProcess otherRemaining again,
      state.tasks other = some ⟨⟨.letter, letterDetails⟩, otherProcess, otherRemaining⟩ →
      Event.sent again ∈ history other state.log → again = message := by
  obtain ⟨member, letter, prepared, rfl, uploaded⟩ := printed_of_sent premises reachable started sent
  constructor
  · exact ⟨letter, rfl, storesLetter_of_printed premises prepared,
      stored_of_uploaded premises reachable member prepared uploaded⟩
  · intro other otherProcess otherRemaining again restarted resent
    obtain ⟨_, _, reprepared, rfl, _⟩ := printed_of_sent premises reachable restarted resent
    cases prepared.symm.trans reprepared
    rfl

/-- The bucket of attachments is right and holds the attachment of a letter. -/
structure AtHand (press : Press K σ Date) (letters : Json → Prop) (initial : PrintBucket → String → Option S3Object)
    (TaskId : Type) (letterDetails : Json) (shared : PrintShared Process) : Prop where
  right : ∃ log : PrintLog TaskId Process,
    Conforms encoded (Right press letters initial (.service .letterAttachment)) (.service .letterAttachment)
      shared log
  held : ∀ serviceId attachmentId, Attaches press.printing.templates.str letterDetails serviceId attachmentId →
    (shared.store (.service .letterAttachment) (getTransientLetterFileLocation serviceId attachmentId)).isSome

omit [DecidableEq TaskId] in
/-- No call of the task of a letter needs to fail when its attachment is at hand. -/
private theorem answered_well (process : Process) {shared : PrintShared Process} {fails : Prop}
    {history : List PrintEvent} {call : PrintCall}
    (atHand : AtHand press letters initial TaskId letterDetails shared)
    (asked : (letterContract press letters letterDetails fails).asks history call) :
    ∃ answer after, Answers shared process call answer after ∧ ¬ Event.Failed (⟨call, answer⟩ : PrintEvent) := by
  rcases asks_cases asked with ⟨serviceId, attachmentId, attached, rfl | rfl | rfl⟩ | ⟨letter, _, rfl | ⟨rfl, _⟩⟩
  · cases found : (shared.caches process).lookup
        (.service .letterAttachment, getTransientLetterFileLocation serviceId attachmentId) with
    | none => exact ⟨_, _, .missed found, id⟩
    | some text => exact ⟨_, _, .recalled found, id⟩
  · obtain ⟨object, held⟩ := Option.isSome_iff_exists.mp (atHand.held serviceId attachmentId attached)
    exact ⟨_, _, .downloaded held, fun ⟨_, failed⟩ => nomatch failed⟩
  · exact ⟨_, _, .remembered, id⟩
  · exact ⟨_, _, .uploaded, fun ⟨_, failed⟩ => nomatch failed⟩
  · exact ⟨_, _, .sent, id⟩

omit [DecidableEq TaskId] in
/-- Calls of the task of a letter can be answered as it relies on. -/
private theorem answers_atHand (premises : Premises press letters initial render cmyk) (process : Process)
    (shared : PrintShared Process) (history : List PrintEvent) (call : PrintCall)
    (atHand : AtHand press letters initial TaskId letterDetails shared)
    (asked : (letterContract press letters letterDetails False).asks history call) :
    ∃ answer after, Answers shared process call answer after ∧
      (letterContract press letters letterDetails False).relies call answer ∧
      AtHand press letters initial TaskId letterDetails after := by
  obtain ⟨answer, after, answered, unfailed⟩ := answered_well process atHand asked
  obtain ⟨log, right⟩ := atHand.right
  refine ⟨answer, after, answered, ⟨reading_relied (.inr unfailed) right (premises.known _ asked.1) answered, ?_⟩, ?_⟩
  · cases answered with
    | uploaded => exact .inr rfl
    | uploadFailed => exact absurd ⟨_, rfl⟩ unfailed
    | _ => trivial
  · refine ⟨⟨log, right.kept (letter_conforming premises asked _) answered⟩,
      fun serviceId attachmentId attached => ?_⟩
    exact answered.holds (atHand.held serviceId attachmentId attached)

/-- A task that is not disturbed prints its letter when the attachment is at hand, and
leaves it there. -/
theorem printed_run (premises : Premises press letters initial render cmyk) (member : letters letterDetails)
    {letter : PreparedLetter} (prepared : printed press letterDetails = .ok letter)
    (atHand : AtHand press letters initial TaskId letterDetails state.shared) (task : TaskId) (process : Process)
    (free : state.tasks task = none) :
    ∃ (after : PrintState TaskId Process) (later : List PrintEvent),
      Relation.ReflTransGen (PrintStep press letters vanishes) state after ∧
      AtHand press letters initial TaskId letterDetails after.shared ∧
      after.tasks = Function.update state.tasks task
        (some ⟨⟨.letter, letterDetails⟩, process, .done ⟨.letter, (.ok () : Except EndpointError Unit)⟩⟩) ∧
      after.log = state.log ++ later.map (⟨task, process, ·⟩) ∧
      uploadedAs letter (.ok ()) ∈ later ∧ Event.sent (.inr letter.message) ∈ later := by
  have runs : ∃ later shared result, Uninterrupted (service vanishes) process state.shared
      (press.program .letter letterDetails) later shared result ∧ LetterEnded press letterDetails False later result ∧
      AtHand press letters initial TaskId letterDetails shared :=
    (letter_keeps member).uninterrupted (answers_atHand premises process) atHand
  obtain ⟨later, shared, result, ran, ended, after⟩ := runs
  rcases ended with ⟨again, reprepared, rfl, uploaded, sent⟩ | ⟨error, failed, _⟩ | ⟨no, _⟩
  · cases prepared.symm.trans reprepared
    have admits : admitted letters .letter letterDetails process := member
    exact ⟨_, later, ran.mixed.started free admits, after, rfl, rfl, uploaded, sent⟩
  · cases prepared.symm.trans failed
  · exact no.elim

omit [DecidableEq TaskId] in
/-- The task that makes an attachment again, when its original passes. -/
private theorem recreates (vanishes : PrintBucket → Prop) (process : Process) {shared : PrintShared Process}
    (serviceId attachmentId originalFilename : String) {pdfContent : S3Object} {fileData : Bytes}
    (held : shared.store (.service .precompiledOriginalsBackup) (attachmentId ++ ".pdf") = some pdfContent)
    (passed : (Sanitisation.sanitiseFileContents press.lib pdfContent.filedata false true).failed = false)
    (decoded :
      decodedFile (Sanitisation.sanitiseFileContents press.lib pdfContent.filedata false true) = .ok fileData) :
    ∃ later after, Uninterrupted (service vanishes) process shared
        (press.program .attachment (.recreatePdf serviceId attachmentId originalFilename)) later after
        (.recreated (.ok ())) ∧
      (after.store (.service .letterAttachment) (getTransientLetterFileLocation serviceId attachmentId)).isSome := by
  let value : S3Object := { filedata := fileData, metadata :=
    [("page_count", (Sanitisation.sanitiseFileContents press.lib pdfContent.filedata false true).pageCount.elim
      "None" toString), ("filename", press.quote originalFilename)] }
  let location := getTransientLetterFileLocation serviceId attachmentId
  refine ⟨[Event.downloaded (.service .precompiledOriginalsBackup) (attachmentId ++ ".pdf") (.ok pdfContent),
      Event.uploaded (.service .letterAttachment) location value (.ok ())],
    { shared with store := write shared.store (.service .letterAttachment) location (some value) },
    .ask (.downloaded held) ?_, by simp [location]⟩
  have answered : (serviceCalls.answer (.download .precompiledOriginalsBackup (attachmentId ++ ".pdf"))).symm
      (Except.ok pdfContent) = Except.ok pdfContent := rfl
  simp only [answered, Program.bind, passed, decoded, Bool.false_eq_true, ↓reduceIte]
  exact .ask .uploaded .done

/-- A lost attachment comes back from its original. -/
private theorem remade_run (premises : Premises press letters initial render cmyk)
    (reachable : PrintReachable press letters vanishes initial state) {serviceId attachmentId : String}
    (known : Known press initial serviceId attachmentId)
    (kept : (state.shared.store (.service .precompiledOriginalsBackup) (attachmentId ++ ".pdf")).isSome)
    (task : TaskId) (process : Process) (free : state.tasks task = none) :
    ∃ after : PrintState TaskId Process, Relation.ReflTransGen (PrintStep press letters vanishes) state after ∧
      (∀ other, other ≠ task → after.tasks other = state.tasks other) ∧
      (after.shared.store (.service .letterAttachment)
        (getTransientLetterFileLocation serviceId attachmentId)).isSome := by
  obtain ⟨invariant, _, _⟩ := print_reachable premises reachable
  obtain ⟨pdfContent, held⟩ := Option.isSome_iff_exists.mp kept
  have decoded := known.uploaded.decoded ((invariant (.service .precompiledOriginalsBackup)).1.store _ _ held)
  rw [AttachmentUploads.attachmentDetails] at decoded
  have passed := passed_of_decoded premises.lawful decoded
  obtain ⟨later, shared, ran, there⟩ := recreates vanishes process serviceId attachmentId "" held passed decoded
  have admits : admitted letters .attachment (.recreatePdf serviceId attachmentId "") process := trivial
  exact ⟨_, ran.mixed.started free admits, fun other different => Function.update_of_ne different .., there⟩

/-- An attachment is at hand, or a task can bring it back. -/
private theorem atHand_run (premises : Premises press letters initial render cmyk)
    (reachable : PrintReachable press letters vanishes initial state) (member : letters letterDetails)
    (kept : ∀ serviceId attachmentId, Attaches press.printing.templates.str letterDetails serviceId attachmentId →
      (state.shared.store (.service .letterAttachment)
        (getTransientLetterFileLocation serviceId attachmentId)).isSome ∨
      (state.shared.store (.service .precompiledOriginalsBackup) (attachmentId ++ ".pdf")).isSome)
    (task : TaskId) (process : Process) (free : state.tasks task = none) :
    ∃ after : PrintState TaskId Process, Relation.ReflTransGen (PrintStep press letters vanishes) state after ∧
      (∀ other, other ≠ task → after.tasks other = state.tasks other) ∧
      AtHand press letters initial TaskId letterDetails after.shared := by
  by_cases there : ∀ serviceId attachmentId,
      Attaches press.printing.templates.str letterDetails serviceId attachmentId →
      (state.shared.store (.service .letterAttachment) (getTransientLetterFileLocation serviceId attachmentId)).isSome
  · exact ⟨state, .refl, fun _ _ => rfl, ⟨_, ((print_reachable premises reachable).1 _).1⟩, there⟩
  · push Not at there
    obtain ⟨serviceId, attachmentId, attached, lost⟩ := there
    have original := (kept serviceId attachmentId attached).resolve_left lost
    have known := premises.known _ member _ _ attached
    obtain ⟨after, reached, others, back⟩ := remade_run premises reachable known original task process free
    refine ⟨after, reached, others, ⟨_, ((print_reachable premises (reachable.trans reached)).1 _).1⟩, ?_⟩
    intro otherService other again
    obtain ⟨rfl, rfl⟩ := attaches_unique attached again
    exact back

/-- A letter gets printed. Whatever ran before and whatever was lost, when its attachment
or the original of it is kept, undisturbed tasks store its PDF and announce it. -/
theorem letters_get_printed (premises : Premises press letters initial render cmyk)
    (reachable : PrintReachable press letters vanishes initial state) (member : letters letterDetails)
    {letter : PreparedLetter} (prepared : printed press letterDetails = .ok letter)
    (kept : ∀ serviceId attachmentId, Attaches press.printing.templates.str letterDetails serviceId attachmentId →
      (state.shared.store (.service .letterAttachment)
        (getTransientLetterFileLocation serviceId attachmentId)).isSome ∨
      (state.shared.store (.service .precompiledOriginalsBackup) (attachmentId ++ ".pdf")).isSome)
    {spare : TaskId} (different : task ≠ spare) (free : state.tasks task = none)
    (spareFree : state.tasks spare = none) (process : Process) :
    ∃ after : PrintState TaskId Process, Relation.ReflTransGen (PrintStep press letters vanishes) state after ∧
      after.tasks task =
        some ⟨⟨.letter, letterDetails⟩, process, .done ⟨.letter, (.ok () : Except EndpointError Unit)⟩⟩ ∧
      Event.sent (.inr letter.message) ∈ history task after.log ∧
      (¬ vanishes (.ofPdf letter.bucketName) →
        after.shared.store (.ofPdf letter.bucketName) letter.filename = some letter.filedata) := by
  obtain ⟨middle, reached, others, atHand⟩ := atHand_run premises reachable member kept spare process spareFree
  have stillFree : middle.tasks task = none := (others task different).trans free
  have reachedMiddle : PrintReachable press letters vanishes initial middle := reachable.trans reached
  obtain ⟨after, later, prints, _, tasks, log, uploaded, sent⟩ :=
    printed_run premises member prepared atHand task process stillFree
  have inHistory {event : PrintEvent} (inside : event ∈ later) : event ∈ history task after.log := by
    rwa [log, history_run, fresh_history (print_reachable premises reachedMiddle).2.2 stillFree, if_pos rfl]
  refine ⟨after, reached.trans prints, ?_, inHistory sent, ?_⟩
  · rw [tasks, Function.update_self]
  · exact (stored_of_uploaded premises (reachedMiddle.trans prints) member prepared (inHistory uploaded)).2

end Results

section InMemory
open InMemoryLibraries LetterColours ServiceGuarantees CachedAttachments TemplatedLetterTask

/-- A press that prints every part on one page. -/
def blankPress : Press ℚ (List (Word ℚ)) String :=
  { greetingSetting coloured with
    printing := { blankPrinting with templates := { blankPrinting.templates with str := fun
      | .string text => text
      | _ => "" } }
    contents := fun _ _ => encodePages [blankPage] }

/-- A letter with an attachment. -/
def attachedLetter : Json :=
  .object [("notification_id", .string "1234"), ("letter_filename", .string "2018-01-13/NOTIFY.PDF"),
    ("key_type", .string "normal"), ("logo_filename", .null), ("letter_contact_block", .null), ("values", .null),
    ("template", .object [("subject", .string "Subject"), ("content", .string "Content"),
      ("service", .string "service"), ("letter_attachment", .object [("id", .string "attachment"),
        ("page_count", .number 1)])])]

def storedAttachment : PrintBucket → String → Option S3Object
  | .service bucket => blankAttachment bucket
  | _ => fun _ => none

theorem blankPress_laws : PrintLaws coloured blankPress.printing pageInCmyk where
  converted := blankPrinting_laws.converted
  readable := by
    rintro arguments bytes ⟨⟩
    exact ⟨_, coloured_encodePages _⟩

theorem attachedLetter_printed : ∃ letter, printed blankPress attachedLetter = .ok letter := by
  have laws : PrintLaws blankPress.lib blankPress.stocked pageInCmyk := laws_stocked blankPress_laws
  have whole : LetterPages coloured blankPress.stocked attachedLetter pageInCmyk
      (([] ++ [blankPage]).map pageInCmyk ++ [blankPage]) := by
    refine ⟨_, [], [blankPage], [blankPage], rfl, ?_, ⟨_, _, _, rfl, rfl, rfl, coloured_encodePages _⟩, rfl⟩
    unfold TemplatedPages
    split
    · rename_i bilingual
      cases bilingual
    · exact ⟨rfl, _, rfl, coloured_encodePages _⟩
  exact prepareLetter_returns coloured_lawful laws
    (preparePdf_returns coloured_lawful coloured_reliable laws coloured_converts rfl whole) rfl rfl rfl

theorem attachedLetter_attaches {serviceId attachmentId : String}
    (attached : Attaches blankPress.printing.templates.str attachedLetter serviceId attachmentId) :
    serviceId = "service" ∧ attachmentId = "attachment" := by
  obtain ⟨_, _, _, _, ⟨⟩, ⟨⟩, _, ⟨⟩, ⟨⟩, rfl, rfl⟩ := attached
  exact ⟨rfl, rfl⟩

theorem blankPress_premises : Premises blankPress (· = attachedLetter) storedAttachment shown pageInCmyk where
  lawful := coloured_lawful
  laws := blankPress_laws
  named := by
    rintro _ _ _ _ rfl rfl _ _ _
    rfl
  known := by
    rintro _ rfl serviceId attachmentId attached
    obtain ⟨rfl, rfl⟩ := attachedLetter_attaches attached
    refine ⟨by simp [IsId], by simp [IsId], ?_, fun _ backup => ?_⟩
    · intro object held
      rw [storedAttachment, blankAttachment, if_pos ⟨rfl, rfl⟩] at held
      cases held
      rfl
    · simp [storedAttachment, blankAttachment] at backup
  unprinted := by
    rintro _ letter rfl _
    cases letter.bucketName <;> simp [storedAttachment, blankAttachment, PrintBucket.ofPdf]

/-- The attachment is there at first. -/
theorem storedAttachment_atHand : AtHand blankPress (· = attachedLetter) storedAttachment ℕ attachedLetter
    (⟨storedAttachment, fun _ => .empty⟩ : PrintShared ℕ) where
  right := ⟨[], (print_reachable blankPress_premises (.refl : PrintReachable blankPress (· = attachedLetter)
    (fun _ => False) storedAttachment (.initial _ : PrintState ℕ ℕ))).1 _ |>.1⟩
  held serviceId attachmentId attached := by
    obtain ⟨rfl, rfl⟩ := attachedLetter_attaches attached
    simp [storedAttachment, blankAttachment]

/-- The letter is printed in one process and again in another. -/
theorem attachedLetter_run : ∃ (state : PrintState ℕ ℕ) (letter : PreparedLetter),
    PrintReachable blankPress (· = attachedLetter) (fun _ => False) storedAttachment state ∧
    printed blankPress attachedLetter = .ok letter ∧
    state.tasks 0 = some ⟨⟨.letter, attachedLetter⟩, 0, .done ⟨.letter, (.ok () : Except EndpointError Unit)⟩⟩ ∧
    state.tasks 1 = some ⟨⟨.letter, attachedLetter⟩, 1, .done ⟨.letter, (.ok () : Except EndpointError Unit)⟩⟩ ∧
    Event.sent (.inr letter.message) ∈ history 0 state.log ∧
      Event.sent (.inr letter.message) ∈ history 1 state.log := by
  obtain ⟨letter, prepared⟩ := attachedLetter_printed
  have start : PrintReachable blankPress (· = attachedLetter) (fun _ => False) storedAttachment
      (.initial ⟨storedAttachment, fun _ => .empty⟩ : PrintState ℕ ℕ) := .refl
  have free : (State.initial ⟨storedAttachment, fun _ => .empty⟩ : PrintState ℕ ℕ).tasks 0 = none := rfl
  obtain ⟨middle, first, prints, atHand, tasks, log, _, sent⟩ :=
    printed_run blankPress_premises rfl prepared storedAttachment_atHand 0 0 free
  obtain ⟨after, second, reprints, _, tasksAfter, logAfter, _, resent⟩ :=
    printed_run blankPress_premises rfl prepared atHand 1 1 (by rw [tasks]; rfl)
  refine ⟨after, letter, (start.trans prints).trans reprints, prepared, ?_, ?_, ?_, ?_⟩
  · rw [tasksAfter, tasks]
    rfl
  · rw [tasksAfter]
    rfl
  · rw [logAfter, log, history_run, history_run]
    simp [sent]
  · rw [logAfter, history_run]
    simp [resent]

theorem reprinted_letter_is_billed_alike :
    ∃ (state : PrintState ℕ ℕ) (letter : PreparedLetter) (again : PrintMessage),
      Event.sent (.inr letter.message) ∈ history 0 state.log ∧ Event.sent again ∈ history 1 state.log ∧
      again = .inr letter.message ∧ StoresLetter coloured blankPress.stocked attachedLetter pageInCmyk letter ∧
      state.shared.store (.ofPdf letter.bucketName) letter.filename = some letter.filedata := by
  obtain ⟨state, _, reachable, _, printed, reprinted, sent, resent⟩ := attachedLetter_run
  obtain ⟨⟨letter, same, stores, _, held⟩, agree⟩ := billed_as_stored blankPress_premises reachable printed sent
  rw [same] at sent agree
  exact ⟨state, letter, _, sent, resent, agree 1 1 _ _ reprinted resent, stores, held id⟩

theorem attached_letter_gets_printed : ∃ (after : PrintState ℕ ℕ) (letter : PreparedLetter),
    after.tasks 0 = some ⟨⟨.letter, attachedLetter⟩, 3, .done ⟨.letter, (.ok () : Except EndpointError Unit)⟩⟩ ∧
    Event.sent (.inr letter.message) ∈ history 0 after.log ∧
    after.shared.store (.ofPdf letter.bucketName) letter.filename = some letter.filedata := by
  obtain ⟨letter, prepared⟩ := attachedLetter_printed
  have start : PrintReachable blankPress (· = attachedLetter) (fun _ => False) storedAttachment
      (.initial ⟨storedAttachment, fun _ => .empty⟩ : PrintState ℕ ℕ) := .refl
  obtain ⟨after, _, finished, sent, stored⟩ := letters_get_printed blankPress_premises start rfl prepared
    (fun serviceId attachmentId attached => .inl (storedAttachment_atHand.held serviceId attachmentId attached))
    Nat.zero_ne_one rfl rfl 3
  exact ⟨after, letter, finished, sent, stored id⟩

end InMemory

end TemplatePreview.PrintRuns
