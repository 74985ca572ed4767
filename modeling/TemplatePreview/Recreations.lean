import TemplatePreview.DeliveryRuns
import TemplatePreview.Footprints

/-! Letters that are made again from their backups. The backup bucket is written by
deliveries, so a file that is made again is the file that its delivery stored, for
as long as there is a backup. -/
namespace TemplatePreview.Recreations
open Workers ObjectStore Pdf Sanitisation LetterTasks DeliveryRuns

variable {K σ Process TaskId : Type} [Field K] [LinearOrder K] {maxsize : Nat}

abbrev TaskCall : Type := Call Bucket String S3Object String SanitiseData

abbrev TaskLog (TaskId Process : Type) : Type :=
  ObjectStore.Log TaskId Process Bucket String S3Object String SanitiseData

/-- The arguments of `recreate_pdf_for_precompiled_letter`. -/
structure Recreation where
  notificationId : String
  fileLocation : String
  allowInternationalLetters : Bool
  deriving DecidableEq, Repr

def Recreation.backupFilename (recreation : Recreation) : String := recreation.notificationId ++ ".pdf"

/-- A recreation is of the letter of a delivery, with the same setting. -/
def Recreation.Of (recreation : Recreation) (delivery : Delivery) : Prop :=
  recreation.notificationId = delivery.notificationId ∧
    recreation.allowInternationalLetters = delivery.allowInternationalLetters

def Recreation.details (lib : Libraries K σ) (recreation : Recreation) (pdfContent : S3Object) :
    SanitisationDetails :=
  sanitiseFileContents lib pdfContent.filedata recreation.allowInternationalLetters false

def Recreation.program (lib : Libraries K σ) (recreation : Recreation) : TaskAction :=
  recreatePdfForPrecompiledLetter lib recreation.notificationId recreation.fileLocation
    recreation.allowInternationalLetters

section Contract
variable (lib : Libraries K σ)

/-- The object that a recreation makes from a backup. -/
def Resanitised (recreation : Recreation) (pdfContent value : S3Object) : Prop :=
  ¬ (recreation.details lib pdfContent).failed ∧
    ∃ text, (recreation.details lib pdfContent).file = some text ∧
      Base64.b64decode text = .ok value.filedata ∧ value.metadata = []

/-- A recreation reads its backup and writes what it makes from it. -/
def recreationContract (recreation : Recreation) : Contract TaskCall Call.Answer where
  asks history call :=
    match call with
    | .download bucket key => bucket = .precompiledOriginalsBackup ∧ key = recreation.backupFilename
    | .upload bucket key value => bucket = .lettersPdf ∧ key = recreation.fileLocation ∧
      ∃ pdfContent, Event.downloaded .precompiledOriginalsBackup recreation.backupFilename (.ok pdfContent) ∈
        history ∧ Resanitised lib recreation pdfContent value
    | _ => False
  relies _ _ := True

/-- A recreation without a failed transfer has stored a file, unless its backup
fails sanitisation. -/
def Remade (recreation : Recreation) (history : List TaskEvent) (_ : Py Unit) : Prop :=
  (∃ event ∈ history, Event.Failed event) ∨
    ∃ pdfContent, Event.downloaded .precompiledOriginalsBackup recreation.backupFilename (.ok pdfContent) ∈
      history ∧
      ((recreation.details lib pdfContent).failed ∨
        ∃ value, Event.uploaded .lettersPdf recreation.fileLocation value (.ok ()) ∈ history)

/-- A delivery backs up only what it has stored sanitised. -/
def storesFirst (delivery : Delivery) : Contract TaskCall Call.Answer where
  asks history call :=
    match call with
    | .copy .. => ∃ value, Event.uploaded .sanitisedLetter delivery.filename value (.ok ()) ∈ history
    | _ => True
  relies _ _ := True

end Contract

section Programs
variable {lib : Libraries K σ} {render : Page K σ → Image}

theorem recreation_keeps (lawful : lib.Lawful render) (recreation : Recreation) :
    (recreationContract lib recreation).Keeps (Remade lib recreation) [] (recreation.program lib) := by
  refine keeps_download ⟨rfl, rfl⟩ (fun failure => .inl ⟨_, List.mem_singleton_self _, failure, rfl⟩)
    fun pdfContent relied => ?_
  dsimp only
  split
  · rename_i failed
    exact .inr ⟨pdfContent, List.mem_singleton_self _, .inl failed⟩
  rename_i passed
  obtain ⟨text, fileData, file, decoded, decodes⟩ := decodedFile_ok lawful passed
  rw [decodes]
  refine keeps_upload ⟨rfl, rfl, pdfContent, List.mem_singleton_self _, passed, text, file, decoded, rfl⟩
    (fun failure => .inl ⟨_, List.mem_append_right _ (List.mem_singleton_self _), failure, rfl⟩) ?_
  exact .inr ⟨pdfContent, List.mem_append_left _ (List.mem_singleton_self _),
    .inr ⟨_, List.mem_append_right _ (List.mem_singleton_self _)⟩⟩

theorem delivery_storesFirst (delivery : Delivery) :
    (storesFirst delivery).Keeps (fun _ _ => True) [] (sanitiseAndUploadLetter lib delivery) := by
  refine keeps_download trivial (fun failure => trivial) fun pdfContent _ => ?_
  dsimp only
  split
  · exact keeps_send trivial trivial
  split
  · trivial
  refine keeps_upload trivial (fun failure => trivial) ?_
  refine keeps_copy ⟨_, List.mem_append_right _ (List.mem_singleton_self _)⟩ (fun failure => trivial) ?_
  exact keeps_send trivial trivial

end Programs

/-! ## What the buckets of letters hold -/

section Invariant
variable (lib : Libraries K σ) (vanishes : Bucket → Prop) (original initialBackup : String → Option S3Object)
  (deliveries : Delivery → Prop)

/-- What may be found in the backup bucket: what was there initially, and originals
of letters of which the sanitised file is stored. -/
def BackedUp (store : Bucket → String → Option S3Object) (key : String) (pdfContent : S3Object) : Prop :=
  initialBackup key = some pdfContent ∨
    ∃ delivery value, deliveries delivery ∧ key = delivery.backupFilename ∧
      original delivery.filename = some pdfContent ∧ Sanitised lib original delivery value ∧
      store .sanitisedLetter delivery.filename = some value

/-- A sanitised file that was stored is there, and belongs to a delivery. -/
def Saved (store : Bucket → String → Option S3Object) (event : TaskEvent) : Prop :=
  ∀ key value, event = Event.uploaded .sanitisedLetter key value (.ok ()) →
    store .sanitisedLetter key = some value ∧
      ∃ delivery, deliveries delivery ∧ key = delivery.filename ∧ Sanitised lib original delivery value

/-- An original that was copied is there. -/
def Copied (store : Bucket → String → Option S3Object) (event : TaskEvent) : Prop :=
  ∀ key target, event = Event.copied .lettersScan key .precompiledOriginalsBackup target (.ok ()) →
    ∃ delivery pdfContent, deliveries delivery ∧ key = delivery.filename ∧ target = delivery.backupFilename ∧
      original key = some pdfContent ∧ store .precompiledOriginalsBackup target = some pdfContent

/-- Scanned files are the originals while they are there, sanitised files stay, and
backups are those of letters that passed. -/
structure Letters (shared : Shared Bucket String S3Object String Process maxsize) (log : TaskLog TaskId Process) :
    Prop where
  scanned : ∀ key pdfContent, shared.store .lettersScan key = some pdfContent → original key = some pdfContent
  saved : ∀ entry ∈ log, Saved lib original deliveries shared.store entry.event
  backups : ∀ key pdfContent, shared.store .precompiledOriginalsBackup key = some pdfContent →
    BackedUp lib original initialBackup deliveries shared.store key pdfContent
  restored : ∀ entry ∈ log, ∀ key pdfContent,
    entry.event = Event.downloaded .precompiledOriginalsBackup key (.ok pdfContent) →
    BackedUp lib original initialBackup deliveries shared.store key pdfContent
  copied : ¬ vanishes .precompiledOriginalsBackup → ∀ entry ∈ log, Copied original deliveries shared.store entry.event

end Invariant

section Steps
variable [DecidableEq Process] [DecidableEq TaskId] {lib : Libraries K σ} {vanishes : Bucket → Prop}
  {original initialBackup : String → Option S3Object} {deliveries : Delivery → Prop}
  {shared after : Shared Bucket String S3Object String Process maxsize} {log : TaskLog TaskId Process}
  {store other : Bucket → String → Option S3Object} {event : TaskEvent} {delivery : Delivery}
  {pdfContent value : S3Object}

/-- What is made from the original of a delivered letter is what its delivery
stores. -/
theorem Resanitised.sanitised {recreation : Recreation} (again : recreation.Of delivery)
    (scanned : original delivery.filename = some pdfContent)
    (resanitised : Resanitised lib recreation pdfContent value) : Sanitised lib original delivery value := by
  obtain ⟨passed, text, file, decoded, metadata⟩ := resanitised
  rw [Recreation.details, again.2] at passed file
  exact ⟨pdfContent, text, scanned, passed, file, decoded, metadata⟩

/-- Under the name of a delivered letter there is only its original, and its
sanitised file is stored. -/
theorem BackedUp.of_delivery (consistent : Consistent deliveries) (member : deliveries delivery)
    (unused : initialBackup delivery.backupFilename = none)
    (backedUp : BackedUp lib original initialBackup deliveries store delivery.backupFilename pdfContent) :
    original delivery.filename = some pdfContent ∧
      ∃ value, Sanitised lib original delivery value ∧ store .sanitisedLetter delivery.filename = some value := by
  rcases backedUp with initially | ⟨owner, value, ownerMember, same, scanned, sanitised, held⟩
  · rw [unused] at initially
    cases initially
  · obtain rfl := consistent owner delivery ownerMember member (.inr (backupFilename_injective same.symm))
    exact ⟨scanned, value, sanitised, held⟩

/-! ### Sanitised files -/

theorem BackedUp.congr (same : other .sanitisedLetter = store .sanitisedLetter) {key : String}
    (backedUp : BackedUp lib original initialBackup deliveries store key pdfContent) :
    BackedUp lib original initialBackup deliveries other key pdfContent := by
  unfold BackedUp
  rwa [same]

theorem Saved.congr (same : other .sanitisedLetter = store .sanitisedLetter)
    (saved : Saved lib original deliveries store event) : Saved lib original deliveries other event := by
  unfold Saved
  rwa [same]

theorem Copied.congr (same : other .precompiledOriginalsBackup = store .precompiledOriginalsBackup)
    (copied : Copied original deliveries store event) : Copied original deliveries other event := by
  unfold Copied
  rwa [same]

/-- Storing the sanitised file of a delivery replaces at most the same file. -/
private theorem held_write (consistent : Consistent deliveries) (member : deliveries delivery)
    (good : Sanitised lib original delivery value) {owner : Delivery} (ownerMember : deliveries owner)
    {held : S3Object} (ownerGood : Sanitised lib original owner held)
    (found : store .sanitisedLetter owner.filename = some held) :
    write store .sanitisedLetter delivery.filename (some value) .sanitisedLetter owner.filename = some held := by
  by_cases file : owner.filename = delivery.filename
  · obtain rfl := consistent owner delivery ownerMember member (.inl file)
    rw [write_self, sanitised_unique good ownerGood]
  · rwa [write_other _ _ fun both => file both.2]

theorem BackedUp.upload (consistent : Consistent deliveries) (member : deliveries delivery)
    (good : Sanitised lib original delivery value) {key : String}
    (backedUp : BackedUp lib original initialBackup deliveries store key pdfContent) :
    BackedUp lib original initialBackup deliveries
      (write store .sanitisedLetter delivery.filename (some value)) key pdfContent := by
  rcases backedUp with initially | ⟨owner, held, ownerMember, name, scanned, ownerGood, found⟩
  · exact .inl initially
  · exact .inr ⟨owner, held, ownerMember, name, scanned, ownerGood,
      held_write consistent member good ownerMember ownerGood found⟩

theorem Saved.upload (consistent : Consistent deliveries) (member : deliveries delivery)
    (good : Sanitised lib original delivery value) (saved : Saved lib original deliveries store event) :
    Saved lib original deliveries (write store .sanitisedLetter delivery.filename (some value)) event := by
  intro key held same
  obtain ⟨found, owner, ownerMember, rfl, ownerGood⟩ := saved key held same
  exact ⟨held_write consistent member good ownerMember ownerGood found, owner, ownerMember, rfl, ownerGood⟩

/-- Copying the original of a delivery replaces at most the same original. -/
theorem Copied.copy (consistent : Consistent deliveries) (member : deliveries delivery)
    (scan : original delivery.filename = some pdfContent) (copied : Copied original deliveries store event) :
    Copied original deliveries
      (write store .precompiledOriginalsBackup delivery.backupFilename (some pdfContent)) event := by
  intro key target same
  obtain ⟨owner, content, ownerMember, rfl, rfl, scanned, held⟩ := copied key target same
  refine ⟨owner, content, ownerMember, rfl, rfl, scanned, ?_⟩
  by_cases name : owner.backupFilename = delivery.backupFilename
  · obtain rfl := consistent owner delivery ownerMember member (.inr (backupFilename_injective name))
    rw [write_self, ← scan, scanned]
  · rwa [write_other _ _ fun both => name both.2]

/-! ### Steps of the whole -/

omit [DecidableEq Process] [DecidableEq TaskId] in
theorem forall_mem_snoc {entries : List α} {last : α} {property : α → Prop}
    (before : ∀ entry ∈ entries, property entry) (latest : property last) :
    ∀ entry ∈ entries ++ [last], property entry := by
  intro entry member
  rcases List.mem_append.mp member with inside | final
  · exact before entry inside
  · exact List.mem_singleton.mp final ▸ latest

omit [DecidableEq Process] [DecidableEq TaskId] in
/-- Scanned files and backups may get lost. -/
private theorem Letters.shift (letters : Letters lib vanishes original initialBackup deliveries shared log)
    (scan : Shrinks .lettersScan shared after) (sanitised : Unchanged .sanitisedLetter shared after)
    (backup : Shrinks .precompiledOriginalsBackup shared after)
    (same : ¬ vanishes .precompiledOriginalsBackup → Unchanged .precompiledOriginalsBackup shared after) :
    Letters lib vanishes original initialBackup deliveries after log where
  scanned key pdfContent found := letters.scanned key pdfContent (scan.store key _ found)
  saved entry inside := (letters.saved entry inside).congr sanitised.same
  backups key pdfContent found := (letters.backups key pdfContent (backup.store key _ found)).congr sanitised.same
  restored entry inside key pdfContent read :=
    (letters.restored entry inside key pdfContent read).congr sanitised.same
  copied stays entry inside := (letters.copied stays entry inside).congr (same stays).same

omit [DecidableEq Process] [DecidableEq TaskId] in
/-- What is to be shown of one more event. -/
private theorem Letters.snoc (letters : Letters lib vanishes original initialBackup deliveries shared log)
    (task : TaskId) (process : Process) (saved : Saved lib original deliveries shared.store event)
    (restored : ∀ key pdfContent, event = Event.downloaded .precompiledOriginalsBackup key (.ok pdfContent) →
      shared.store .precompiledOriginalsBackup key = some pdfContent)
    (copied : Copied original deliveries shared.store event) :
    Letters lib vanishes original initialBackup deliveries shared (log ++ [⟨task, process, event⟩]) where
  scanned := letters.scanned
  saved := forall_mem_snoc letters.saved saved
  backups := letters.backups
  restored := forall_mem_snoc letters.restored fun key pdfContent read =>
    letters.backups key pdfContent (restored key pdfContent read)
  copied stays := forall_mem_snoc (letters.copied stays) copied

omit [DecidableEq TaskId] in
/-- Calls that change no bucket of letters leave all letters as they are. -/
theorem Letters.frame (letters : Letters lib vanishes original initialBackup deliveries shared log)
    {task : TaskId} {process : Process} {call : TaskCall} {answer : call.Answer}
    (scan : ¬ call.Changes .lettersScan) (sanitised : ¬ call.Changes .sanitisedLetter)
    (backup : ¬ call.Changes .precompiledOriginalsBackup)
    (answered : Answers shared process call answer after) :
    Letters lib vanishes original initialBackup deliveries after (log ++ [⟨task, process, call, answer⟩]) := by
  refine (letters.shift (answered.unchanged scan).toShrinks (answered.unchanged sanitised)
    (answered.unchanged backup).toShrinks fun _ => answered.unchanged backup).snoc task process ?_ ?_ ?_
  · rintro key value ⟨⟩
    exact absurd rfl sanitised
  · rintro key pdfContent ⟨⟩
    cases answered with
    | downloaded held => exact held
  · rintro key target ⟨⟩
    exact absurd rfl backup

omit [DecidableEq TaskId] in
/-- What happens by itself keeps the letters, unless sanitised files vanish. -/
theorem Letters.drift (letters : Letters lib vanishes original initialBackup deliveries shared log)
    (stays : ¬ vanishes .sanitisedLetter) (moved : Drifts vanishes shared after) :
    Letters lib vanishes original initialBackup deliveries after log :=
  letters.shift (moved.shrinks _) (moved.unchanged stays) (moved.shrinks _) moved.unchanged

omit [DecidableEq Process] [DecidableEq TaskId] in
private theorem Letters.upload (letters : Letters lib vanishes original initialBackup deliveries shared log)
    (consistent : Consistent deliveries) (member : deliveries delivery)
    (good : Sanitised lib original delivery value) (task : TaskId) (process : Process) :
    Letters lib vanishes original initialBackup deliveries
      { shared with store := write shared.store .sanitisedLetter delivery.filename (some value) }
      (log ++ [⟨task, process, Event.uploaded .sanitisedLetter delivery.filename value (.ok ())⟩]) := by
  have backup : write shared.store .sanitisedLetter delivery.filename (some value) .precompiledOriginalsBackup =
      shared.store .precompiledOriginalsBackup := write_bucket _ _ _ (by simp)
  have kept : Letters lib vanishes original initialBackup deliveries
      { shared with store := write shared.store .sanitisedLetter delivery.filename (some value) } log := {
    scanned := fun key pdfContent found =>
      letters.scanned key pdfContent (by dsimp only at found; rwa [write_other _ _ (by simp)] at found)
    saved := fun entry inside => (letters.saved entry inside).upload consistent member good
    backups := fun key pdfContent found => (letters.backups key pdfContent
      (by dsimp only at found; rwa [write_other _ _ (by simp)] at found)).upload consistent member good
    restored := fun entry inside key pdfContent read =>
      (letters.restored entry inside key pdfContent read).upload consistent member good
    copied := fun stays entry inside => (letters.copied stays entry inside).congr backup }
  refine kept.snoc task process ?_ ?_ ?_
  · rintro key other ⟨⟩
    exact ⟨by simp, delivery, member, rfl, good⟩
  · rintro key pdfContent ⟨⟩
  · rintro key target ⟨⟩

omit [DecidableEq Process] [DecidableEq TaskId] in
private theorem Letters.copy (letters : Letters lib vanishes original initialBackup deliveries shared log)
    (consistent : Consistent deliveries) (member : deliveries delivery)
    (scan : original delivery.filename = some pdfContent) (good : Sanitised lib original delivery value)
    (held : shared.store .sanitisedLetter delivery.filename = some value) (task : TaskId) (process : Process) :
    Letters lib vanishes original initialBackup deliveries
      { shared with
        store := write shared.store .precompiledOriginalsBackup delivery.backupFilename (some pdfContent) }
      (log ++ [⟨task, process, Event.copied .lettersScan delivery.filename .precompiledOriginalsBackup
        delivery.backupFilename (.ok ())⟩]) := by
  have same : write shared.store .precompiledOriginalsBackup delivery.backupFilename (some pdfContent)
      .sanitisedLetter = shared.store .sanitisedLetter := write_bucket _ _ _ (by simp)
  have kept : Letters lib vanishes original initialBackup deliveries
      { shared with
        store := write shared.store .precompiledOriginalsBackup delivery.backupFilename (some pdfContent) } log := {
    scanned := fun key content found =>
      letters.scanned key content (by dsimp only at found; rwa [write_other _ _ (by simp)] at found)
    saved := fun entry inside => (letters.saved entry inside).congr same
    backups := fun key content found => by
      dsimp only at found
      by_cases name : key = delivery.backupFilename
      · subst name
        rw [write_self] at found
        cases found
        exact .inr ⟨delivery, value, member, rfl, scan, good, (congrFun same _).trans held⟩
      · rw [write_other _ _ fun both => name both.2] at found
        exact (letters.backups key content found).congr same
    restored := fun entry inside key content read => (letters.restored entry inside key content read).congr same
    copied := fun stays entry inside => (letters.copied stays entry inside).copy consistent member scan }
  refine kept.snoc task process ?_ ?_ ?_
  · rintro key value ⟨⟩
  · rintro key content ⟨⟩
  · rintro key target ⟨⟩
    exact ⟨delivery, pdfContent, member, rfl, rfl, scan, by simp⟩

/-- Every call of a delivery keeps the letters. -/
theorem Letters.answer (letters : Letters lib vanishes original initialBackup deliveries shared log)
    (consistent : Consistent deliveries) {task : TaskId} {process : Process} {call : TaskCall} {answer : call.Answer}
    (asked : (deliveryContract lib original deliveries delivery).asks (history task log) call)
    (ordered : (storesFirst delivery).asks (history task log) call)
    (answered : Answers shared process call answer after) :
    Letters lib vanishes original initialBackup deliveries after (log ++ [⟨task, process, call, answer⟩]) := by
  obtain ⟨member, _, _, asks⟩ := asked
  cases answered with
  | uploaded =>
    obtain ⟨rfl, rfl, good⟩ := asks
    exact letters.upload consistent member good task process
  | copied scan =>
    obtain ⟨rfl, rfl, rfl, rfl, _⟩ := asks
    obtain ⟨value, uploaded⟩ := ordered
    obtain ⟨_, inLog⟩ := mem_history.mp uploaded
    obtain ⟨held, owner, ownerMember, file, good⟩ := letters.saved _ inLog _ _ rfl
    obtain rfl := consistent owner delivery ownerMember member (.inl file.symm)
    exact letters.copy consistent member (letters.scanned _ _ scan) good held task process
  | downloaded held => exact letters.frame id id id (.downloaded held)
  | downloadFailed failure => exact letters.frame id id id (.downloadFailed failure)
  | uploadFailed failure => refine letters.snoc task process ?_ ?_ ?_ <;> rintro _ _ ⟨⟩
  | copyFailed failure => refine letters.snoc task process ?_ ?_ ?_ <;> rintro _ _ ⟨⟩
  | recalled | missed | remembered | attempted => exact asks.elim
  | sent => exact letters.frame id id id .sent

end Steps

end TemplatePreview.Recreations
