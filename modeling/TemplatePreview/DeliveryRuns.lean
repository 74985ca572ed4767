import TemplatePreview.LetterTasks
import TemplatePreview.Footprints
import TemplatePreview.SanitisedPages

/-! Deliveries of letters for sanitisation, each any number of times, interleaved
with one another call by call. Transfers may fail and scanned files may disappear,
but a letter is announced as passed only when both of its copies are stored. -/
namespace TemplatePreview.DeliveryRuns
open Workers ObjectStore Pdf Sanitisation LetterTasks

variable {K σ Process : Type} [Field K] [LinearOrder K] [DecidableEq Process] {maxsize : Nat}

abbrev Storage (Process : Type) (maxsize : Nat) : Type := Shared Bucket String S3Object String Process maxsize

/-- Only objects of the scan bucket disappear. -/
def storage : Service (Storage Process maxsize) Process
    (Call Bucket String S3Object String SanitiseData) Call.Answer :=
  service fun bucket => bucket = .lettersScan

/-- Two deliveries with the same file or the same notification are deliveries of
one letter, with the same setting. -/
def Consistent (deliveries : Delivery → Prop) : Prop :=
  ∀ one other, deliveries one → deliveries other →
    one.filename = other.filename ∨ one.notificationId = other.notificationId → one = other

section Contract
variable (lib : Libraries K σ) (original : String → Option S3Object) (deliveries : Delivery → Prop)

/-- The object that the sanitised bucket should hold for a delivery. -/
def Sanitised (delivery : Delivery) (value : S3Object) : Prop :=
  ∃ pdfContent text, original delivery.filename = some pdfContent ∧
    ¬ (delivery.details lib pdfContent).failed ∧ (delivery.details lib pdfContent).file = some text ∧
    Base64.b64decode text = .ok value.filedata ∧ value.metadata = []

/-- What may be announced for a delivery after a history. -/
structure Announces (delivery : Delivery) (history : List TaskEvent) (data : SanitiseData) : Prop where
  unfailed : ∀ event ∈ history, ¬ Event.Failed event
  outcome : ∃ pdfContent, original delivery.filename = some pdfContent ∧
    Event.downloaded .lettersScan delivery.filename (.ok pdfContent) ∈ history ∧
    ((delivery.details lib pdfContent).failed ∧
        data = delivery.sanitiseData (delivery.details lib pdfContent) .failed ∨
      ¬ (delivery.details lib pdfContent).failed ∧
        data = delivery.sanitiseData (delivery.details lib pdfContent) .passed ∧
        (∃ value, Sanitised lib original delivery value ∧
          Event.uploaded .sanitisedLetter delivery.filename value (.ok ()) ∈ history) ∧
        Event.copied .lettersScan delivery.filename .precompiledOriginalsBackup delivery.backupFilename (.ok ()) ∈
          history)

/-- The contract of a delivery: it announces at the end, once, what its history
justifies, and writes only the copies of a letter that passed. -/
def deliveryContract (delivery : Delivery) :
    Contract (Call Bucket String S3Object String SanitiseData) Call.Answer where
  asks history call := deliveries delivery ∧ (∀ event ∈ history, ¬ Event.Sends event) ∧
    (∀ event ∈ history, ¬ Event.Failed event) ∧
    match call with
    | .download bucket key => bucket = .lettersScan ∧ key = delivery.filename
    | .upload bucket key value =>
      bucket = .sanitisedLetter ∧ key = delivery.filename ∧ Sanitised lib original delivery value
    | .copy sourceBucket sourceKey targetBucket targetKey =>
      sourceBucket = .lettersScan ∧ sourceKey = delivery.filename ∧
        targetBucket = .precompiledOriginalsBackup ∧ targetKey = delivery.backupFilename ∧
        ∃ value, Sanitised lib original delivery value
    | .send data => Announces lib original delivery history data
    | _ => False
  relies
    | .download bucket key, answer =>
      bucket = .lettersScan → ∀ pdfContent, answer = .ok pdfContent → original key = some pdfContent
    | _, _ => True

/-- A delivery that ended without a failed transfer has announced something. -/
def Ended (_ : Delivery) (history : List TaskEvent) (_ : Py Unit) : Prop :=
  (∃ event ∈ history, Event.Failed event) ∨ ∃ event ∈ history, Event.Sends event

end Contract

section Programs
variable {lib : Libraries K σ} {render : Page K σ → Image} {original : String → Option S3Object}
  {deliveries : Delivery → Prop}

/-- The task keeps to its contract. -/
theorem sanitiseAndUploadLetter_keeps (lawful : lib.Lawful render) {delivery : Delivery}
    (member : deliveries delivery) :
    (deliveryContract lib original deliveries delivery).Keeps (Ended delivery) []
      (sanitiseAndUploadLetter lib delivery) := by
  refine keeps_download ⟨member, by simp, by simp, rfl, rfl⟩ (fun failure => ?_) fun pdfContent relied => ?_
  · exact .inl ⟨_, List.mem_singleton_self _, failure, rfl⟩
  have scanned : original delivery.filename = some pdfContent := relied rfl pdfContent rfl
  dsimp only
  split
  · rename_i failed
    refine keeps_send ⟨member, by simp, by simp, by simp, pdfContent, scanned, by simp, .inl ⟨failed, rfl⟩⟩ ?_
    exact .inr ⟨_, List.mem_append_right _ (List.mem_singleton_self _), trivial⟩
  rename_i passed
  obtain ⟨text, fileData, file, decoded, decodes⟩ := decodedFile_ok lawful passed
  have sanitised : Sanitised lib original delivery { filedata := fileData } :=
    ⟨pdfContent, text, scanned, passed, file, decoded, rfl⟩
  rw [show decodedFile (delivery.details lib pdfContent) = .ok fileData from decodes]
  refine keeps_upload ⟨member, by simp, by simp, rfl, rfl, sanitised⟩ (fun failure => ?_) ?_
  · exact .inl ⟨_, List.mem_append_right _ (List.mem_singleton_self _), failure, rfl⟩
  refine keeps_copy ⟨member, by simp, by simp, rfl, rfl, rfl, rfl, _, sanitised⟩ (fun failure => ?_) ?_
  · exact .inl ⟨_, List.mem_append_right _ (List.mem_singleton_self _), failure, rfl⟩
  refine keeps_send ⟨member, by simp, by simp, by simp, pdfContent, scanned, by simp,
    .inr ⟨passed, rfl, ⟨_, sanitised, by simp⟩, by simp⟩⟩ ?_
  exact .inr ⟨_, List.mem_append_right _ (List.mem_singleton_self _), trivial⟩

end Programs

section Invariant
variable (lib : Libraries K σ) (original : String → Option S3Object) (deliveries : Delivery → Prop)

/-- What was written for some delivery is still stored. -/
structure Stored (store : Bucket → String → Option S3Object) (event : TaskEvent) : Prop where
  sanitised : ∀ key value, event = Event.uploaded .sanitisedLetter key value (.ok ()) →
    store .sanitisedLetter key = some value ∧
      ∃ delivery, deliveries delivery ∧ key = delivery.filename ∧ Sanitised lib original delivery value
  backup : ∀ key target, event = Event.copied .lettersScan key .precompiledOriginalsBackup target (.ok ()) →
    (∃ pdfContent, original key = some pdfContent ∧
      store .precompiledOriginalsBackup target = some pdfContent) ∧
      ∃ delivery, deliveries delivery ∧ key = delivery.filename ∧ target = delivery.backupFilename

/-- Scanned files are the originals while they are there, and everything that was
written is stored. -/
structure Kept {TaskId : Type} (shared : Storage Process maxsize)
    (log : List (Entry TaskId Process (Call Bucket String S3Object String SanitiseData) Call.Answer)) : Prop where
  scanned : ∀ key pdfContent, shared.store .lettersScan key = some pdfContent → original key = some pdfContent
  stored : ∀ entry ∈ log, Stored lib original deliveries shared.store entry.event

end Invariant

section Steps
variable {lib : Libraries K σ} {render : Page K σ → Image} {original : String → Option S3Object}
  {deliveries : Delivery → Prop} {store : Bucket → String → Option S3Object} {event : TaskEvent}
  {delivery : Delivery}

/-- There is one object a delivery can store. -/
theorem sanitised_unique {one other : S3Object} (first : Sanitised lib original delivery one)
    (second : Sanitised lib original delivery other) : one = other := by
  obtain ⟨pdfContent, text, scanned, _, file, decoded, metadata⟩ := first
  obtain ⟨_, _, scanned', _, file', decoded', metadata'⟩ := second
  rw [scanned] at scanned'
  cases scanned'
  rw [file] at file'
  cases file'
  rw [decoded] at decoded'
  cases one
  cases other
  cases decoded'
  cases metadata
  cases metadata'
  rfl

theorem backupFilename_injective {one other : Delivery} (same : one.backupFilename = other.backupFilename) :
    one.notificationId = other.notificationId := by
  have characters := congrArg String.toList same
  simp only [Delivery.backupFilename, String.toList_append, List.append_cancel_right_eq] at characters
  exact String.toList_injective characters

/-- Storing the sanitised file of a delivery changes nothing that was written for
it or for another one. -/
theorem Stored.upload (consistent : Consistent deliveries) (member : deliveries delivery) {value : S3Object}
    (good : Sanitised lib original delivery value) (stored : Stored lib original deliveries store event) :
    Stored lib original deliveries (write store .sanitisedLetter delivery.filename (some value)) event where
  sanitised key other same := by
    obtain ⟨held, owner, ownerMember, rfl, ownerGood⟩ := stored.sanitised key other same
    refine ⟨?_, owner, ownerMember, rfl, ownerGood⟩
    by_cases file : owner.filename = delivery.filename
    · have letter := consistent owner delivery ownerMember member (.inl file)
      subst letter
      rw [write_self, sanitised_unique good ownerGood]
    · rwa [write_other _ _ fun both => file both.2]
  backup key target same := by
    obtain ⟨⟨pdfContent, scanned, held⟩, owner⟩ := stored.backup key target same
    exact ⟨⟨pdfContent, scanned, by rwa [write_other _ _ (by simp)]⟩, owner⟩

theorem Stored.copy (consistent : Consistent deliveries) (member : deliveries delivery) {pdfContent : S3Object}
    (good : original delivery.filename = some pdfContent) (stored : Stored lib original deliveries store event) :
    Stored lib original deliveries
      (write store .precompiledOriginalsBackup delivery.backupFilename (some pdfContent)) event where
  sanitised key value same := by
    obtain ⟨held, owner⟩ := stored.sanitised key value same
    exact ⟨by rwa [write_other _ _ (by simp)], owner⟩
  backup key target same := by
    obtain ⟨⟨content, scanned, held⟩, owner, ownerMember, rfl, rfl⟩ := stored.backup key target same
    refine ⟨⟨content, scanned, ?_⟩, owner, ownerMember, rfl, rfl⟩
    by_cases file : owner.backupFilename = delivery.backupFilename
    · have letter := consistent owner delivery ownerMember member (.inr (backupFilename_injective file))
      subst letter
      rw [write_self, ← good, scanned]
    · rwa [write_other _ _ fun both => file both.2]

/-- Nothing needs to be stored for a call that wrote nothing. -/
theorem Stored.unwritten (quiet : ¬ Event.Writes event ∨ Event.Failed event) :
    Stored lib original deliveries store event where
  sanitised key value same := by
    subst same
    rcases quiet with unwritten | ⟨_, failed⟩
    · exact absurd trivial unwritten
    · cases failed
  backup key target same := by
    subst same
    rcases quiet with unwritten | ⟨_, failed⟩
    · exact absurd trivial unwritten
    · cases failed

/-- A scanned file that disappears leaves the copies alone. -/
theorem Stored.vanish (stored : Stored lib original deliveries store event) (key : String) :
    Stored lib original deliveries (write store .lettersScan key none) event where
  sanitised other value same := by
    obtain ⟨held, owner⟩ := stored.sanitised other value same
    exact ⟨by rwa [write_other _ _ (by simp)], owner⟩
  backup other target same := by
    obtain ⟨⟨content, scanned, held⟩, owner⟩ := stored.backup other target same
    exact ⟨⟨content, scanned, by rwa [write_other _ _ (by simp)]⟩, owner⟩

end Steps

section Histories
variable {lib : Libraries K σ} {original : String → Option S3Object} {deliveries : Delivery → Prop}
  {delivery : Delivery} {past : List TaskEvent}

/-- A message is the last event of its delivery. -/
theorem last_of_sent (respects : (deliveryContract lib original deliveries delivery).Respects past)
    {data : SanitiseData} (sent : Event.sent data ∈ past) :
    ∃ before, past = before ++ [Event.sent data] ∧ (∀ event ∈ before, ¬ Event.Sends event) ∧
      Announces lib original delivery before data := by
  cases respects with
  | nil => cases sent
  | @snoc before call answer earlier asked relied =>
    obtain ⟨_, quiet, _, asks⟩ := asked
    rcases List.mem_append.mp sent with inside | last
    · exact absurd trivial (quiet _ inside)
    cases List.mem_singleton.mp last
    exact ⟨before, rfl, quiet, asks⟩

/-- A delivery stops at a failed call. -/
theorem last_of_failed (respects : (deliveryContract lib original deliveries delivery).Respects past)
    {event : TaskEvent} (member : event ∈ past) (failed : Event.Failed event) :
    ∀ other ∈ past, ¬ Event.Sends other := by
  cases respects with
  | nil => cases member
  | @snoc before call answer earlier asked relied =>
    obtain ⟨_, quiet, unfailed, _⟩ := asked
    rcases List.mem_append.mp member with inside | last
    · exact absurd failed (unfailed _ inside)
    cases List.mem_singleton.mp last
    intro other found
    rcases List.mem_append.mp found with inside | last
    · exact quiet _ inside
    cases List.mem_singleton.mp last
    cases call with
    | send data => exact failed.elim
    | _ => exact id

/-- What a delivery downloaded is the original. -/
theorem downloaded_original (respects : (deliveryContract lib original deliveries delivery).Respects past)
    {bucket : Bucket} {key : String} {pdfContent : S3Object}
    (found : Event.downloaded bucket key (.ok pdfContent) ∈ past) :
    original delivery.filename = some pdfContent := by
  obtain ⟨_, _, _, ⟨_, _, _, rfl, rfl⟩, relied⟩ := respects.of_mem found
  exact relied rfl pdfContent rfl

/-- A delivery that writes has a file to store. -/
theorem sanitised_of_writes (respects : (deliveryContract lib original deliveries delivery).Respects past)
    {event : TaskEvent} (member : event ∈ past) (writes : Event.Writes event) :
    ∃ value, Sanitised lib original delivery value := by
  obtain ⟨_, _, _, ⟨_, _, _, asks⟩, _⟩ := respects.of_mem member
  obtain ⟨call, answer⟩ := event
  cases call with
  | upload bucket key value => exact ⟨value, asks.2.2⟩
  | copy => exact asks.2.2.2.2
  | _ => exact writes.elim

/-- A finished delivery without a failed call has sent its message last. -/
theorem sent_of_ended (ended : Ended delivery past result) (unfailed : ∀ event ∈ past, ¬ Event.Failed event) :
    ∃ data, Event.sent data ∈ past := by
  rcases ended with ⟨event, member, failed⟩ | ⟨⟨call, answer⟩, member, sends⟩
  · exact absurd failed (unfailed event member)
  cases call with
  | send data => exact ⟨data, member⟩
  | _ => exact sends.elim

end Histories

/-- Both copies of a letter that passed are stored. -/
def BothStored (lib : Libraries K σ) (original : String → Option S3Object)
    (store : Bucket → String → Option S3Object) (delivery : Delivery) : Prop :=
  ∃ pdfContent text fileData, original delivery.filename = some pdfContent ∧
    (delivery.details lib pdfContent).file = some text ∧ Base64.b64decode text = .ok fileData ∧
    store .sanitisedLetter delivery.filename = some { filedata := fileData } ∧
    store .precompiledOriginalsBackup delivery.backupFilename = some pdfContent

section Runs
variable {lib : Libraries K σ} {render : Page K σ → Image} {original : String → Option S3Object}
  {deliveries : Delivery → Prop} {TaskId : Type} [DecidableEq TaskId]

/-- Every call keeps what was stored for the calls before it. -/
private theorem kept_answer (consistent : Consistent deliveries) {shared after : Storage Process maxsize}
    {log : List (Entry TaskId Process (Call Bucket String S3Object String SanitiseData) Call.Answer)}
    {task : TaskId} {delivery : Delivery} {process : Process}
    {call : Call Bucket String S3Object String SanitiseData} {answer : call.Answer}
    (kept : Kept lib original deliveries shared log)
    (asked : (deliveryContract lib original deliveries delivery).asks (history task log) call)
    (answered : storage.answers shared process call answer after) :
    (deliveryContract lib original deliveries delivery).relies call answer ∧
      Kept lib original deliveries after (log ++ [⟨task, process, call, answer⟩]) := by
  obtain ⟨member, _, _, asks⟩ := asked
  have extend {store : Bucket → String → Option S3Object} {event : TaskEvent}
      (stored : ∀ entry ∈ log, Stored lib original deliveries store entry.event)
      (latest : Stored lib original deliveries store event) :
      ∀ entry ∈ log ++ [⟨task, process, event⟩], Stored lib original deliveries store entry.event := by
    intro entry found
    rcases List.mem_append.mp found with inside | last
    · exact stored entry inside
    · exact List.mem_singleton.mp last ▸ latest
  cases answered with
  | @downloaded bucket key value held =>
    refine ⟨?_, kept.scanned, extend kept.stored (.unwritten (.inl id))⟩
    rintro rfl pdfContent same
    cases same
    exact kept.scanned _ _ held
  | downloadFailed failure =>
    refine ⟨?_, kept.scanned, extend kept.stored (.unwritten (.inl id))⟩
    rintro rfl pdfContent same
    cases same
  | @uploaded bucket key value =>
    obtain ⟨rfl, rfl, good⟩ := asks
    refine ⟨trivial, fun key pdfContent found => kept.scanned key pdfContent ?_,
      extend (fun entry inside => (kept.stored entry inside).upload consistent member good) ⟨?_, ?_⟩⟩
    · dsimp only at found
      rwa [write_other _ _ (by simp)] at found
    · intro key other same
      cases same
      exact ⟨by simp, delivery, member, rfl, good⟩
    · intro key target same
      cases same
  | uploadFailed failure =>
    exact ⟨trivial, kept.scanned, extend kept.stored (.unwritten (.inr ⟨failure, rfl⟩))⟩
  | @copied sourceBucket targetBucket sourceKey targetKey value held =>
    obtain ⟨rfl, rfl, rfl, rfl, _⟩ := asks
    have scanned := kept.scanned _ _ held
    refine ⟨trivial, fun key pdfContent found => kept.scanned key pdfContent ?_,
      extend (fun entry inside => (kept.stored entry inside).copy consistent member scanned) ⟨?_, ?_⟩⟩
    · dsimp only at found
      rwa [write_other _ _ (by simp)] at found
    · intro key other same
      cases same
    · intro key target same
      cases same
      exact ⟨⟨value, scanned, by simp⟩, delivery, member, rfl, rfl⟩
  | copyFailed failure =>
    exact ⟨trivial, kept.scanned, extend kept.stored (.unwritten (.inr ⟨failure, rfl⟩))⟩
  | recalled | missed | remembered | attempted => exact asks.elim
  | sent => exact ⟨trivial, kept.scanned, extend kept.stored (.unwritten (.inl id))⟩

omit [DecidableEq TaskId] in
private theorem kept_drift {shared after : Storage Process maxsize}
    {log : List (Entry TaskId Process (Call Bucket String S3Object String SanitiseData) Call.Answer)}
    (kept : Kept lib original deliveries shared log) (moved : storage.drifts shared after) :
    Kept lib original deliveries after log := by
  cases moved with
  | @vanished bucket key allowed =>
    cases allowed
    refine ⟨fun other pdfContent found => kept.scanned other pdfContent ?_,
      fun entry inside => (kept.stored entry inside).vanish key⟩
    dsimp only at found
    by_cases same : other = key
    · subst same
      simp at found
    · rwa [write_other _ _ fun both => same both.2] at found
  | restarted => exact ⟨kept.scanned, kept.stored⟩

/-- The deliveries, their contracts and the invariant fit together. -/
theorem deliveries_verified (lawful : lib.Lawful render) (consistent : Consistent deliveries) :
    Verified (storage : Service (Storage Process maxsize) Process _ Call.Answer) (sanitiseAndUploadLetter lib)
      (fun delivery _ => deliveries delivery) (deliveryContract lib original deliveries) Ended
      (fun shared (log : List (Entry TaskId Process _ _)) => Kept lib original deliveries shared log) where
  programs _ _ member := sanitiseAndUploadLetter_keeps lawful member
  calls _ _ _ _ _ _ _ _ kept _ asked answered := kept_answer consistent kept asked answered
  drifts _ _ _ kept moved := kept_drift kept moved

omit [DecidableEq Process] in
/-- What a delivery has announced as passed is stored, and stays stored. -/
theorem both_stored {shared : Storage Process maxsize}
    {log : List (Entry TaskId Process (Call Bucket String S3Object String SanitiseData) Call.Answer)}
    (kept : Kept lib original deliveries shared log) {task : TaskId} {delivery : Delivery}
    {before : List TaskEvent}
    (included : ∀ event ∈ before, event ∈ history task log) {data : SanitiseData}
    (announces : Announces lib original delivery before data) (passed : data.validationStatus = .passed) :
    BothStored lib original shared.store delivery := by
  obtain ⟨pdfContent, scanned, _, failing | ⟨_, _, ⟨value, sanitised, uploaded⟩, copied⟩⟩ := announces.outcome
  · rw [failing.2] at passed
    cases passed
  obtain ⟨process, uploaded⟩ := mem_history.mp (included _ uploaded)
  obtain ⟨process', copied⟩ := mem_history.mp (included _ copied)
  have held := ((kept.stored _ uploaded).sanitised _ _ rfl).1
  obtain ⟨⟨content, scanned', backup⟩, _⟩ := (kept.stored _ copied).backup _ _ rfl
  obtain ⟨_, text, scanned'', _, file, decoded, metadata⟩ := sanitised
  rw [scanned] at scanned' scanned''
  cases scanned'
  cases scanned''
  cases value
  cases metadata
  exact ⟨pdfContent, text, _, scanned, file, decoded, held, backup⟩

/-- In every state of every run, letters announced as passed have both copies
stored; letters announced as failed did fail, and wrote nothing; a failed transfer
prevents the announcement, and every other delivery ends with its only one. -/
theorem deliveries_announce_what_is_stored (lawful : lib.Lawful render) (consistent : Consistent deliveries)
    {shared : Storage Process maxsize}
    {state : State (Storage Process maxsize) TaskId Delivery Process
      (Call Bucket String S3Object String SanitiseData) Call.Answer (Py Unit)}
    (reachable : Reachable storage (sanitiseAndUploadLetter lib)
      (fun delivery _ => deliveries delivery) shared state)
    (task : TaskId) {running : Task Delivery Process (Call Bucket String S3Object String SanitiseData) Call.Answer
      (Py Unit)} (started : state.tasks task = some running) :
    (∀ data, Event.sent data ∈ history task state.log →
      data.filename = running.job.filename ∧ data.notificationId = running.job.notificationId ∧
      (data.validationStatus = .passed →
        BothStored lib (shared.store .lettersScan) state.shared.store running.job) ∧
      (data.validationStatus = .failed → ∃ pdfContent,
        shared.store .lettersScan running.job.filename = some pdfContent ∧
        (running.job.details lib pdfContent).failed ∧
          data.message = (running.job.details lib pdfContent).message)) ∧
    (∀ pdfContent, Event.downloaded .lettersScan running.job.filename (.ok pdfContent) ∈ history task state.log →
      (running.job.details lib pdfContent).failed → ∀ event ∈ history task state.log, ¬ Event.Writes event) ∧
    ((∃ event ∈ history task state.log, Event.Failed event) →
      ∀ event ∈ history task state.log, ¬ Event.Sends event) ∧
    (∀ result, running.remaining = .done result → (∀ event ∈ history task state.log, ¬ Event.Failed event) →
      ∃ before data, history task state.log = before ++ [Event.sent data] ∧
        ∀ event ∈ before, ¬ Event.Sends event) ∧
    ((∃ result, running.remaining = .done result) ∨
      ∃ call answer after, Step storage (sanitiseAndUploadLetter lib)
        (fun delivery _ => deliveries delivery) state after ∧
        after.log = state.log ++ [⟨task, running.process, call, answer⟩]) := by
  obtain ⟨kept, tasks, _⟩ := verified_reachable (deliveries_verified lawful consistent)
    ⟨fun _ _ found => found, by simp⟩ reachable
  obtain ⟨respects, keeps⟩ := tasks task running started
  refine ⟨fun data sent => ?_, fun pdfContent found failing event member writes => ?_,
    fun ⟨event, member, failed⟩ => last_of_failed respects member failed, fun result ended unfailed => ?_, ?_⟩
  · obtain ⟨before, ends, _, announces⟩ := last_of_sent respects sent
    have included : ∀ event ∈ before, event ∈ history task state.log := by
      intro event member
      rw [ends]
      exact List.mem_append_left _ member
    refine ⟨?_, ?_, both_stored kept included announces, fun failed => ?_⟩ <;>
      obtain ⟨pdfContent, scanned, _, ⟨failing, rfl⟩ | ⟨passing, rfl, _⟩⟩ := announces.outcome
    · rfl
    · rfl
    · rfl
    · rfl
    · exact ⟨pdfContent, scanned, failing, rfl⟩
    · cases failed
  · obtain ⟨_, content, _, scanned, passing, _⟩ := sanitised_of_writes respects member writes
    have original := downloaded_original respects found
    rw [scanned] at original
    cases original
    exact passing failing
  · rw [ended] at keeps
    obtain ⟨data, sent⟩ := sent_of_ended keeps unfailed
    obtain ⟨before, ends, quiet, _⟩ := last_of_sent respects sent
    exact ⟨before, data, ends, quiet⟩
  · obtain ⟨job, process, remaining⟩ := running
    cases remaining with
    | done result => exact .inl ⟨result, rfl⟩
    | ask call next =>
      obtain ⟨answer, after, answered⟩ := answers_exist state.shared process call
      exact .inr ⟨call, answer, _, .ask started answered, rfl⟩

end Runs

section Delivered
variable (lib : Libraries K σ) (vanishes : Bucket → Prop) (process : Process) (shared : Storage Process maxsize)
  {pdfContent : S3Object} {fileData : Bytes}

/-- A letter that passes is stored and announced. -/
theorem delivered (delivery : Delivery) (scanned : shared.store .lettersScan delivery.filename = some pdfContent)
    (passed : (delivery.details lib pdfContent).failed = false)
    (decoded : decodedFile (delivery.details lib pdfContent) = .ok fileData) :
    ∃ events after, Uninterrupted (service vanishes) process shared (sanitiseAndUploadLetter lib delivery) events
        after (.ok ()) ∧
      Event.sent (delivery.sanitiseData (delivery.details lib pdfContent) .passed) ∈ events ∧
      after.store .lettersScan = shared.store .lettersScan ∧
      after.store .precompiledOriginalsBackup delivery.backupFilename = some pdfContent := by
  refine ⟨[Event.downloaded .lettersScan delivery.filename (.ok pdfContent),
    Event.uploaded .sanitisedLetter delivery.filename { filedata := fileData } (.ok ()),
    Event.copied .lettersScan delivery.filename .precompiledOriginalsBackup delivery.backupFilename (.ok ()),
    Event.sent (delivery.sanitiseData (delivery.details lib pdfContent) .passed)],
    { shared with
      store := write (write shared.store .sanitisedLetter delivery.filename (some { filedata := fileData }))
        .precompiledOriginalsBackup delivery.backupFilename (some pdfContent) },
    .ask (.downloaded scanned) ?_, by simp, ?_, by simp⟩
  · simp only [Program.bind, passed, decoded, Bool.false_eq_true, ↓reduceIte]
    exact .ask .uploaded (.ask (.copied (by simpa [write_eq] using scanned)) (.ask .sent .done))
  · dsimp only
    rw [write_bucket _ _ _ (by simp), write_bucket _ _ _ (by simp)]

end Delivered

section InMemory
open InMemoryLibraries LetterColours SanitisedPages

def letter : Delivery := ⟨"id", "letter.pdf", false⟩

def letterScan (bucket : Bucket) (key : String) : Option S3Object :=
  if bucket = .lettersScan ∧ key = "letter.pdf" then some { filedata := cmykLetter } else none

theorem consistent_single (delivery : Delivery) : Consistent (· = delivery) :=
  fun _ _ first second _ => first.trans second.symm

theorem letter_passes : ∃ fileData, (letter.details coloured { filedata := cmykLetter }).failed = false ∧
    decodedFile (letter.details coloured { filedata := cmykLetter }) = .ok fileData := by
  obtain ⟨_, sanitised⟩ := cmykLetter_sanitised
  have passed : (letter.details coloured { filedata := cmykLetter }).failed = false :=
    (congrArg SanitisationDetails.failed sanitised).trans rfl
  obtain ⟨_, fileData, _, _, decoded⟩ := decodedFile_ok coloured_lawful (ne_true_of_eq_false passed)
  exact ⟨fileData, passed, decoded⟩

theorem letter_is_stored :
    ∃ (state : State (Storage Unit 1) Unit Delivery Unit (Call Bucket String S3Object String SanitiseData)
        Call.Answer (Py Unit)) (data : SanitiseData),
      Reachable storage (sanitiseAndUploadLetter coloured) (fun delivery _ => delivery = letter)
        ⟨letterScan, fun _ => .empty⟩ state ∧
      Event.sent data ∈ history () state.log ∧ data.validationStatus = .passed ∧
      BothStored coloured (letterScan .lettersScan) state.shared.store letter := by
  obtain ⟨fileData, passed, decoded⟩ := letter_passes
  obtain ⟨events, after, delivers, sent, _⟩ :=
    delivered coloured (fun bucket => bucket = .lettersScan) () (⟨letterScan, fun _ => .empty⟩ : Storage Unit 1) letter
      rfl passed decoded
  have reachable : Reachable storage (sanitiseAndUploadLetter coloured) (fun delivery _ => delivery = letter)
      ⟨letterScan, fun _ => .empty⟩ _ := .run () () .refl rfl rfl delivers
  have announced : Event.sent (letter.sanitiseData (letter.details coloured { filedata := cmykLetter }) .passed) ∈
      history () (events.map (⟨(), (), ·⟩)) := by
    simpa [history] using sent
  have stored := ((deliveries_announce_what_is_stored coloured_lawful (consistent_single letter) reachable () rfl).1 _
    announced).2.2.1 rfl
  exact ⟨_, _, reachable, announced, rfl, stored⟩

end InMemory

end TemplatePreview.DeliveryRuns
