import TemplatePreview.ServiceGuarantees
import TemplatePreview.LruRetention

/-! A process that has read an attachment serves it from its cache from then on. All
later reads return one file and none asks the bucket, whatever happens to the
attachment there, until the process restarts or has used many others. -/
namespace TemplatePreview.CachedAttachments
open Workers ObjectStore Pdf LetterTasks CachedDownloads Recreations WholeService
open AttachmentReads (AttachmentJob AttachmentResult)

variable {K σ Date Process TaskId : Type} [Field K] [LinearOrder K] [DecidableEq Process] [DecidableEq TaskId]

/-! ## One read -/

section Read
variable {serviceId attachmentId : String} {outcome : Except DownloadError MemoryFile} {history : List TaskEvent}

/-- A read looks into the cache, and downloads and remembers what it does not find. -/
theorem getAttachmentPdf_cases
    (finishes : (AttachmentReads.getAttachmentPdf serviceId attachmentId).Finishes history outcome) :
    (∃ text, history =
        [Event.recalled .letterAttachment (getTransientLetterFileLocation serviceId attachmentId) (some text)] ∧
      outcome = decodeCached (.ok text)) ∨
    (∃ failure, history =
        [Event.recalled .letterAttachment (getTransientLetterFileLocation serviceId attachmentId) none,
          Event.downloaded .letterAttachment (getTransientLetterFileLocation serviceId attachmentId)
            (.error failure)] ∧
      outcome = .error (.s3 failure)) ∨
    ∃ object, history =
        [Event.recalled .letterAttachment (getTransientLetterFileLocation serviceId attachmentId) none,
          Event.downloaded .letterAttachment (getTransientLetterFileLocation serviceId attachmentId) (.ok object),
          Event.remembered .letterAttachment (getTransientLetterFileLocation serviceId attachmentId)
            (Base64.b64encode object.filedata)] := by
  obtain ⟨_, downloads, rfl⟩ := Program.finishes_map_iff.mp finishes
  obtain ⟨cached, _, rfl, missed⟩ := Program.finishes_request_iff.mp downloads
  cases cached with
  | some text =>
    cases missed
    exact .inl ⟨text, rfl, rfl⟩
  | none =>
    obtain ⟨downloaded, _, rfl, fetched⟩ := Program.finishes_request_iff.mp missed
    cases downloaded with
    | error failure =>
      cases fetched
      exact .inr (.inl ⟨failure, rfl, rfl⟩)
    | ok object =>
      obtain ⟨_, _, rfl, remembered⟩ := Program.finishes_request_iff.mp fetched
      cases remembered
      exact .inr (.inr ⟨object, rfl⟩)

/-- A read that returns has the attachment from the cache or leaves it there. -/
theorem obtained_of_read {file : MemoryFile}
    (finishes : (AttachmentReads.getAttachmentPdf serviceId attachmentId).Finishes history (.ok file)) :
    Obtained .letterAttachment (getTransientLetterFileLocation serviceId attachmentId) history := by
  rcases getAttachmentPdf_cases finishes with ⟨text, rfl, _⟩ | ⟨_, _, ⟨⟩⟩ | ⟨object, rfl⟩
  · exact .inl ⟨text, List.mem_singleton_self _⟩
  · exact .inr ⟨none, Base64.b64encode object.filedata, .cons_cons _ (.cons _ (List.Sublist.refl _))⟩

/-- A read finds what the cache answers. -/
theorem read_of_answered {bytes : Bytes}
    (finishes : (AttachmentReads.getAttachmentPdf serviceId attachmentId).Finishes history outcome)
    (answered : ∀ answer, Event.recalled .letterAttachment (getTransientLetterFileLocation serviceId attachmentId)
      answer ∈ history → answer = some (Base64.b64encode bytes)) :
    outcome = .ok { bytes := bytes } ∧ history = [Event.recalled .letterAttachment
      (getTransientLetterFileLocation serviceId attachmentId) (some (Base64.b64encode bytes))] := by
  rcases getAttachmentPdf_cases finishes with ⟨text, rfl, rfl⟩ | ⟨_, rfl, _⟩ | ⟨_, rfl⟩
  · cases answered _ List.mem_cons_self
    exact ⟨decodeCached_b64encode bytes, rfl⟩
  · cases answered _ List.mem_cons_self
  · cases answered _ List.mem_cons_self

end Read

/-! ## Reads while other jobs run -/

/-- A task that has read an attachment in a process. -/
def hasRead (process : Process) (serviceId attachmentId : String) (outcome : Except DownloadError MemoryFile) :
    Workers.Task ((kind : JobKind) × kind.Job) Process TaskCall ObjectStore.Call.Answer
      ((kind : JobKind) × kind.Result) :=
  ⟨⟨.attachment, AttachmentJob.getAttachmentPdf serviceId attachmentId⟩, process,
    .done ⟨.attachment, AttachmentResult.pdf outcome⟩⟩

section Service
variable {setting : Setting K σ Date} {render : Page K σ → Image} {traffic : Traffic} {vanishes : Bucket → Prop}
  {initial : Bucket → String → Option S3Object} {before middle after : ServiceState TaskId Process}
  {process : Process} {serviceId attachmentId : String}

/-- A step in which the process is not restarted. -/
abbrev SteadyStep (setting : Setting K σ Date) (traffic : Traffic) (vanishes : Bucket → Prop) (process : Process) :
    ServiceState TaskId Process → ServiceState TaskId Process → Prop :=
  Step (steady vanishes process) (mixed setting.program) fun job => traffic.admits job.1 job.2

theorem ServiceReachable.steady (reachable : ServiceReachable setting traffic vanishes initial before)
    (run : Relation.ReflTransGen (SteadyStep setting traffic vanishes process) before after) :
    ServiceReachable setting traffic vanishes initial after :=
  Relation.ReflTransGen.trans reachable (Relation.ReflTransGen.mono (fun _ _ => Step.of_steady) _ _ run)

theorem finishes_of_hasRead (reachable : ServiceReachable setting traffic vanishes initial after) {task : TaskId}
    {outcome : Except DownloadError MemoryFile}
    (finished : after.tasks task = some (hasRead process serviceId attachmentId outcome)) :
    (AttachmentReads.getAttachmentPdf serviceId attachmentId).Finishes (history task after.log) outcome := by
  obtain ⟨_, reads, same⟩ := Program.finishes_map_iff.mp (finishes_of_finished reachable finished)
  cases same
  obtain ⟨_, reads, same⟩ := Program.finishes_map_iff.mp
    (show (AttachmentReads.getAttachmentPdf serviceId attachmentId >>= fun read =>
      pure (AttachmentResult.pdf read)).Finishes _ _ from reads)
  cases same
  exact reads

omit [DecidableEq Process] in
/-- A task that starts later has its history in what was logged since. -/
theorem history_since (placed : Placed before) {task : TaskId} (free : before.tasks task = none)
    {later : TaskLog TaskId Process} (grown : after.log = before.log ++ later) :
    history task after.log = history task later := by
  have none := fresh_history placed free
  rw [history] at none
  rw [grown, history, List.filterMap_append, none, List.nil_append, history]

/-- Once a process has read an attachment, it is served from the cache: until the
process restarts or has used as many other files as the cache has room for, every
lookup finds one object that the process had downloaded. Every later read returns it
and asks nothing else, even where the attachment was replaced, and where downloads
fail. -/
theorem attachments_stay_cached (premises : Premises setting render traffic vanishes initial)
    (reachable : ServiceReachable setting traffic vanishes initial before)
    (first : Relation.ReflTransGen (SteadyStep setting traffic vanishes process) before middle)
    (second : Relation.ReflTransGen (SteadyStep setting traffic vanishes process) middle after)
    {reader : TaskId} {file : MemoryFile} (free : before.tasks reader = none)
    (read : middle.tasks reader = some (hasRead process serviceId attachmentId (.ok file)))
    {earlier later : TaskLog TaskId Process} (logged : middle.log = before.log ++ earlier)
    (grown : after.log = middle.log ++ later)
    (few : Few cacheSize .letterAttachment (getTransientLetterFileLocation serviceId attachmentId)
      (usedIn (processHistory process (earlier ++ later)))) :
    ∃ object downloader,
      Fetched initial middle.log downloader process .letterAttachment
        (getTransientLetterFileLocation serviceId attachmentId) object ∧
      (∀ answer, Event.recalled .letterAttachment (getTransientLetterFileLocation serviceId attachmentId) answer ∈
        processHistory process later → answer = some (encoded object)) ∧
      ∀ task outcome, middle.tasks task = none →
        after.tasks task = some (hasRead process serviceId attachmentId outcome) →
        outcome = .ok { bytes := object.filedata } ∧
        history task after.log = [Event.recalled .letterAttachment
          (getTransientLetterFileLocation serviceId attachmentId) (some (encoded object))] := by
  obtain ⟨_, _, placed⟩ := service_reachable premises reachable
  have reachedMiddle := ServiceReachable.steady reachable first
  obtain ⟨invariant, _, placedMiddle⟩ := service_reachable premises reachedMiddle
  have reachedAfter := ServiceReachable.steady reachedMiddle second
  obtain ⟨_, _, placedAfter⟩ := service_reachable premises reachedAfter
  rw [processHistory_append, usedIn_append] at few
  -- the first read leaves the attachment in the cache
  obtain ⟨_, same, retains⟩ :=
    retains_run .letterAttachment (getTransientLetterFileLocation serviceId attachmentId) first
  cases List.append_cancel_left (same.symm.trans logged)
  have included : (history reader middle.log).Sublist (processHistory process earlier) := by
    rw [history_since placed free logged]
    refine history_sublist fun entry member => placedMiddle.single read entry ?_
    rw [logged]
    exact List.mem_append_right _ member
  have obtained := (obtained_of_read (finishes_of_hasRead reachedMiddle read)).mono included
  obtain ⟨text, kept⟩ := retains.obtained obtained (few.mono Finset.subset_union_left)
  obtain ⟨object, downloader, rfl, fetched⟩ := (invariant .attachments).caches _ _ _ kept.found
  -- and it stays there
  obtain ⟨_, same, serves⟩ := serves_run kept second
  cases List.append_cancel_left (same.symm.trans grown)
  have answered := (serves few).2
  refine ⟨object, downloader, fetched, answered, fun task outcome fresh finished => ?_⟩
  refine read_of_answered (finishes_of_hasRead reachedAfter finished) fun answer member => answered answer ?_
  rw [history_since placedMiddle fresh grown] at member
  refine (history_sublist fun entry inside => placedAfter.single finished entry ?_).subset member
  rw [grown]
  exact List.mem_append_right _ inside

end Service

section Uninterrupted
variable (setting : Setting K σ Date) (vanishes : Bucket → Prop) (process : Process)
  (serviceId attachmentId : String)

/-- A read that runs without interruption. -/
theorem read_steps (traffic : Traffic) {state : ServiceState TaskId Process} {after : ServiceShared Process}
    {later : List TaskEvent} {outcome : Except DownloadError MemoryFile} (task : TaskId)
    (free : state.tasks task = none)
    (ran : Uninterrupted AttachmentReads.storage process state.shared
      (AttachmentJob.program setting.lib setting.quote (.getAttachmentPdf serviceId attachmentId)) later after
      (.pdf outcome)) :
    Relation.ReflTransGen (SteadyStep setting traffic vanishes process) state
      ⟨after, Function.update state.tasks task (some (hasRead process serviceId attachmentId outcome)),
        state.log ++ later.map (⟨task, process, ·⟩)⟩ := by
  have admitted : traffic.admits .attachment (AttachmentJob.getAttachmentPdf serviceId attachmentId) process :=
    trivial
  have steadily : Uninterrupted (steady vanishes process) process state.shared
      (setting.program .attachment (AttachmentJob.getAttachmentPdf serviceId attachmentId)) later after
      (AttachmentResult.pdf outcome) := ran.answering rfl
  exact steadily.mixed.started free admitted

end Uninterrupted

section InMemory
open InMemoryLibraries ServiceGuarantees

/-- An attachment of one blank page. -/
def blankAttachment (bucket : Bucket) (key : String) : Option S3Object :=
  if bucket = .letterAttachment ∧ key = getTransientLetterFileLocation "service" "attachment" then
    some { filedata := encodePages [blankPage] }
  else none

/-- The attachment is read, and read again. -/
theorem reads_run : ∃ middle after : ServiceState ℕ Unit,
    Relation.ReflTransGen (SteadyStep (greetingSetting libraries) letterTraffic (fun _ => False) ())
      (.initial ⟨blankAttachment, fun _ => .empty⟩) middle ∧
    Relation.ReflTransGen (SteadyStep (greetingSetting libraries) letterTraffic (fun _ => False) ()) middle after ∧
    middle.tasks 0 = some (hasRead () "service" "attachment" (.ok { bytes := encodePages [blankPage] })) ∧
    middle.tasks 1 = none ∧
    after.tasks 1 = some (hasRead () "service" "attachment" (.ok { bytes := encodePages [blankPage] })) ∧
    ∃ earlier later, middle.log = [] ++ earlier ∧ after.log = middle.log ++ later ∧
      usedIn (processHistory () (earlier ++ later)) ⊆
        {(.letterAttachment, getTransientLetterFileLocation "service" "attachment")} := by
  have first := AttachmentReads.first_read libraries id ()
    (⟨blankAttachment, fun _ => .empty⟩ : ServiceShared Unit) "service" "attachment" (LruCache.lookup_empty _)
    (show blankAttachment .letterAttachment (getTransientLetterFileLocation "service" "attachment") = _ from
      if_pos ⟨rfl, rfl⟩)
  have cached (text : String) : (LruCache.lookup (Function.update (fun _ => LruCache.empty) ()
      (LruCache.empty.insert (.letterAttachment, getTransientLetterFileLocation "service" "attachment") text) () :
        LruCache (Bucket × String) String cacheSize)
      (.letterAttachment, getTransientLetterFileLocation "service" "attachment")) = some text := by
    rw [Function.update_self]
    exact LruCache.lookup_insert_self text (LruCache.lookup_empty _) (by decide)
  have second := AttachmentReads.cached_read libraries id ()
    (⟨blankAttachment, _⟩ : ServiceShared Unit)
    "service" "attachment" (cached (encoded { filedata := encodePages [blankPage] }))
  refine ⟨_, _, read_steps _ _ _ _ _ letterTraffic 0 rfl first, read_steps _ _ _ _ _ letterTraffic 1 rfl second,
    rfl, rfl, rfl, _, _, rfl, rfl, ?_⟩
  simp [processHistory, usedIn, Event.used, Event.recalled, Event.downloaded, Event.remembered]

theorem attachment_stays_cached : ∃ (after : ServiceState ℕ Unit) (object : S3Object),
    after.tasks 1 = some (hasRead () "service" "attachment" (.ok { bytes := object.filedata })) ∧
    history 1 after.log = [Event.recalled .letterAttachment
      (getTransientLetterFileLocation "service" "attachment") (some (encoded object))] := by
  obtain ⟨middle, after, first, second, read, free, reread, earlier, later, logged, grown, used⟩ := reads_run
  have few : Few cacheSize .letterAttachment (getTransientLetterFileLocation "service" "attachment")
      (usedIn (processHistory () (earlier ++ later))) := by
    refine Few.mono ?_ used
    simp [Few, cacheSize]
  obtain ⟨object, _, _, _, stays⟩ := attachments_stay_cached
    (greeting_premises lawful fun _ => by simp [blankAttachment]) .refl first second rfl read logged grown few
  obtain ⟨same, answered⟩ := stays 1 _ free reread
  exact ⟨after, object, by rw [reread, same], answered⟩

end InMemory

end TemplatePreview.CachedAttachments
