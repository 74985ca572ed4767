import Mathlib.Data.List.Induction
import TemplatePreview.ObjectStore
import TemplatePreview.Mixtures

/-! What calls leave alone, and where the entries of caches come from. Jobs that use
different buckets share a store and the caches of their processes; a cache may
forget an entry of one bucket to make room for another, but never adds any. -/
namespace TemplatePreview.ObjectStore
open Workers

variable {Bucket Key Value Text Message Process TaskId : Type} {maxsize : Nat}

/-- A call may change the objects of a bucket or add entries for them to a cache. -/
def Call.Changes (bucket : Bucket) : Call Bucket Key Value Text Message → Prop
  | .upload other .. => other = bucket
  | .copy _ _ target _ => target = bucket
  | .remember other .. => other = bucket
  | _ => False

section Effects
variable [DecidableEq Bucket] [DecidableEq Key] [DecidableEq Process]
  {shared after : Shared Bucket Key Value Text Process maxsize} {bucket : Bucket}

/-- A bucket and the entries for its objects have lost something at most. -/
structure Shrinks (bucket : Bucket) (before after : Shared Bucket Key Value Text Process maxsize) : Prop where
  store : ∀ key value, after.store bucket key = some value → before.store bucket key = some value
  caches : ∀ process key text, (after.caches process).lookup (bucket, key) = some text →
    (before.caches process).lookup (bucket, key) = some text

/-- A bucket holds the same objects, and no entry was added for them. -/
structure Unchanged (bucket : Bucket) (before after : Shared Bucket Key Value Text Process maxsize) : Prop
    extends Shrinks bucket before after where
  same : after.store bucket = before.store bucket

omit [DecidableEq Process] in
theorem Unchanged.of_store (caches : ∀ process key text, (after.caches process).lookup (bucket, key) = some text →
      (shared.caches process).lookup (bucket, key) = some text)
    (same : after.store bucket = shared.store bucket) : Unchanged bucket shared after :=
  ⟨⟨fun key _ found => congrFun same key ▸ found, caches⟩, same⟩

omit [DecidableEq Process] in
theorem Unchanged.refl (bucket : Bucket) (shared : Shared Bucket Key Value Text Process maxsize) :
    Unchanged bucket shared shared := .of_store (fun _ _ _ found => found) rfl

theorem write_bucket (store : Bucket → Key → Option Value) {other : Bucket} (key : Key)
    (value : Option Value) (different : other ≠ bucket) : write store other key value bucket = store bucket :=
  Function.update_of_ne (Ne.symm different) ..

/-- A call changes no bucket but its own. -/
theorem Answers.unchanged {process : Process} {call : Call Bucket Key Value Text Message} {answer : call.Answer}
    (answered : Answers shared process call answer after) (quiet : ¬ call.Changes bucket) :
    Unchanged bucket shared after := by
  cases answered with
  | uploaded => exact .of_store (fun _ _ _ found => found) (write_bucket _ _ _ quiet)
  | copied => exact .of_store (fun _ _ _ found => found) (write_bucket _ _ _ quiet)
  | recalled =>
    refine .of_store (fun other key text found => ?_) rfl
    by_cases same : other = process
    · subst same
      simpa [LruCache.lookup_touch] using found
    · simpa [same] using found
  | remembered =>
    refine .of_store (fun other key text found => ?_) rfl
    by_cases same : other = process
    · subst same
      simp only [Function.update_self] at found
      rcases LruCache.lookup_insert found with ⟨⟨⟩, _⟩ | before
      · exact absurd rfl quiet
      · exact before
    · simpa [same] using found
  | _ => exact .refl _ _

/-- Whatever the shared state does by itself, it only loses objects and entries. -/
theorem Drifts.shrinks {vanishes : Bucket → Prop} (moved : Drifts vanishes shared after) (bucket : Bucket) :
    Shrinks bucket shared after := by
  cases moved with
  | @vanished other key =>
    refine ⟨fun otherKey value found => ?_, fun _ _ _ found => found⟩
    by_cases same : bucket = other ∧ otherKey = key
    · obtain ⟨rfl, rfl⟩ := same
      simp at found
    · dsimp only at found
      rwa [write_other _ _ same] at found
  | @restarted process =>
    refine ⟨fun _ _ found => found, fun other key text found => ?_⟩
    by_cases same : other = process
    · subst same
      simp at found
    · simpa [same] using found

/-- Objects stay in a bucket from which none vanish. -/
theorem Drifts.unchanged {vanishes : Bucket → Prop} (moved : Drifts vanishes shared after)
    (stays : ¬ vanishes bucket) : Unchanged bucket shared after := by
  refine ⟨moved.shrinks bucket, ?_⟩
  cases moved with
  | vanished allowed => exact write_bucket _ _ _ fun same => stays (same ▸ allowed)
  | restarted => rfl

end Effects

/-! ## Where cached entries come from -/

section Provenance
variable [DecidableEq Bucket] [DecidableEq Key]

/-- What is held was there initially or was uploaded. -/
theorem latest_eq_some {initial : Bucket → Key → Option Value} {bucket : Bucket} {key : Key} {value : Value}
    {events : List (Event Bucket Key Value Text Message)} (held : latest initial bucket key events = some value) :
    initial bucket key = some value ∨ Event.uploaded bucket key value (.ok ()) ∈ events := by
  induction events using List.reverseRecOn with
  | nil => exact .inl held
  | append_singleton earlier event ih =>
    by_cases quiet : ∀ other, event ≠ Event.uploaded bucket key other (.ok ())
    · rw [latest_snoc, Event.applied_of_ne quiet] at held
      exact (ih held).imp_right (List.mem_append_left _)
    · push Not at quiet
      obtain ⟨other, rfl⟩ := quiet
      rw [latest_snoc, Event.uploaded, Event.applied, if_pos ⟨rfl, rfl⟩] at held
      cases held
      exact .inr (List.mem_append_right _ (List.mem_singleton_self _))

abbrev Log (TaskId Process Bucket Key Value Text Message : Type) : Type :=
  List (Entry TaskId Process (Call Bucket Key Value Text Message) Call.Answer)

/-- A task has downloaded an object, which was the latest upload at that time. -/
def Fetched (initial : Bucket → Key → Option Value) (log : Log TaskId Process Bucket Key Value Text Message)
    (task : TaskId) (process : Process) (bucket : Bucket) (key : Key) (object : Value) : Prop :=
  ∃ earlier later, log = earlier ++ ⟨task, process, Event.downloaded bucket key (.ok object)⟩ :: later ∧
    latest initial bucket key (earlier.map Entry.event) = some object

/-- A text encodes what some task of a process has downloaded. -/
def Remembered (encode : Value → Text) (initial : Bucket → Key → Option Value)
    (log : Log TaskId Process Bucket Key Value Text Message) (process : Process) (bucket : Bucket) (key : Key)
    (text : Text) : Prop :=
  ∃ object task, text = encode object ∧ Fetched initial log task process bucket key object

/-- A bucket holds what was uploaded last; all that processes have read from it or
remember of it was downloaded by them. -/
structure Provenance (encode : Value → Text) (initial : Bucket → Key → Option Value) (bucket : Bucket)
    (shared : Shared Bucket Key Value Text Process maxsize)
    (log : Log TaskId Process Bucket Key Value Text Message) : Prop where
  store : ∀ key, shared.store bucket key = latest initial bucket key (log.map Entry.event)
  caches : ∀ process key text, (shared.caches process).lookup (bucket, key) = some text →
    Remembered encode initial log process bucket key text
  downloads : ∀ task process key object, ⟨task, process, Event.downloaded bucket key (.ok object)⟩ ∈ log →
    Fetched initial log task process bucket key object
  recalls : ∀ task process key text, ⟨task, process, Event.recalled bucket key (some text)⟩ ∈ log →
    Remembered encode initial log process bucket key text

/-- A call may change a bucket by uploads only, and remember of it only what its task
has downloaded. -/
def Call.Faithful (encode : Value → Text) (bucket : Bucket) (history : List (Event Bucket Key Value Text Message)) :
    Call Bucket Key Value Text Message → Prop
  | .copy _ _ target _ => target ≠ bucket
  | .remember other key text => other = bucket →
    ∃ object, Event.downloaded bucket key (.ok object) ∈ history ∧ text = encode object
  | _ => True

variable {encode : Value → Text} {initial : Bucket → Key → Option Value} {bucket : Bucket}
  {log : Log TaskId Process Bucket Key Value Text Message}
  {shared after : Shared Bucket Key Value Text Process maxsize}

omit [DecidableEq Bucket] [DecidableEq Key] in
/-- A call that leaves a bucket alone is faithful to it. -/
theorem Call.Faithful.of_unchanging {history : List (Event Bucket Key Value Text Message)}
    {call : Call Bucket Key Value Text Message} (quiet : ¬ call.Changes bucket) :
    call.Faithful encode bucket history := by
  cases call with
  | copy => exact quiet
  | remember other key text => exact fun same => absurd same quiet
  | _ => trivial

theorem Fetched.later {task : TaskId} {process : Process} {key : Key} {object : Value}
    (fetched : Fetched initial log task process bucket key object)
    (more : Log TaskId Process Bucket Key Value Text Message) :
    Fetched initial (log ++ more) task process bucket key object := by
  obtain ⟨earlier, later, rfl, held⟩ := fetched
  exact ⟨earlier, later ++ more, by simp, held⟩

theorem Remembered.later {process : Process} {key : Key} {text : Text}
    (remembered : Remembered encode initial log process bucket key text)
    (more : Log TaskId Process Bucket Key Value Text Message) :
    Remembered encode initial (log ++ more) process bucket key text := by
  obtain ⟨object, task, same, fetched⟩ := remembered
  exact ⟨object, task, same, fetched.later more⟩

/-- What holds of the object that was there and of all that were uploaded holds of
whatever the bucket holds, and of all that was downloaded from it. -/
theorem Provenance.holds {holds : Value → Prop} (provenance : Provenance encode initial bucket shared log) {key : Key}
    (initially : ∀ value, initial bucket key = some value → holds value)
    (uploads : ∀ entry ∈ log, ∀ value, entry.event = Event.uploaded bucket key value (.ok ()) → holds value) :
    (∀ value, shared.store bucket key = some value → holds value) ∧
      ∀ task process value, Fetched initial log task process bucket key value → holds value := by
  have held {earlier : Log TaskId Process Bucket Key Value Text Message} (included : ∀ entry ∈ earlier, entry ∈ log)
      {value : Value} (found : latest initial bucket key (earlier.map Entry.event) = some value) : holds value := by
    rcases latest_eq_some found with before | uploaded
    · exact initially value before
    · obtain ⟨entry, member, same⟩ := List.mem_map.mp uploaded
      exact uploads entry (included entry member) value same
  constructor
  · intro value found
    rw [provenance.store] at found
    exact held (fun _ member => member) found
  · rintro task process value ⟨earlier, later, rfl, found⟩
    exact held (fun _ member => List.mem_append_left _ member) found

/-- An event keeps the provenance of a bucket when it uploads what it says, answers
from the store and the cache, and adds no entry but for what was downloaded. -/
theorem Provenance.event (provenance : Provenance encode initial bucket shared log) {task : TaskId}
    {process : Process} {event : Event Bucket Key Value Text Message}
    (store : ∀ key, after.store bucket key = event.applied bucket key (shared.store bucket key))
    (caches : ∀ other key text, (after.caches other).lookup (bucket, key) = some text →
      (shared.caches other).lookup (bucket, key) = some text ∨
        Remembered encode initial log other bucket key text)
    (download : ∀ key object, event = Event.downloaded bucket key (.ok object) →
      shared.store bucket key = some object)
    (cacheRead : ∀ key text, event = Event.recalled bucket key (some text) →
      (shared.caches process).lookup (bucket, key) = some text) :
    Provenance encode initial bucket after (log ++ [⟨task, process, event⟩]) where
  store key := by
    rw [store key, provenance.store key, List.map_append]
    exact (latest_snoc ..).symm
  caches other key text found := by
    rcases caches other key text found with before | remembered
    · exact (provenance.caches _ _ _ before).later _
    · exact remembered.later _
  downloads other otherProcess key object member := by
    rcases List.mem_append.mp member with inside | last
    · exact (provenance.downloads _ _ _ _ inside).later _
    · cases List.mem_singleton.mp last
      exact ⟨log, [], rfl, (provenance.store key).symm.trans (download key object rfl)⟩
  recalls other otherProcess key text member := by
    rcases List.mem_append.mp member with inside | last
    · exact (provenance.recalls _ _ _ _ inside).later _
    · cases List.mem_singleton.mp last
      exact (provenance.caches _ _ _ (cacheRead key text rfl)).later _

end Provenance

section Answering
variable [DecidableEq Bucket] [DecidableEq Key] [DecidableEq Process] [DecidableEq TaskId]
  {encode : Value → Text} {initial : Bucket → Key → Option Value} {bucket : Bucket}
  {log : Log TaskId Process Bucket Key Value Text Message}
  {shared after : Shared Bucket Key Value Text Process maxsize}

/-- Faithful calls keep the provenance of a bucket. -/
theorem Provenance.answer (provenance : Provenance encode initial bucket shared log) {task : TaskId}
    {process : Process} {call : Call Bucket Key Value Text Message} {answer : call.Answer}
    (single : ∀ entry ∈ log, entry.task = task → entry.process = process)
    (faithful : call.Faithful encode bucket (history task log))
    (answered : Answers shared process call answer after) :
    Provenance encode initial bucket after (log ++ [⟨task, process, call, answer⟩]) := by
  have kept (quiet : ¬ call.Changes bucket) : ∀ other key text,
      (after.caches other).lookup (bucket, key) = some text →
      (shared.caches other).lookup (bucket, key) = some text ∨
        Remembered encode initial log other bucket key text :=
    fun other key text found => .inl ((answered.unchanged quiet).caches other key text found)
  cases answered with
  | @downloaded other key value held =>
    refine provenance.event (fun _ => rfl) (kept id) ?_ ?_
    · rintro _ _ ⟨⟩
      exact held
    · rintro _ _ ⟨⟩
  | downloadFailed failure => refine provenance.event (fun _ => rfl) (kept id) ?_ ?_ <;> rintro _ _ ⟨⟩
  | @uploaded other key value =>
    refine provenance.event (fun _ => write_eq ..) (fun _ _ _ => .inl) ?_ ?_ <;> rintro _ _ ⟨⟩
  | uploadFailed failure => refine provenance.event (fun _ => rfl) (fun _ _ _ => .inl) ?_ ?_ <;> rintro _ _ ⟨⟩
  | @copied source target sourceKey targetKey value held =>
    refine provenance.event (fun key => ?_) (kept faithful) ?_ ?_
    · exact write_other _ _ fun both => faithful both.1.symm
    all_goals rintro _ _ ⟨⟩
  | copyFailed failure => refine provenance.event (fun _ => rfl) (fun _ _ _ => .inl) ?_ ?_ <;> rintro _ _ ⟨⟩
  | @recalled other key text cached =>
    refine provenance.event (fun _ => rfl) (kept id) ?_ ?_
    · rintro _ _ ⟨⟩
    · rintro _ _ ⟨⟩
      exact cached
  | missed absent => refine provenance.event (fun _ => rfl) (kept id) ?_ ?_ <;> rintro _ _ ⟨⟩
  | @remembered other key text =>
    refine provenance.event (fun _ => rfl) (fun reader otherKey cachedText found => ?_) ?_ ?_
    · by_cases same : reader = process
      · subst same
        simp only [Function.update_self] at found
        rcases LruCache.lookup_insert found with ⟨⟨⟩, rfl⟩ | before
        · obtain ⟨object, downloaded, rfl⟩ := faithful rfl
          obtain ⟨origin, inLog⟩ := mem_history.mp downloaded
          cases single _ inLog rfl
          exact .inr ⟨object, task, rfl, provenance.downloads _ _ _ _ inLog⟩
        · exact .inl before
      · exact .inl (by simpa [same] using found)
    all_goals rintro _ _ ⟨⟩
  | attempted | sent => refine provenance.event (fun _ => rfl) (kept id) ?_ ?_ <;> rintro _ _ ⟨⟩

omit [DecidableEq TaskId] in
/-- Nothing that happens by itself changes the provenance of a bucket from which no
object vanishes. -/
theorem Provenance.drift {vanishes : Bucket → Prop} (provenance : Provenance encode initial bucket shared log)
    (stays : ¬ vanishes bucket) (moved : Drifts vanishes shared after) :
    Provenance encode initial bucket after log where
  store key := (congrFun (moved.unchanged stays).same key).trans (provenance.store key)
  caches process key text found := provenance.caches process key text ((moved.shrinks bucket).caches _ _ _ found)
  downloads := provenance.downloads
  recalls := provenance.recalls

omit [DecidableEq Process] [DecidableEq TaskId] in
/-- Nothing has been read or remembered at first. -/
theorem Provenance.nil :
    Provenance encode initial bucket (⟨initial, fun _ => .empty⟩ : Shared Bucket Key Value Text Process maxsize)
      ([] : Log TaskId Process Bucket Key Value Text Message) where
  store _ := rfl
  caches _ _ _ found := by simp at found
  downloads _ _ _ _ member := by cases member
  recalls _ _ _ _ member := by cases member

end Answering

/-! ## What a bucket may hold -/

section Conformity
variable [DecidableEq Bucket] [DecidableEq Key] [DecidableEq Process]

/-- Whatever a bucket holds under a key, and whatever was downloaded or is remembered of
it, is allowed there. -/
structure Conforms (encode : Value → Text) (allowed : Key → Value → Prop) (bucket : Bucket)
    (shared : Shared Bucket Key Value Text Process maxsize)
    (log : Log TaskId Process Bucket Key Value Text Message) : Prop where
  store : ∀ key value, shared.store bucket key = some value → allowed key value
  caches : ∀ process key text, (shared.caches process).lookup (bucket, key) = some text →
    ∃ value, allowed key value ∧ text = encode value
  downloads : ∀ entry ∈ log, ∀ key value, entry.event = Event.downloaded bucket key (.ok value) → allowed key value

/-- A call may upload to a bucket and remember of it what is allowed there. -/
def Call.Conforming (encode : Value → Text) (allowed : Key → Value → Prop) (bucket : Bucket) :
    Call Bucket Key Value Text Message → Prop
  | .upload other key value => other = bucket → allowed key value
  | .copy _ _ target _ => target ≠ bucket
  | .remember other key text => other = bucket → ∃ value, allowed key value ∧ text = encode value
  | _ => True

/-- Nothing that was uploaded to a bucket is missing from it. -/
def Present (bucket : Bucket) (shared : Shared Bucket Key Value Text Process maxsize)
    (log : Log TaskId Process Bucket Key Value Text Message) : Prop :=
  ∀ entry ∈ log, ∀ key value, entry.event = Event.uploaded bucket key value (.ok ()) →
    (shared.store bucket key).isSome

variable {encode : Value → Text} {allowed : Key → Value → Prop} {bucket : Bucket} {vanishes : Bucket → Prop}
  {log : Log TaskId Process Bucket Key Value Text Message}
  {shared after : Shared Bucket Key Value Text Process maxsize}

omit [DecidableEq Process] in
theorem Conforms.shrinks (conforms : Conforms encode allowed bucket shared log)
    (shrinks : Shrinks bucket shared after) :
    Conforms encode allowed bucket after log where
  store key value found := conforms.store key value (shrinks.store key value found)
  caches process key text found := conforms.caches process key text (shrinks.caches process key text found)
  downloads := conforms.downloads

omit [DecidableEq Process] in
theorem Conforms.nil {initial : Bucket → Key → Option Value}
    (initially : ∀ key value, initial bucket key = some value → allowed key value) :
    Conforms encode allowed bucket (⟨initial, fun _ => .empty⟩ : Shared Bucket Key Value Text Process maxsize)
      ([] : Log TaskId Process Bucket Key Value Text Message) where
  store := initially
  caches _ _ _ found := by simp at found
  downloads _ member := by cases member

/-- Conforming calls leave in a bucket what is allowed there. -/
theorem Conforms.kept (conforms : Conforms encode allowed bucket shared log) {process : Process}
    {call : Call Bucket Key Value Text Message} {answer : call.Answer}
    (conforming : call.Conforming encode allowed bucket) (answered : Answers shared process call answer after) :
    Conforms encode allowed bucket after log := by
  by_cases changes : call.Changes bucket
  · cases answered with
    | @uploaded other key value =>
      refine ⟨fun otherKey held found => ?_, conforms.caches, conforms.downloads⟩
      dsimp only at found
      rw [write_eq] at found
      split_ifs at found with same
      · obtain ⟨rfl, rfl⟩ := same
        cases found
        exact conforming rfl
      · exact conforms.store _ _ found
    | @remembered other key text =>
      refine ⟨conforms.store, fun reader otherKey cached found => ?_, conforms.downloads⟩
      by_cases same : reader = process
      · subst same
        simp only [Function.update_self] at found
        rcases LruCache.lookup_insert found with ⟨⟨⟩, rfl⟩ | before
        · exact conforming rfl
        · exact conforms.caches _ _ _ before
      · exact conforms.caches _ _ _ (by simpa [same] using found)
    | uploadFailed => exact conforms
    | copied | copyFailed => exact absurd changes conforming
    | _ => exact changes.elim
  · exact conforms.shrinks (answered.unchanged changes).toShrinks

/-- What is downloaded is allowed as well. -/
theorem Conforms.answer (conforms : Conforms encode allowed bucket shared log) {task : TaskId} {process : Process}
    {call : Call Bucket Key Value Text Message} {answer : call.Answer}
    (conforming : call.Conforming encode allowed bucket) (answered : Answers shared process call answer after) :
    Conforms encode allowed bucket after (log ++ [⟨task, process, call, answer⟩]) := by
  have kept := conforms.kept conforming answered
  refine ⟨kept.store, kept.caches, fun entry member key value downloaded => ?_⟩
  rcases List.mem_append.mp member with inside | last
  · exact conforms.downloads entry inside key value downloaded
  · cases List.mem_singleton.mp last
    cases answered with
    | downloaded held =>
      cases downloaded
      exact conforms.store _ _ held
    | _ => cases downloaded

/-- No answer removes an object. -/
theorem Answers.holds {process : Process} {call : Call Bucket Key Value Text Message} {answer : call.Answer}
    (answered : Answers shared process call answer after) {key : Key} (held : (shared.store bucket key).isSome) :
    (after.store bucket key).isSome := by
  cases answered with
  | uploaded | copied =>
    dsimp only
    rw [write_eq]
    split
    · rfl
    · exact held
  | _ => exact held

theorem Present.answer (present : Present bucket shared log) {task : TaskId} {process : Process}
    {call : Call Bucket Key Value Text Message} {answer : call.Answer}
    (answered : Answers shared process call answer after) :
    Present bucket after (log ++ [⟨task, process, call, answer⟩]) := by
  intro entry member key value uploaded
  rcases List.mem_append.mp member with inside | last
  · exact answered.holds (present entry inside key value uploaded)
  · cases List.mem_singleton.mp last
    cases answered with
    | uploaded =>
      cases uploaded
      simp
    | _ => cases uploaded

theorem Present.drift (present : Present bucket shared log) (stays : ¬ vanishes bucket)
    (moved : Drifts vanishes shared after) : Present bucket after log := by
  intro entry member key value uploaded
  rw [(moved.unchanged stays).same]
  exact present entry member key value uploaded

end Conformity

end TemplatePreview.ObjectStore
