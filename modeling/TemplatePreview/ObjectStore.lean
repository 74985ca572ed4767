import TemplatePreview.Workers
import TemplatePreview.LruCache

/-! Calls to an object store with named buckets, to a cache in the process of the
caller and to a message queue. A transfer may fail at any time and then changes
nothing; a successful one is atomic. Objects of some buckets may vanish. -/
namespace TemplatePreview.ObjectStore
open Workers

/-- Why a transfer failed. `objectNotFound` is one of the client errors. -/
inductive Failure where
  | objectNotFound
  | clientError
  | other
  deriving DecidableEq, Repr

/-- Text is what the caches of processes hold. -/
inductive Call (Bucket Key Value Text Message : Type) where
  | download (bucket : Bucket) (key : Key)
  | upload (bucket : Bucket) (key : Key) (value : Value)
  | copy (sourceBucket : Bucket) (sourceKey : Key) (targetBucket : Bucket) (targetKey : Key)
  | lookup (bucket : Bucket) (key : Key)
  | remember (bucket : Bucket) (key : Key) (text : Text)
  | attempt
  | send (message : Message)

variable {Bucket Key Value Text Message Process : Type}

/-- `attempt` is a local computation that may raise: it answers whether it
returned. -/
def Call.Answer : Call Bucket Key Value Text Message → Type
  | .download .. => Except Failure Value
  | .upload .. => Except Failure Unit
  | .copy .. => Except Failure Unit
  | .lookup .. => Option Text
  | .remember .. => Unit
  | .attempt => Bool
  | .send _ => Unit

/-- The store, and the cache of each process. -/
structure Shared (Bucket Key Value Text Process : Type) (maxsize : Nat) where
  store : Bucket → Key → Option Value
  caches : Process → LruCache (Bucket × Key) Text maxsize

abbrev Event (Bucket Key Value Text Message : Type) : Type :=
  Workers.Event (Call Bucket Key Value Text Message) Call.Answer

abbrev Action (Bucket Key Value Text Message Result : Type) : Type :=
  Program (Call Bucket Key Value Text Message) Call.Answer Result

/-! ## Single events -/

section Events
variable (bucket : Bucket) (key : Key)

/-- A download with its answer. -/
def Event.downloaded (answer : Except Failure Value) : Event Bucket Key Value Text Message :=
  ⟨.download bucket key, answer⟩

def Event.uploaded (value : Value) (answer : Except Failure Unit) : Event Bucket Key Value Text Message :=
  ⟨.upload bucket key value, answer⟩

def Event.copied (targetBucket : Bucket) (targetKey : Key) (answer : Except Failure Unit) :
    Event Bucket Key Value Text Message :=
  ⟨.copy bucket key targetBucket targetKey, answer⟩

def Event.recalled (answer : Option Text) : Event Bucket Key Value Text Message := ⟨.lookup bucket key, answer⟩

def Event.remembered (text : Text) : Event Bucket Key Value Text Message := ⟨.remember bucket key text, ()⟩

def Event.sent (message : Message) : Event Bucket Key Value Text Message := ⟨.send message, ()⟩

/-- A transfer that failed. -/
def Event.Failed : Event Bucket Key Value Text Message → Prop
  | ⟨.download .., answer⟩ => ∃ failure, answer = .error failure
  | ⟨.upload .., answer⟩ => ∃ failure, answer = .error failure
  | ⟨.copy .., answer⟩ => ∃ failure, answer = .error failure
  | _ => False

/-- A call that writes to a bucket, whether it succeeded or not. -/
def Event.Writes : Event Bucket Key Value Text Message → Prop
  | ⟨.upload .., _⟩ => True
  | ⟨.copy .., _⟩ => True
  | _ => False

def Event.Sends : Event Bucket Key Value Text Message → Prop
  | ⟨.send _, _⟩ => True
  | _ => False

end Events

namespace Event
variable {bucket otherBucket targetBucket : Bucket} {key otherKey targetKey : Key} {value otherValue : Value}
  {answer otherAnswer : Except Failure Value} {done otherDone : Except Failure Unit} {message other : Message}

@[simp] theorem downloaded_inj :
    (downloaded bucket key answer : Event Bucket Key Value Text Message) =
      downloaded otherBucket otherKey otherAnswer ↔
      bucket = otherBucket ∧ key = otherKey ∧ answer = otherAnswer := by
  constructor
  · intro same
    cases same
    exact ⟨rfl, rfl, rfl⟩
  · rintro ⟨rfl, rfl, rfl⟩
    rfl

@[simp] theorem uploaded_inj :
    (uploaded bucket key value done : Event Bucket Key Value Text Message) =
        uploaded otherBucket otherKey otherValue otherDone ↔
      bucket = otherBucket ∧ key = otherKey ∧ value = otherValue ∧ done = otherDone := by
  constructor
  · intro same
    cases same
    exact ⟨rfl, rfl, rfl, rfl⟩
  · rintro ⟨rfl, rfl, rfl, rfl⟩
    rfl

@[simp] theorem sent_inj :
    (sent message : Event Bucket Key Value Text Message) = sent other ↔ message = other := by
  constructor
  · intro same
    cases same
    rfl
  · rintro rfl
    rfl

@[simp] theorem downloaded_ne_uploaded :
    (downloaded bucket key answer : Event Bucket Key Value Text Message) ≠
      uploaded otherBucket otherKey value done := by
  intro same
  cases same

@[simp] theorem downloaded_ne_copied :
    (downloaded bucket key answer : Event Bucket Key Value Text Message) ≠
      copied otherBucket otherKey targetBucket targetKey done := by
  intro same
  cases same

@[simp] theorem downloaded_ne_sent :
    (downloaded bucket key answer : Event Bucket Key Value Text Message) ≠ sent message := by
  intro same
  cases same

@[simp] theorem copied_ne_downloaded :
    (copied otherBucket otherKey targetBucket targetKey done : Event Bucket Key Value Text Message) ≠
      downloaded bucket key answer := by
  intro same
  cases same

@[simp] theorem uploaded_ne_downloaded :
    (uploaded bucket key value done : Event Bucket Key Value Text Message) ≠
      downloaded otherBucket otherKey answer := by
  intro same
  cases same

@[simp] theorem sent_ne_downloaded :
    (sent message : Event Bucket Key Value Text Message) ≠ downloaded bucket key answer := by
  intro same
  cases same

@[simp] theorem writes_downloaded :
    ¬ Writes (downloaded bucket key answer : Event Bucket Key Value Text Message) := id
@[simp] theorem writes_sent : ¬ Writes (sent message : Event Bucket Key Value Text Message) := id

@[simp] theorem failed_downloaded : Failed (downloaded bucket key answer : Event Bucket Key Value Text Message) ↔
    ∃ failure, answer = .error failure := Iff.rfl

@[simp] theorem failed_uploaded : Failed (uploaded bucket key value done : Event Bucket Key Value Text Message) ↔
    ∃ failure, done = .error failure := Iff.rfl

@[simp] theorem failed_copied :
    Failed (copied bucket key targetBucket targetKey done : Event Bucket Key Value Text Message) ↔
      ∃ failure, done = .error failure := Iff.rfl

@[simp] theorem failed_sent : ¬ Failed (sent message : Event Bucket Key Value Text Message) := id
@[simp] theorem sends_downloaded :
    ¬ Sends (downloaded bucket key answer : Event Bucket Key Value Text Message) := id
@[simp] theorem sends_uploaded :
    ¬ Sends (uploaded bucket key value done : Event Bucket Key Value Text Message) := id

@[simp] theorem sends_copied :
    ¬ Sends (copied bucket key targetBucket targetKey done : Event Bucket Key Value Text Message) := id

@[simp] theorem sends_sent : Sends (sent message : Event Bucket Key Value Text Message) := trivial

end Event

variable [DecidableEq Bucket] [DecidableEq Key] [DecidableEq Process] {maxsize : Nat}

/-- The store with one object written or removed. -/
def write (store : Bucket → Key → Option Value) (bucket : Bucket) (key : Key) (value : Option Value) :
    Bucket → Key → Option Value :=
  Function.update store bucket (Function.update (store bucket) key value)

@[simp] theorem write_self (store : Bucket → Key → Option Value) (bucket : Bucket) (key : Key)
    (value : Option Value) : write store bucket key value bucket key = value := by
  simp [write]

theorem write_other (store : Bucket → Key → Option Value) {bucket other : Bucket} {key otherKey : Key}
    (value : Option Value) (different : ¬ (other = bucket ∧ otherKey = key)) :
    write store bucket key value other otherKey = store other otherKey := by
  unfold write
  by_cases same : other = bucket
  · subst same
    rw [Function.update_self, Function.update_of_ne fun eq => different ⟨rfl, eq⟩]
  · rw [Function.update_of_ne same]

theorem write_eq (store : Bucket → Key → Option Value) (bucket other : Bucket) (key otherKey : Key)
    (value : Option Value) :
    write store bucket key value other otherKey =
      if other = bucket ∧ otherKey = key then value else store other otherKey := by
  split
  · rename_i same
    obtain ⟨rfl, rfl⟩ := same
    exact write_self ..
  · rename_i different
    exact write_other store value different

/-- What a bucket holds under a key after an event, when it held something before. -/
def Event.applied (bucket : Bucket) (key : Key) (held : Option Value) :
    Event Bucket Key Value Text Message → Option Value
  | ⟨.upload otherBucket otherKey value, .ok ()⟩ =>
    if bucket = otherBucket ∧ key = otherKey then some value else held
  | _ => held

/-- The object that was most recently uploaded under a key, or the one that was
there initially. -/
def latest (initial : Bucket → Key → Option Value) (bucket : Bucket) (key : Key)
    (events : List (Event Bucket Key Value Text Message)) : Option Value :=
  events.foldl (Event.applied bucket key) (initial bucket key)

theorem latest_snoc (initial : Bucket → Key → Option Value) (bucket : Bucket) (key : Key)
    (events : List (Event Bucket Key Value Text Message)) (event : Event Bucket Key Value Text Message) :
    latest initial bucket key (events ++ [event]) =
      event.applied bucket key (latest initial bucket key events) := by
  simp [latest]

theorem Event.applied_of_ne {bucket : Bucket} {key : Key} {event : Event Bucket Key Value Text Message}
    (quiet : ∀ value, event ≠ Event.uploaded bucket key value (.ok ())) (held : Option Value) :
    event.applied bucket key held = held := by
  unfold Event.applied
  split
  · rename_i value
    exact if_neg fun ⟨sameBucket, sameKey⟩ => quiet value (by subst sameBucket sameKey; rfl)
  · rfl

/-- Only uploads under the key change what was uploaded there last. -/
theorem latest_of_quiet {initial : Bucket → Key → Option Value} {bucket : Bucket} {key : Key}
    {earlier later : List (Event Bucket Key Value Text Message)}
    (quiet : ∀ event ∈ later, ∀ value, event ≠ Event.uploaded bucket key value (.ok ())) :
    latest initial bucket key (earlier ++ later) = latest initial bucket key earlier := by
  rw [latest, List.foldl_append, ← latest]
  generalize latest initial bucket key earlier = held
  induction later with
  | nil => rfl
  | cons event rest ih =>
    rw [List.foldl_cons, Event.applied_of_ne (quiet event (by simp))]
    exact ih fun other member => quiet other (List.mem_cons_of_mem _ member)

/-- How calls are answered. -/
inductive Answers (shared : Shared Bucket Key Value Text Process maxsize) (process : Process) :
    (call : Call Bucket Key Value Text Message) → call.Answer →
      Shared Bucket Key Value Text Process maxsize → Prop where
  | downloaded {bucket : Bucket} {key : Key} {value : Value}
      (held : shared.store bucket key = some value) :
      Answers shared process (.download bucket key) (.ok value) shared
  | downloadFailed {bucket : Bucket} {key : Key} (failure : Failure) :
      Answers shared process (.download bucket key) (.error failure) shared
  | uploaded {bucket : Bucket} {key : Key} {value : Value} :
      Answers shared process (.upload bucket key value) (.ok ())
        { shared with store := write shared.store bucket key (some value) }
  | uploadFailed {bucket : Bucket} {key : Key} {value : Value} (failure : Failure) :
      Answers shared process (.upload bucket key value) (.error failure) shared
  | copied {sourceBucket targetBucket : Bucket} {sourceKey targetKey : Key} {value : Value}
      (held : shared.store sourceBucket sourceKey = some value) :
      Answers shared process (.copy sourceBucket sourceKey targetBucket targetKey) (.ok ())
        { shared with store := write shared.store targetBucket targetKey (some value) }
  | copyFailed {sourceBucket targetBucket : Bucket} {sourceKey targetKey : Key} (failure : Failure) :
      Answers shared process (.copy sourceBucket sourceKey targetBucket targetKey) (.error failure) shared
  | recalled {bucket : Bucket} {key : Key} {text : Text}
      (cached : (shared.caches process).lookup (bucket, key) = some text) :
      Answers shared process (.lookup bucket key) (some text)
        { shared with
          caches := Function.update shared.caches process ((shared.caches process).touch (bucket, key)) }
  | missed {bucket : Bucket} {key : Key} (absent : (shared.caches process).lookup (bucket, key) = none) :
      Answers shared process (.lookup bucket key) none shared
  | remembered {bucket : Bucket} {key : Key} {text : Text} :
      Answers shared process (.remember bucket key text) ()
        { shared with
          caches := Function.update shared.caches process
            ((shared.caches process).insert (bucket, key) text) }
  | attempted (returned : Bool) : Answers shared process .attempt returned shared
  | sent {message : Message} : Answers shared process (.send message) () shared

/-- Objects of some buckets vanish, and a process may be replaced by a new one
with an empty cache. -/
inductive Drifts (vanishes : Bucket → Prop) (shared : Shared Bucket Key Value Text Process maxsize) :
    Shared Bucket Key Value Text Process maxsize → Prop where
  | vanished {bucket : Bucket} {key : Key} (allowed : vanishes bucket) :
      Drifts vanishes shared { shared with store := write shared.store bucket key none }
  | restarted {process : Process} :
      Drifts vanishes shared { shared with caches := Function.update shared.caches process .empty }

/-- The store, the caches and the queue as one service. -/
def service (vanishes : Bucket → Prop) :
    Service (Shared Bucket Key Value Text Process maxsize) Process
      (Call Bucket Key Value Text Message) Call.Answer where
  answers := Answers
  drifts := Drifts vanishes

/-- Every call can be answered. -/
theorem answers_exist (shared : Shared Bucket Key Value Text Process maxsize) (process : Process)
    (call : Call Bucket Key Value Text Message) :
    ∃ answer after, Answers shared process call answer after := by
  cases call with
  | download bucket key => exact ⟨_, _, .downloadFailed .clientError⟩
  | upload bucket key value => exact ⟨_, _, .uploaded⟩
  | copy sourceBucket sourceKey targetBucket targetKey => exact ⟨_, _, .copyFailed .clientError⟩
  | lookup bucket key =>
    cases found : (shared.caches process).lookup (bucket, key) with
    | none => exact ⟨_, _, .missed found⟩
    | some text => exact ⟨_, _, .recalled found⟩
  | remember bucket key text => exact ⟨_, _, .remembered⟩
  | attempt => exact ⟨_, _, .attempted true⟩
  | send message => exact ⟨_, _, .sent⟩

/-! ## Single calls -/

def download (bucket : Bucket) (key : Key) : Action Bucket Key Value Text Message (Except Failure Value) :=
  Program.request (Call.download bucket key)

def upload (bucket : Bucket) (key : Key) (value : Value) :
    Action Bucket Key Value Text Message (Except Failure Unit) :=
  Program.request (Call.upload bucket key value)

def copy (sourceBucket : Bucket) (sourceKey : Key) (targetBucket : Bucket) (targetKey : Key) :
    Action Bucket Key Value Text Message (Except Failure Unit) :=
  Program.request (Call.copy sourceBucket sourceKey targetBucket targetKey)

def lookup (bucket : Bucket) (key : Key) : Action Bucket Key Value Text Message (Option Text) :=
  Program.request (Call.lookup bucket key)

def remember (bucket : Bucket) (key : Key) (text : Text) : Action Bucket Key Value Text Message Unit :=
  Program.request (Call.remember bucket key text)

def attempt : Action Bucket Key Value Text Message Bool := Program.request Call.attempt

def send (message : Message) : Action Bucket Key Value Text Message Unit := Program.request (Call.send message)

/-! ## Rules for contracts -/

section Rules
omit [DecidableEq Bucket] [DecidableEq Key] [DecidableEq Process]
variable {contract : Contract (Call Bucket Key Value Text Message) Call.Answer}
  {post : List (Event Bucket Key Value Text Message) → β → Prop}
  {before : List (Event Bucket Key Value Text Message)} {bucket : Bucket} {key : Key}

theorem keeps_download {next : Except Failure Value → Action Bucket Key Value Text Message β}
    (asked : contract.asks before (.download bucket key))
    (failed : ∀ failure, contract.Keeps post (before ++ [Event.downloaded bucket key (.error failure)])
      (next (.error failure)))
    (returned : ∀ value, contract.relies (.download bucket key) (Except.ok value) →
      contract.Keeps post (before ++ [Event.downloaded bucket key (.ok value)]) (next (.ok value))) :
    contract.Keeps post before (download bucket key >>= next) := by
  apply Contract.keeps_request asked
  intro answer relied
  cases answer with
  | error failure => exact failed failure
  | ok value => exact returned value relied

theorem keeps_upload {value : Value} {next : Except Failure Unit → Action Bucket Key Value Text Message β}
    (asked : contract.asks before (.upload bucket key value))
    (failed : ∀ failure, contract.Keeps post (before ++ [Event.uploaded bucket key value (.error failure)])
      (next (.error failure)))
    (returned : contract.Keeps post (before ++ [Event.uploaded bucket key value (.ok ())]) (next (.ok ()))) :
    contract.Keeps post before (upload bucket key value >>= next) := by
  apply Contract.keeps_request asked
  intro answer _
  cases answer with
  | error failure => exact failed failure
  | ok done => exact returned

theorem keeps_copy {targetBucket : Bucket} {targetKey : Key}
    {next : Except Failure Unit → Action Bucket Key Value Text Message β}
    (asked : contract.asks before (.copy bucket key targetBucket targetKey))
    (failed : ∀ failure, contract.Keeps post
      (before ++ [Event.copied bucket key targetBucket targetKey (.error failure)]) (next (.error failure)))
    (returned : contract.Keeps post (before ++ [Event.copied bucket key targetBucket targetKey (.ok ())])
      (next (.ok ()))) :
    contract.Keeps post before (copy bucket key targetBucket targetKey >>= next) := by
  apply Contract.keeps_request asked
  intro answer _
  cases answer with
  | error failure => exact failed failure
  | ok done => exact returned

theorem keeps_send {message : Message} {next : Unit → Action Bucket Key Value Text Message β}
    (asked : contract.asks before (.send message))
    (returned : contract.Keeps post (before ++ [Event.sent message]) (next ())) :
    contract.Keeps post before (send message >>= next) :=
  Contract.keeps_request asked fun _ _ => returned

theorem keeps_lookup {next : Option Text → Action Bucket Key Value Text Message β}
    (asked : contract.asks before (.lookup bucket key))
    (hit : ∀ text, contract.relies (.lookup bucket key) (some text) →
      contract.Keeps post (before ++ [Event.recalled bucket key (some text)]) (next (some text)))
    (missed : contract.Keeps post (before ++ [Event.recalled bucket key none]) (next none)) :
    contract.Keeps post before (lookup bucket key >>= next) := by
  apply Contract.keeps_request asked
  intro answer relied
  cases answer with
  | none => exact missed
  | some text => exact hit text relied

theorem keeps_remember {text : Text} {next : Unit → Action Bucket Key Value Text Message β}
    (asked : contract.asks before (.remember bucket key text))
    (returned : contract.Keeps post (before ++ [Event.remembered bucket key text]) (next ())) :
    contract.Keeps post before (remember bucket key text >>= next) :=
  Contract.keeps_request asked fun _ _ => returned

theorem keeps_attempt {next : Bool → Action Bucket Key Value Text Message β}
    (asked : contract.asks before .attempt)
    (answered : ∀ returned, contract.Keeps post (before ++ [⟨.attempt, returned⟩]) (next returned)) :
    contract.Keeps post before (attempt >>= next) :=
  Contract.keeps_request asked fun returned _ => answered returned

end Rules

end TemplatePreview.ObjectStore
