import TemplatePreview.Mixtures
import TemplatePreview.Footprints
import Mathlib.Data.Finset.Card

/-! How long a least recently used cache keeps a key: as long as fewer other keys were
used since than it has room for. In the processes of a system this holds whatever the
processes are running, between two restarts. -/
namespace TemplatePreview

namespace LruCache
variable {Key Value : Type} [DecidableEq Key] {maxsize : Nat} {cache : LruCache Key Value maxsize} {key : Key}
  {value : Value} {since : Finset Key}

/-- The key is cached with a value, and all entries that are newer were used since. -/
def Kept (cache : LruCache Key Value maxsize) (key : Key) (value : Value) (since : Finset Key) : Prop :=
  ∃ newer older, cache.entries = newer ++ (key, value) :: older ∧ ∀ entry ∈ newer, entry.1 ∈ since

theorem Kept.found (kept : cache.Kept key value since) : cache.lookup key = some value := by
  obtain ⟨newer, older, same, _⟩ := kept
  exact lookup_of_mem (by simp [same])

theorem kept_touch_self (found : cache.lookup key = some value) (since : Finset Key) :
    (cache.touch key).Kept key value since := by
  have member : (key, value) ∈ cache.entries.filter fun entry => entry.1 = key := by
    simpa using mem_of_lookup found
  cases same : cache.entries.filter fun entry => entry.1 = key with
  | nil =>
    rw [same] at member
    cases member
  | cons entry rest =>
    have first : entry ∈ cache.entries.filter fun entry => entry.1 = key := same ▸ List.mem_cons_self
    obtain ⟨own, held⟩ := entry
    have inside := (List.mem_filter.mp first).1
    obtain rfl : own = key := by simpa using (List.mem_filter.mp first).2
    cases (lookup_of_mem inside).symm.trans found
    exact ⟨[], _, congrArg (· ++ _) same, by simp⟩

/-- Using another key puts its entry before. -/
theorem Kept.touch (kept : cache.Kept key value since) (other : Key) :
    (cache.touch other).Kept key value (since ∪ {other}) := by
  by_cases same : other = key
  · subst same
    exact kept_touch_self kept.found _
  · obtain ⟨newer, older, entries, used⟩ := kept
    refine ⟨cache.entries.filter (fun entry => entry.1 = other) ++ newer.filter (fun entry => ¬ entry.1 = other),
      older.filter (fun entry => ¬ entry.1 = other), ?_, ?_⟩
    · simp [LruCache.touch, entries, List.filter_append, Ne.symm same]
    · intro entry member
      rcases List.mem_append.mp member with last | before
      · obtain rfl : entry.1 = other := by simpa using (List.mem_filter.mp last).2
        exact Finset.mem_union_right _ (Finset.mem_singleton_self _)
      · exact Finset.mem_union_left _ (used entry (List.mem_filter.mp before).1)

theorem kept_insert_self (absent : cache.lookup key = none) (value : Value) (positive : 0 < maxsize)
    (since : Finset Key) : (cache.insert key value).Kept key value since := by
  have fresh : key ∉ cache.entries.map Prod.fst := by
    intro member
    obtain ⟨⟨_, other⟩, held, rfl⟩ := List.mem_map.mp member
    rw [lookup_of_mem held] at absent
    cases absent
  obtain ⟨size, rfl⟩ := Nat.exists_eq_succ_of_ne_zero positive.ne'
  exact ⟨[], _, by rw [insert, dif_neg fresh]; rfl, by simp⟩

/-- A new entry pushes the key out only when the cache is full of what was used since. -/
theorem Kept.insert (kept : cache.Kept key value since) (other : Key) (added : Value)
    (room : ((since ∪ {other}).erase key).card < maxsize) :
    (cache.insert other added).Kept key value (since ∪ {other}) := by
  obtain ⟨newer, older, entries, used⟩ := kept
  by_cases cached : other ∈ cache.entries.map Prod.fst
  · rw [LruCache.insert, dif_pos cached]
    exact ⟨newer, older, entries, fun entry member => Finset.mem_union_left _ (used entry member)⟩
  have distinct : ((other :: newer.map Prod.fst) ++ key :: older.map Prod.fst).Nodup := by
    have keys := cache.distinct
    rw [entries, List.map_append, List.map_cons] at keys
    rw [entries, List.map_append, List.map_cons] at cached
    rw [List.cons_append, List.nodup_cons]
    exact ⟨cached, keys⟩
  have bound : newer.length + 1 < maxsize := by
    refine Nat.lt_of_le_of_lt ?_ room
    have front := (List.nodup_append.mp distinct).1
    rw [show newer.length + 1 = (other :: newer.map Prod.fst).toFinset.card by
      rw [List.toFinset_card_of_nodup front]; simp]
    apply Finset.card_le_card
    intro used' member
    rw [List.mem_toFinset] at member
    refine Finset.mem_erase.mpr ⟨(List.nodup_append.mp distinct).2.2 _ member _ List.mem_cons_self, ?_⟩
    rcases List.mem_cons.mp member with rfl | inside
    · exact Finset.mem_union_right _ (Finset.mem_singleton_self _)
    · obtain ⟨entry, before, rfl⟩ := List.mem_map.mp inside
      exact Finset.mem_union_left _ (used entry before)
  refine ⟨(other, added) :: newer, older.take (maxsize - (newer.length + 1) - 1), ?_, ?_⟩
  · rw [LruCache.insert, dif_neg cached]
    dsimp only
    rw [entries, ← List.cons_append, List.take_append, List.take_of_length_le (by simp; omega), List.length_cons]
    obtain ⟨room', same⟩ := Nat.exists_eq_succ_of_ne_zero (show maxsize - (newer.length + 1) ≠ 0 by omega)
    rw [same, List.take_succ_cons, Nat.succ_sub_one]
  · intro entry member
    rcases List.mem_cons.mp member with rfl | before
    · exact Finset.mem_union_right _ (Finset.mem_singleton_self _)
    · exact Finset.mem_union_left _ (used entry before)

/-- A key that is not cached is not brought by another one. -/
theorem lookup_insert_ne (absent : cache.lookup key = none) {other : Key} (different : key ≠ other) (added : Value) :
    (cache.insert other added).lookup key = none := by
  cases found : (cache.insert other added).lookup key with
  | none => rfl
  | some held =>
    rcases lookup_insert found with ⟨same, _⟩ | before
    · exact absurd same different
    · cases absent.symm.trans before

end LruCache

/-! ## In the processes of a system -/

namespace ObjectStore
open Workers

variable {Bucket Key Value Text Message Process TaskId : Type} [DecidableEq Bucket] [DecidableEq Key]
  {maxsize : Nat} {bucket : Bucket} {key : Key} {text : Text} {since : Finset (Bucket × Key)}
  {events later : List (Event Bucket Key Value Text Message)} {event : Event Bucket Key Value Text Message}
  {shared after : Shared Bucket Key Value Text Process maxsize} {process : Process}

/-- The key that is found or remembered. -/
def Event.used : Event Bucket Key Value Text Message → Finset (Bucket × Key)
  | ⟨.lookup bucket key, some _⟩ => {(bucket, key)}
  | ⟨.remember bucket key _, _⟩ => {(bucket, key)}
  | _ => ∅

def usedIn : List (Event Bucket Key Value Text Message) → Finset (Bucket × Key)
  | [] => ∅
  | event :: later => event.used ∪ usedIn later

theorem usedIn_append (events later : List (Event Bucket Key Value Text Message)) :
    usedIn (events ++ later) = usedIn events ∪ usedIn later := by
  induction events with
  | nil => exact (Finset.empty_union _).symm
  | cons event events ih => rw [List.cons_append, usedIn, ih, usedIn, Finset.union_assoc]

theorem usedIn_snoc (events : List (Event Bucket Key Value Text Message))
    (event : Event Bucket Key Value Text Message) : usedIn (events ++ [event]) = usedIn events ∪ event.used := by
  rw [usedIn_append, usedIn, usedIn, Finset.union_empty]

/-- Fewer keys than there is room for were used beside the key. -/
def Few (maxsize : Nat) (bucket : Bucket) (key : Key) (used : Finset (Bucket × Key)) : Prop :=
  (used.erase (bucket, key)).card < maxsize

theorem Few.mono {used more : Finset (Bucket × Key)} (few : Few maxsize bucket key more) (included : used ⊆ more) :
    Few maxsize bucket key used :=
  Nat.lt_of_le_of_lt (Finset.card_le_card (Finset.erase_subset_erase _ included)) few

omit [DecidableEq Bucket] [DecidableEq Key] in
/-- The key was asked for. -/
def Asked (bucket : Bucket) (key : Key) (events : List (Event Bucket Key Value Text Message)) : Prop :=
  ∃ answer, Event.recalled bucket key answer ∈ events

/-- The key was found, or remembered after it was asked for. -/
def Obtained (bucket : Bucket) (key : Key) (events : List (Event Bucket Key Value Text Message)) : Prop :=
  (∃ text, Event.recalled bucket key (some text) ∈ events) ∨
    ∃ answer text, List.Sublist [Event.recalled bucket key answer, Event.remembered bucket key text] events

omit [DecidableEq Bucket] [DecidableEq Key] in
theorem Obtained.mono (obtained : Obtained bucket key events) (included : events.Sublist later) :
    Obtained bucket key later := by
  rcases obtained with ⟨text, found⟩ | ⟨answer, text, remembered⟩
  · exact .inl ⟨text, included.subset found⟩
  · exact .inr ⟨answer, text, remembered.trans included⟩

omit [DecidableEq Bucket] [DecidableEq Key] in
theorem asked_snoc : Asked bucket key (events ++ [event]) ↔
    Asked bucket key events ∨ ∃ answer, event = Event.recalled bucket key answer := by
  simp only [Asked, List.mem_append, List.mem_singleton, exists_or, eq_comm]

omit [DecidableEq Bucket] [DecidableEq Key] in
theorem obtained_of_snoc (obtained : Obtained bucket key (events ++ [event])) :
    Obtained bucket key events ∨ (∃ text, event = Event.recalled bucket key (some text)) ∨
      Asked bucket key events ∧ ∃ text, event = Event.remembered bucket key text := by
  rcases obtained with ⟨text, member⟩ | ⟨answer, text, sublist⟩
  · rcases List.mem_append.mp member with before | last
    · exact .inl (.inl ⟨text, before⟩)
    · exact .inr (.inl ⟨text, (List.mem_singleton.mp last).symm⟩)
  · obtain ⟨front, back, whole, before, last⟩ := List.sublist_append_iff.mp sublist
    rcases List.sublist_singleton.mp last with rfl | rfl
    · rw [List.append_nil] at whole
      exact .inl (.inr ⟨answer, text, whole ▸ before⟩)
    · obtain ⟨rfl, same⟩ :=
        List.append_inj'
          (show [Event.recalled bucket key answer] ++ [Event.remembered bucket key text] = _ from whole) rfl
      exact .inr (.inr ⟨⟨answer, before.subset (List.mem_singleton_self _)⟩, text, (List.singleton_inj.mp same).symm⟩)

/-! ### Calls -/

section Calls
variable [DecidableEq Process] {call : Call Bucket Key Value Text Message} {answer : call.Answer}

/-- A call keeps an entry when there is room for what it uses. -/
theorem Answers.kept (answered : Answers shared process call answer after)
    (kept : (shared.caches process).Kept (bucket, key) text since)
    (few : Few maxsize bucket key (since ∪ Event.used ⟨call, answer⟩)) :
    (after.caches process).Kept (bucket, key) text (since ∪ Event.used ⟨call, answer⟩) := by
  cases answered with
  | recalled =>
    dsimp only
    rw [Function.update_self]
    exact kept.touch _
  | remembered =>
    dsimp only
    rw [Function.update_self]
    exact kept.insert _ _ few
  | _ => simpa [Event.used] using kept

/-- A key that is absent stays absent until it is remembered. -/
theorem Answers.absent (answered : Answers shared process call answer after)
    (absent : (shared.caches process).lookup (bucket, key) = none) (positive : 0 < maxsize)
    (since : Finset (Bucket × Key)) :
    (after.caches process).lookup (bucket, key) = none ∧
        (∀ text, (⟨call, answer⟩ : Event Bucket Key Value Text Message) ≠ Event.remembered bucket key text) ∨
      ∃ text, (after.caches process).Kept (bucket, key) text since := by
  cases answered with
  | recalled =>
    dsimp only
    rw [Function.update_self, LruCache.lookup_touch]
    refine .inl ⟨absent, ?_⟩
    rintro _ ⟨⟩
  | @remembered otherBucket otherKey text =>
    dsimp only
    rw [Function.update_self]
    by_cases same : (bucket, key) = (otherBucket, otherKey)
    · rw [← same]
      exact .inr ⟨text, LruCache.kept_insert_self absent text positive since⟩
    · refine .inl ⟨LruCache.lookup_insert_ne absent same text, ?_⟩
      rintro _ ⟨⟩
      exact same rfl
  | _ =>
    refine .inl ⟨absent, ?_⟩
    rintro _ ⟨⟩

theorem Answers.found
    (answered : Answers shared process (.lookup bucket key : Call Bucket Key Value Text Message) (some text) after)
    (since : Finset (Bucket × Key)) : (after.caches process).Kept (bucket, key) text since := by
  cases answered with
  | recalled cached =>
    dsimp only
    rw [Function.update_self]
    exact LruCache.kept_touch_self cached since

theorem Answers.otherCaches {other : Process} (different : process ≠ other)
    (answered : Answers shared other call answer after) : after.caches process = shared.caches process := by
  cases answered with
  | recalled | remembered => exact Function.update_of_ne different ..
  | _ => rfl

/-- A process that has asked for a key either does not cache it or keeps it; what it
has obtained it keeps, while few other keys are used. -/
structure Retains (bucket : Bucket) (key : Key) (events : List (Event Bucket Key Value Text Message))
    (cache : LruCache (Bucket × Key) Text maxsize) : Prop where
  asked : Asked bucket key events → Few maxsize bucket key (usedIn events) →
    cache.lookup (bucket, key) = none ∨ ∃ text, cache.Kept (bucket, key) text (usedIn events)
  obtained : Obtained bucket key events → Few maxsize bucket key (usedIn events) →
    ∃ text, cache.Kept (bucket, key) text (usedIn events)

/-- A call of the process keeps what is retained. -/
theorem Retains.answered (retains : Retains bucket key events (shared.caches process))
    (answered : Answers shared process call answer after) :
    Retains bucket key (events ++ [⟨call, answer⟩]) (after.caches process) := by
  have before (few : Few maxsize bucket key (usedIn (events ++ [⟨call, answer⟩]))) :
      Few maxsize bucket key (usedIn events) := by
    rw [usedIn_snoc] at few
    exact few.mono Finset.subset_union_left
  have kept {text : Text} (kept : (shared.caches process).Kept (bucket, key) text (usedIn events))
      (few : Few maxsize bucket key (usedIn (events ++ [⟨call, answer⟩]))) :
      (after.caches process).Kept (bucket, key) text (usedIn (events ++ [⟨call, answer⟩])) := by
    rw [usedIn_snoc] at few ⊢
    exact answered.kept kept few
  constructor
  · intro asked few
    rcases asked_snoc.mp asked with earlier | ⟨found, same⟩
    · rcases retains.asked earlier (before few) with absent | ⟨text, held⟩
      · exact (answered.absent absent (Nat.zero_lt_of_lt few) _).imp_left And.left
      · exact .inr ⟨text, kept held few⟩
    · cases same
      cases found with
      | none =>
        cases answered with
        | missed absent => exact .inl absent
      | some text => exact .inr ⟨text, answered.found _⟩
  · intro obtained few
    rcases obtained_of_snoc obtained with earlier | ⟨text, same⟩ | ⟨asked, text, same⟩
    · obtain ⟨text, held⟩ := retains.obtained earlier (before few)
      exact ⟨text, kept held few⟩
    · cases same
      exact ⟨text, answered.found _⟩
    · rcases retains.asked asked (before few) with absent | ⟨text, held⟩
      · exact (answered.absent absent (Nat.zero_lt_of_lt few) _).resolve_left fun quiet => quiet.2 text same
      · exact ⟨text, kept held few⟩

/-- While few other keys are used, the key is kept and all lookups find it. -/
def Serves (bucket : Bucket) (key : Key) (text : Text) (since : Finset (Bucket × Key))
    (events : List (Event Bucket Key Value Text Message)) (cache : LruCache (Bucket × Key) Text maxsize) : Prop :=
  Few maxsize bucket key (since ∪ usedIn events) → cache.Kept (bucket, key) text (since ∪ usedIn events) ∧
    ∀ found, Event.recalled bucket key found ∈ events → found = some text

theorem Serves.answered (serves : Serves bucket key text since events (shared.caches process))
    (answered : Answers shared process call answer after) :
    Serves bucket key text since (events ++ [⟨call, answer⟩]) (after.caches process) := by
  intro few
  rw [usedIn_snoc, ← Finset.union_assoc] at few ⊢
  obtain ⟨kept, served⟩ := serves (few.mono Finset.subset_union_left)
  refine ⟨answered.kept kept few, fun found member => ?_⟩
  rcases List.mem_append.mp member with before | last
  · exact served found before
  · cases List.mem_singleton.mp last
    cases answered with
    | recalled cached => exact cached.symm.trans kept.found
    | missed absent => exact absent.symm.trans kept.found

end Calls

/-! ### Runs -/

section Runs
variable [DecidableEq Process] {Job Result : Type} [DecidableEq TaskId] {vanishes : Bucket → Prop}
  {program : Job → Action Bucket Key Value Text Message Result} {admits : Job → Process → Prop}
  {before state : State (Shared Bucket Key Value Text Process maxsize) TaskId Job Process
    (Call Bucket Key Value Text Message) Call.Answer Result}

/-- The calls of all tasks in a process, in order. -/
def processHistory (process : Process) (log : Log TaskId Process Bucket Key Value Text Message) :
    List (Event Bucket Key Value Text Message) :=
  log.filterMap fun entry => if entry.process = process then some entry.event else none

omit [DecidableEq Bucket] [DecidableEq Key] [DecidableEq TaskId] in
theorem processHistory_append (process : Process) (log more : Log TaskId Process Bucket Key Value Text Message) :
    processHistory process (log ++ more) = processHistory process log ++ processHistory process more :=
  List.filterMap_append ..

omit [DecidableEq Bucket] [DecidableEq Key] in
/-- The calls of a task are among those of its process. -/
theorem history_sublist {task : TaskId} {log : Log TaskId Process Bucket Key Value Text Message}
    (single : ∀ entry ∈ log, entry.task = task → entry.process = process) :
    (history task log).Sublist (processHistory process log) := by
  induction log with
  | nil => exact .slnil
  | cons entry rest ih =>
    have tail := ih fun other member => single other (List.mem_cons_of_mem _ member)
    by_cases own : entry.task = task
    · have same := single entry List.mem_cons_self own
      simpa [history, processHistory, own, same] using tail
    · by_cases same : entry.process = process
      · simpa [history, processHistory, own, same] using tail.cons entry.event
      · simpa [history, processHistory, own, same] using tail

/-- The service while a process is not restarted. -/
def steady (vanishes : Bucket → Prop) (process : Process) :
    Service (Shared Bucket Key Value Text Process maxsize) Process (Call Bucket Key Value Text Message)
    Call.Answer where
  answers := Answers
  drifts shared after := Drifts vanishes shared after ∧ after.caches process = shared.caches process

theorem Step.of_steady (step : Step (steady vanishes process) program admits before state) :
    Step (service vanishes) program admits before state := by
  cases step with
  | start free admitted => exact .start free admitted
  | ask running answered => exact .ask running answered
  | drift moved => exact .drift moved.1

/-- What calls of a process keep of its own calls and its cache holds after every run
in which it is not restarted. -/
theorem steady_run (holds : List (Event Bucket Key Value Text Message) → LruCache (Bucket × Key) Text maxsize → Prop)
    (start : holds [] (before.shared.caches process))
    (calls : ∀ {events shared call} {answer : call.Answer} {after}, holds events (shared.caches process) →
      Answers shared process call answer after → holds (events ++ [⟨call, answer⟩]) (after.caches process))
    (run : Relation.ReflTransGen (Step (steady vanishes process) program admits) before state) :
    ∃ later, state.log = before.log ++ later ∧
      holds (processHistory process later) (state.shared.caches process) := by
  induction run with
  | refl => exact ⟨[], (List.append_nil _).symm, start⟩
  | tail _ step ih =>
    obtain ⟨later, same, held⟩ := ih
    cases step with
    | start => exact ⟨later, same, held⟩
    | drift moved => exact ⟨later, same, by rw [moved.2]; exact held⟩
    | @ask task job caller call answer next after running answered =>
      refine ⟨later ++ [⟨task, caller, call, answer⟩], by rw [same, List.append_assoc], ?_⟩
      by_cases own : caller = process
      · subst own
        simpa [processHistory] using calls held answered
      · rw [Answers.otherCaches (Ne.symm own) answered]
        simpa [processHistory, own] using held

/-- What happens in a process keeps what it retains. -/
theorem retains_run (bucket : Bucket) (key : Key)
    (run : Relation.ReflTransGen (Step (steady vanishes process) program admits) before state) :
    ∃ later, state.log = before.log ++ later ∧
      Retains bucket key (processHistory process later) (state.shared.caches process) := by
  refine steady_run (Retains bucket key) ⟨?_, ?_⟩ (fun retains answered => retains.answered answered) run
  · simp [Asked]
  · simp [Obtained]

/-- What is kept is what all lookups find, while few other keys are used. -/
theorem serves_run (kept : (before.shared.caches process).Kept (bucket, key) text since)
    (run : Relation.ReflTransGen (Step (steady vanishes process) program admits) before state) :
    ∃ later, state.log = before.log ++ later ∧
      Serves bucket key text since (processHistory process later) (state.shared.caches process) :=
  steady_run (Serves bucket key text since) (fun _ => ⟨by simpa [usedIn] using kept, by simp⟩)
    (fun serves answered => serves.answered answered) run

end Runs

end ObjectStore

end TemplatePreview
