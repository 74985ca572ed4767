import Mathlib.Data.Set.Insert
import Mathlib.Logic.Function.Basic
import TemplatePreview.Outcomes

/-! Programs that hand references to one another and change objects in place,
compared with computations that pass the objects themselves. The environment may
choose numbers, and what a program does with its objects can be observed. -/
namespace TemplatePreview.SharedObjects
open Outcomes

abbrev Ref : Type := Nat

/-- The objects that were made so far, what was observed, and what the environment
will choose. -/
structure Heap (Object Event : Type) where
  objects : Ref → Object
  next : Ref
  events : List Event
  choices : Nat → Nat

/-- What happens to the objects is not undone by an exception. -/
abbrev Action (Object Event ε α : Type) : Type := ExceptT ε (StateM (Heap Object Event)) α

variable {Object Event ε α β γ δ : Type}

namespace Action

/-- What an action ends with, and the objects it leaves. -/
def outcome (action : Action Object Event ε α) (before : Heap Object Event) : Except ε α × Heap Object Event :=
  (action.run.run before).run

/-- Makes a new object. -/
def make (object : Object) : Action Object Event ε Ref := modifyGet fun heap =>
  (heap.next, { heap with objects := Function.update heap.objects heap.next object, next := heap.next + 1 })

def look (ref : Ref) : Action Object Event ε Object := do return (← get).objects ref

/-- Changes an object in place. -/
def change (ref : Ref) (update : Object → Object) : Action Object Event ε Unit := modify fun heap =>
  { heap with objects := Function.update heap.objects ref (update (heap.objects ref)) }

def observe (event : Event) : Action Object Event ε Unit := modify fun heap =>
  { heap with events := heap.events ++ [event] }

/-- The next choice of the environment. -/
def choose : Action Object Event ε Nat := modifyGet fun heap =>
  (heap.choices 0, { heap with choices := fun index => heap.choices (index + 1) })

section Endings
variable {before : Heap Object Event}

@[simp] theorem outcome_pure (value : α) :
    (pure value : Action Object Event ε α).outcome before = (.ok value, before) := rfl

@[simp] theorem outcome_lift (result : Except ε α) :
    (liftM result : Action Object Event ε α).outcome before = (result, before) := by
  cases result <;> rfl

@[simp] theorem outcome_throw (error : ε) :
    (throw error : Action Object Event ε α).outcome before = (.error error, before) := rfl

theorem outcome_bind (action : Action Object Event ε α) (next : α → Action Object Event ε β) :
    (action >>= next).outcome before =
      match action.outcome before with
      | (.ok value, after) => (next value).outcome after
      | (.error error, after) => (.error error, after) := by
  simp only [outcome, ExceptT.run_bind, StateT.run_bind, Id.run_bind]
  rcases (action.run.run before).run with ⟨_ | _, after⟩ <;> rfl

theorem outcome_tryCatch (action : Action Object Event ε α) (handle : ε → Action Object Event ε α) :
    (tryCatch action handle).outcome before =
      match action.outcome before with
      | (.ok value, after) => (.ok value, after)
      | (.error error, after) => (handle error).outcome after := by
  have unfolded : (tryCatch action handle).outcome before =
      ((match (action.outcome before).1 with
        | .ok value => pure (Except.ok value)
        | .error error => (handle error).run : StateM (Heap Object Event) (Except ε α)).run
          (action.outcome before).2).run := rfl
  rw [unfolded]
  rcases action.outcome before with ⟨_ | _, after⟩ <;> rfl

@[simp] theorem outcome_make (object : Object) : (make object : Action Object Event ε Ref).outcome before =
    (.ok before.next, { before with
      objects := Function.update before.objects before.next object, next := before.next + 1 }) := rfl

@[simp] theorem outcome_look (ref : Ref) : (look ref : Action Object Event ε Object).outcome before =
    (.ok (before.objects ref), before) := rfl

@[simp] theorem outcome_change (ref : Ref) (update : Object → Object) :
    (change ref update : Action Object Event ε Unit).outcome before = (.ok (), { before with
      objects := Function.update before.objects ref (update (before.objects ref)) }) := rfl

@[simp] theorem outcome_observe (event : Event) : (observe event : Action Object Event ε Unit).outcome before =
    (.ok (), { before with events := before.events ++ [event] }) := rfl

@[simp] theorem outcome_choose : (choose : Action Object Event ε Nat).outcome before =
    (.ok (before.choices 0), { before with choices := fun index => before.choices (index + 1) }) := rfl

end Endings

end Action

/-- Of the objects there were, only these may have changed. -/
structure Keeps (before after : Heap Object Event) (changed : Set Ref) : Prop where
  next : before.next ≤ after.next
  others : ∀ other < before.next, other ∉ changed → after.objects other = before.objects other

namespace Keeps
variable {first before after : Heap Object Event} {changed wider : Set Ref}

theorem of_eq (next : after.next = before.next) (objects : after.objects = before.objects) :
    Keeps before after changed := ⟨next.ge, fun other _ _ => congrFun objects other⟩

theorem trans (earlier : Keeps first before changed) (later : Keeps before after changed) :
    Keeps first after changed where
  next := Nat.le_trans earlier.next later.next
  others other present unchanged :=
    (later.others other (Nat.lt_of_lt_of_le present earlier.next) unchanged).trans
      (earlier.others other present unchanged)

theorem mono (keeps : Keeps before after changed) (included : changed ⊆ wider) : Keeps before after wider :=
  ⟨keeps.next, fun other present unchanged => keeps.others other present fun member => unchanged (included member)⟩

end Keeps

/-! ## Following a computation on values -/

/-- Both raise the same, or return values that are related. -/
inductive Agree (related : α → β → Prop) : Except ε α → Except ε β → Prop where
  | returned (holds : related value other) : Agree related (.ok value) (.ok other)
  | raised (error : ε) : Agree related (.error error) (.error error)

theorem Agree.mono {related weaker : α → β → Prop} {one : Except ε α} {two : Except ε β}
    (agree : Agree related one two) (implied : ∀ value other, related value other → weaker value other) :
    Agree weaker one two := by
  cases agree with
  | returned holds => exact .returned (implied _ _ holds)
  | raised error => exact .raised error

/-- From these objects the action ends as the computation does, with the
postcondition if it returns, and whatever is observed on the way is allowed. -/
structure Follows (allowed : Event → Prop) (before : Heap Object Event) (action : Action Object Event ε α)
    (computation : Except ε β) (post : α → β → Heap Object Event → Prop) : Prop where
  observed : ∃ later, (action.outcome before).2.events = before.events ++ later ∧ ∀ event ∈ later, allowed event
  agree : Agree (fun value other => post value other (action.outcome before).2) (action.outcome before).1 computation

namespace Follows
variable {allowed : Event → Prop} {before : Heap Object Event} {post : α → β → Heap Object Event → Prop}

theorem pure {value : α} {other : β} (holds : post value other before) :
    Follows allowed before (pure value : Action Object Event ε α) (.ok other) post where
  observed := ⟨[], by simp, by simp⟩
  agree := .returned holds

/-- A program that returns does what the computation does. -/
theorem of_returned {action : Action Object Event ε α} {computation : Except ε β} {value : α}
    {after : Heap Object Event} (follows : Follows allowed before action computation post)
    (ended : action.outcome before = (.ok value, after)) : ∃ other, computation = .ok other ∧ post value other after := by
  have agree := follows.agree
  rw [ended] at agree
  generalize computation = result at agree
  cases agree with
  | returned holds => exact ⟨_, rfl, holds⟩

/-- A program returns when the computation does. -/
theorem returns {action : Action Object Event ε α} {other : β}
    (follows : Follows allowed before action (.ok other) post) :
    ∃ value after, action.outcome before = (.ok value, after) ∧ post value other after := by
  rcases ended : action.outcome before with ⟨_ | value, after⟩
  · have agree := follows.agree
    rw [ended] at agree
    cases agree
  · obtain ⟨_, ⟨⟩, holds⟩ := follows.of_returned ended
    exact ⟨value, after, rfl, holds⟩

theorem mono {action : Action Object Event ε α} {computation : Except ε β}
    {weaker : α → β → Heap Object Event → Prop} (follows : Follows allowed before action computation post)
    (implied : ∀ value other after, post value other after → weaker value other after) :
    Follows allowed before action computation weaker where
  observed := follows.observed
  agree := follows.agree.mono fun value other => implied value other _

/-- A computation that touches no object. -/
theorem lift {result : Except ε α} {post : α → α → Heap Object Event → Prop}
    (holds : ∀ value, result = .ok value → post value value before) :
    Follows allowed before (liftM result : Action Object Event ε α) result post := by
  cases result with
  | ok value => exact ⟨⟨[], by simp, by simp⟩, .returned (holds value rfl)⟩
  | error error => exact ⟨⟨[], by simp, by simp⟩, .raised error⟩

theorem raise {error : ε} : Follows allowed before (throw error : Action Object Event ε α) (.error error) post :=
  ⟨⟨[], by simp, by simp⟩, .raised error⟩

/-- Sequences follow one another part by part. -/
theorem bind {first : Action Object Event ε γ} {computation : Except ε δ} {next : γ → Action Object Event ε α}
    {continued : δ → Except ε β} {middle : γ → δ → Heap Object Event → Prop}
    (part : Follows allowed before first computation middle)
    (rest : ∀ value other after, computation = .ok other → middle value other after →
      Follows allowed after (next value) (continued other) post) :
    Follows allowed before (first >>= next) (computation >>= continued) post := by
  obtain ⟨⟨earlier, extended, all⟩, agree⟩ := part
  have ended : (first >>= next).outcome before = _ := Action.outcome_bind first next
  rcases outcome : first.outcome before with ⟨_ | value, after⟩
  all_goals
    rw [outcome] at ended extended agree
    dsimp only at ended extended agree
  case error error =>
    cases agree with
    | raised =>
      rw [error_bind]
      constructor
      · rw [ended]
        exact ⟨earlier, extended, all⟩
      · rw [ended]
        exact .raised error
  case ok =>
    cases agree with
    | @returned _ other holds =>
      obtain ⟨⟨later, further, others⟩, agree⟩ := rest value other after rfl holds
      rw [ok_bind]
      constructor
      · refine ⟨earlier ++ later, ?_, fun event member => ?_⟩
        · rw [ended, further, extended, List.append_assoc]
        · exact (List.mem_append.mp member).elim (all event) (others event)
      · rw [ended]
        exact agree

/-- Both sides share a computation that touches no object. -/
theorem lift_bind {result : Except ε γ} {next : γ → Action Object Event ε α} {continued : γ → Except ε β}
    (rest : ∀ value, result = .ok value → Follows allowed before (next value) (continued value) post) :
    Follows allowed before (liftM result >>= next) (result >>= continued) post := by
  have lifted : Follows allowed before (liftM result) result fun value other after => value = other ∧ after = before :=
    .lift fun _ _ => ⟨rfl, rfl⟩
  apply bind lifted
  rintro value _ _ returned ⟨rfl, rfl⟩
  exact rest value returned

/-- An exception is turned into a value. -/
theorem handled {action : Action Object Event ε α} {computation : Except ε β} {handle : ε → α} {other : ε → β}
    (follows : Follows allowed before action computation post)
    (handles : ∀ error after, post (handle error) (other error) after) :
    Follows allowed before (tryCatch action fun error => Pure.pure (handle error))
      (computation.tryCatch fun error => .ok (other error)) post := by
  obtain ⟨observed, agree⟩ := follows
  have ended : (tryCatch action fun error => Pure.pure (handle error)).outcome before = _ :=
    Action.outcome_tryCatch action fun error => Pure.pure (handle error)
  rcases outcome : action.outcome before with ⟨_ | value, after⟩
  all_goals
    rw [outcome] at ended observed agree
    dsimp only at ended observed agree
    constructor
    · rw [ended]
      exact observed
  case error error =>
    rw [ended]
    cases agree with
    | raised => exact .returned (handles error after)
  case ok =>
    rw [ended]
    cases agree with
    | returned holds => exact .returned holds

/-- A part of the program that always returns. -/
theorem step {first : Action Object Event ε γ} {value : γ} {after : Heap Object Event}
    {next : γ → Action Object Event ε α} {computation : Except ε β}
    (ends : first.outcome before = (.ok value, after))
    (observed : ∃ earlier, after.events = before.events ++ earlier ∧ ∀ event ∈ earlier, allowed event)
    (rest : Follows allowed after (next value) computation post) :
    Follows allowed before (first >>= next) computation post := by
  have part : Follows allowed before first (.ok ()) fun returned _ heap => returned = value ∧ heap = after := by
    constructor
    · rw [ends]
      exact observed
    · rw [ends]
      exact .returned ⟨rfl, rfl⟩
  have sequence : Follows allowed before (first >>= next) ((.ok () : Except ε Unit) >>= fun _ => computation) post := by
    apply bind part
    rintro _ _ _ _ ⟨rfl, rfl⟩
    exact rest
  exact sequence

section Steps
variable {computation : Except ε β} {ref : Ref}

theorem look {next : Object → Action Object Event ε α}
    (rest : Follows allowed before (next (before.objects ref)) computation post) :
    Follows allowed before (Action.look ref >>= next) computation post :=
  .step (Action.outcome_look ref) ⟨[], by simp, by simp⟩ rest

theorem change {update : Object → Object} {next : Unit → Action Object Event ε α}
    (rest : ∀ after, Keeps before after {ref} → after.objects ref = update (before.objects ref) →
      after.events = before.events → Follows allowed after (next ()) computation post) :
    Follows allowed before (Action.change ref update >>= next) computation post := by
  refine .step (Action.outcome_change ref update) ⟨[], by simp, by simp⟩ (rest _ ?_ (Function.update_self ..) rfl)
  exact ⟨Nat.le_refl _, fun other _ different => Function.update_of_ne different ..⟩

/-- A new object is none of those there were. -/
theorem make {object : Object} {next : Ref → Action Object Event ε α}
    (rest : ∀ after ref, Keeps before after ∅ → before.next ≤ ref → ref < after.next → after.objects ref = object →
      Follows allowed after (next ref) computation post) :
    Follows allowed before (Action.make object >>= next) computation post := by
  refine .step (Action.outcome_make object) ⟨[], by simp, by simp⟩
    (rest _ before.next ?_ (Nat.le_refl _) (Nat.lt_succ_self _) (Function.update_self ..))
  exact ⟨Nat.le_succ _, fun other present _ => Function.update_of_ne (Nat.ne_of_lt present) ..⟩

theorem choose {next : Nat → Action Object Event ε α}
    (rest : ∀ choice after, Keeps before after ∅ → Follows allowed after (next choice) computation post) :
    Follows allowed before (Action.choose >>= next) computation post :=
  .step Action.outcome_choose ⟨[], by simp, by simp⟩ (rest _ _ (.of_eq rfl rfl))

/-- What is observed must be allowed. -/
theorem observe {event : Event} {next : Unit → Action Object Event ε α} (permitted : allowed event)
    (rest : ∀ after, after.objects = before.objects → after.next = before.next →
      after.events = before.events ++ [event] → Follows allowed after (next ()) computation post) :
    Follows allowed before (Action.observe event >>= next) computation post :=
  .step (Action.outcome_observe event) ⟨[event], rfl, by simpa using permitted⟩ (rest _ rfl rfl rfl)

end Steps

end Follows

end TemplatePreview.SharedObjects
