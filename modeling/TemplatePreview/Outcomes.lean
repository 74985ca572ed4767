import Mathlib.Data.List.Basic
import Mathlib.Tactic.Common

/-! Computations that return a value or an error: what a sequence of them and a
loop of them returned tells about each part. -/
namespace TemplatePreview.Outcomes

/-- A sequence returns when its first part does and the rest does from there. -/
theorem bind_eq_ok {first : Except ε α} {next : α → Except ε β} {result : β} :
    (first >>= next) = .ok result ↔ ∃ value, first = .ok value ∧ next value = .ok result := by
  cases first <;> simp [bind, Except.bind]

theorem bind_eq_error {first : Except ε α} {next : α → Except ε β} {error : ε} :
    (first >>= next) = .error error ↔
      first = .error error ∨ ∃ value, first = .ok value ∧ next value = .error error := by
  cases first <;> simp [bind, Except.bind]

@[simp] theorem ok_bind (value : α) (next : α → Except ε β) :
    ((.ok value : Except ε α) >>= next) = next value := rfl

@[simp] theorem error_bind (error : ε) (next : α → Except ε β) :
    ((.error error : Except ε α) >>= next) = .error error := rfl

@[simp] theorem pure_eq_ok (value : α) : (pure value : Except ε α) = .ok value := rfl

/-- The values of a loop that returned are those its steps can only return. -/
theorem mapM_eq_ok {items : List α} {step : α → Except ε β} {results : List β} (value : α → β)
    (returned : items.mapM step = .ok results)
    (only : ∀ item ∈ items, ∀ result, step item = .ok result → result = value item) :
    results = items.map value := by
  induction items generalizing results with
  | nil =>
    cases returned
    rfl
  | cons item rest ih =>
    rw [List.mapM_cons] at returned
    obtain ⟨head, first, returned⟩ := bind_eq_ok.mp returned
    obtain ⟨tail, later, returned⟩ := bind_eq_ok.mp returned
    cases returned
    rw [only item (by simp) head first,
      ih later fun other member => only other (List.mem_cons_of_mem _ member)]
    rfl

/-- Whether a computation returned. -/
def Returns (outcome : Except ε α) : Prop := ∃ value, outcome = .ok value

theorem Returns.bind {first : Except ε α} {next : α → Except ε β} (returns : Returns first)
    (rest : ∀ value, first = .ok value → Returns (next value)) : Returns (first >>= next) := by
  obtain ⟨value, rfl⟩ := returns
  exact rest value rfl

theorem returns_bind_iff {first : Except ε α} {next : α → Except ε β} :
    Returns (first >>= next) ↔ ∃ value, first = .ok value ∧ Returns (next value) := by
  cases first <;> simp [Returns, bind, Except.bind]

/-- What is made of the last result does not matter. -/
theorem returns_bind_map_iff {first : Except ε α} {next : α → Except ε β} {change : β → γ} :
    Returns (first >>= fun value => next value >>= fun result => pure (change result)) ↔
      Returns (first >>= next) := by
  simp only [returns_bind_iff]
  refine exists_congr fun value => and_congr_right fun _ => ⟨?_, ?_⟩
  · rintro ⟨result, returned, _⟩
    exact ⟨result, returned⟩
  · rintro ⟨result, returned⟩
    exact ⟨result, returned, change result, rfl⟩

/-- A loop returns when every step does. -/
theorem Returns.mapM {items : List α} {step : α → Except ε β} (returns : ∀ item ∈ items, Returns (step item)) :
    Returns (items.mapM step) := by
  induction items with
  | nil => exact ⟨[], rfl⟩
  | cons item rest ih =>
    rw [List.mapM_cons]
    apply (returns item (by simp)).bind
    intro head _
    refine (ih fun other member => returns other (List.mem_cons_of_mem _ member)).bind fun tail _ => ?_
    exact ⟨head :: tail, rfl⟩

/-- Only a loop all of whose steps return returns. -/
theorem returns_of_mapM {items : List α} {step : α → Except ε β} (returns : Returns (items.mapM step))
    {item : α} (member : item ∈ items) : Returns (step item) := by
  obtain ⟨results, returned⟩ := returns
  induction items generalizing results with
  | nil => cases member
  | cons first rest ih =>
    rw [List.mapM_cons] at returned
    obtain ⟨head, early, returned⟩ := bind_eq_ok.mp returned
    obtain ⟨tail, later, _⟩ := bind_eq_ok.mp returned
    rcases List.mem_cons.mp member with rfl | inRest
    · exact ⟨head, early⟩
    · exact ih inRest tail later

/-- The results of a loop are those of its steps. -/
theorem mem_mapM {items : List α} {step : α → Except ε β} {results : List β}
    (returned : items.mapM step = .ok results) {result : β} :
    result ∈ results ↔ ∃ item ∈ items, step item = .ok result := by
  induction items generalizing results with
  | nil =>
    cases returned
    simp
  | cons first rest ih =>
    rw [List.mapM_cons] at returned
    obtain ⟨head, early, returned⟩ := bind_eq_ok.mp returned
    obtain ⟨tail, later, returned⟩ := bind_eq_ok.mp returned
    cases returned
    rw [List.mem_cons, ih later]
    simp only [List.mem_cons, exists_eq_or_imp, early, Except.ok.injEq]
    exact or_congr_left eq_comm

/-- Whether a loop returns depends on its items alone when that is so for each step. -/
theorem returns_foldlM_iff {items : List α} {step : γ → α → Except ε γ} {good : α → Prop} {before : γ}
    (each : ∀ state item, Returns (step state item) ↔ good item) :
    Returns (items.foldlM step before) ↔ ∀ item ∈ items, good item := by
  induction items generalizing before with
  | nil => exact iff_of_true ⟨before, rfl⟩ (by simp)
  | cons first rest ih =>
    simp only [List.foldlM_cons, returns_bind_iff, ih, List.forall_mem_cons, ← each before first]
    exact exists_and_right

/-- Loops whose steps return the same return the same. -/
theorem foldlM_congr_ok {items : List α} {step other : γ → α → Except ε γ} {before after : γ}
    (same : ∀ state item result, step state item = .ok result ↔ other state item = .ok result) :
    items.foldlM step before = .ok after ↔ items.foldlM other before = .ok after := by
  induction items generalizing before with
  | nil => exact Iff.rfl
  | cons first rest ih => simp only [List.foldlM_cons, bind_eq_ok, same, ih]

/-- A loop that first replaces each item and then uses it is two loops, as long as
nothing is raised. -/
theorem foldlM_map_eq_ok {items : List α} {replace : α → Except ε β} {use : γ → β → Except ε γ} {before after : γ} :
    items.foldlM (fun state item => do use state (← replace item)) before = .ok after ↔
      ∃ replaced, items.mapM replace = .ok replaced ∧ replaced.foldlM use before = .ok after := by
  induction items generalizing before with
  | nil =>
    constructor
    · exact fun same => ⟨[], rfl, same⟩
    · rintro ⟨_, ⟨⟩, same⟩
      exact same
  | cons first rest ih =>
    simp only [List.foldlM_cons, List.mapM_cons, bind_eq_ok, ih]
    constructor
    · rintro ⟨middle, ⟨head, replaced, used⟩, tail, others, ended⟩
      exact ⟨head :: tail, ⟨head, replaced, tail, others, rfl⟩, bind_eq_ok.mpr ⟨middle, used, ended⟩⟩
    · rintro ⟨_, ⟨head, replaced, tail, others, ⟨⟩⟩, ended⟩
      obtain ⟨middle, used, ended⟩ := bind_eq_ok.mp ended
      exact ⟨middle, ⟨head, replaced, used⟩, tail, others, ended⟩

/-- A loop whose steps are loops over lists that are computed first. -/
theorem foldlM_flatten_eq_ok {items : List α} {list : α → Except ε (List β)} {step : γ → α → Except ε γ}
    {use : γ → β → Except ε γ} {before after : γ}
    (steps : ∀ item ∈ items, ∀ state next, step state item = .ok next ↔
      ∃ found, list item = .ok found ∧ found.foldlM use state = .ok next) :
    items.foldlM step before = .ok after ↔
      ∃ lists, items.mapM list = .ok lists ∧ lists.flatten.foldlM use before = .ok after := by
  induction items generalizing before with
  | nil =>
    constructor
    · exact fun same => ⟨[], rfl, same⟩
    · rintro ⟨_, ⟨⟩, same⟩
      exact same
  | cons first rest ih =>
    simp only [List.foldlM_cons, List.mapM_cons, bind_eq_ok, steps first List.mem_cons_self,
      ih fun item member => steps item (List.mem_cons_of_mem _ member)]
    constructor
    · rintro ⟨middle, ⟨found, listed, used⟩, lists, others, ended⟩
      refine ⟨found :: lists, ⟨found, listed, lists, others, rfl⟩, ?_⟩
      rw [List.flatten_cons, List.foldlM_append]
      exact bind_eq_ok.mpr ⟨middle, used, ended⟩
    · rintro ⟨_, ⟨found, listed, lists, others, ⟨⟩⟩, ended⟩
      rw [List.flatten_cons, List.foldlM_append] at ended
      obtain ⟨middle, used, ended⟩ := bind_eq_ok.mp ended
      exact ⟨middle, ⟨found, listed, used⟩, lists, others, ended⟩

theorem throw_eq_error (error : ε) : (throw error : Except ε α) = .error error := rfl

/-- What a computation can raise is allowed. Sequences and loops inherit this from
their parts, so that it is found by instance search. -/
class Raises (allowed : ε → Prop) (outcome : Except ε α) : Prop where
  only : ∀ error, outcome = .error error → allowed error

namespace Raises
variable {allowed : ε → Prop}

theorem throw (permitted : allowed error) : Raises allowed (.error error : Except ε α) :=
  ⟨fun _ same => by cases same; exact permitted⟩

instance {value : α} : Raises allowed (pure value : Except ε α) := ⟨fun _ same => by cases same⟩

theorem mono {wider : ε → Prop} {outcome : Except ε α} (raises : Raises allowed outcome)
    (included : ∀ error, allowed error → wider error) : Raises wider outcome :=
  ⟨fun error same => included error (raises.only error same)⟩

theorem bind {first : Except ε α} {next : α → Except ε β} (part : Raises allowed first)
    (rest : ∀ value, first = .ok value → Raises allowed (next value)) : Raises allowed (first >>= next) where
  only error same := by
    rcases bind_eq_error.mp same with early | ⟨value, returned, late⟩
    · exact part.only error early
    · exact (rest value returned).only error late

instance {first : Except ε α} {next : α → Except ε β} [part : Raises allowed first]
    [rest : ∀ value, Raises allowed (next value)] : Raises allowed (first >>= next) :=
  bind part fun value _ => rest value

instance {condition : Prop} [Decidable condition] {one other : Except ε α} [left : Raises allowed one]
    [right : Raises allowed other] : Raises allowed (if condition then one else other) := by
  split
  · exact left
  · exact right

instance {step : α → Except ε β} [part : ∀ item, Raises allowed (step item)] {items : List α} :
    Raises allowed (items.mapM step) := by
  induction items with
  | nil => exact ⟨fun _ same => by cases same⟩
  | cons item rest ih =>
    rw [List.mapM_cons]
    infer_instance

instance {step : β → α → Except ε β} [part : ∀ state item, Raises allowed (step state item)] {items : List α}
    {initial : β} : Raises allowed (items.foldlM step initial) := by
  induction items generalizing initial with
  | nil => exact ⟨fun _ same => by cases same⟩
  | cons item rest ih =>
    rw [List.foldlM_cons]
    infer_instance

end Raises

end TemplatePreview.Outcomes
