import TemplatePreview.Mixtures

/-! Programs that may raise, and programs that call other programs. A program that
was verified against a contract of its own is used at that contract by any program
whose contract allows as much and relies on as much. -/
namespace TemplatePreview.Workers

variable {Call : Type} {Answer : Call → Type}

/-- A program that may raise. -/
abbrev Raising (ε : Type) (Call : Type) (Answer : Call → Type) (α : Type) : Type :=
  ExceptT ε (Program Call Answer) α

namespace Contract

/-- What any contract of a family allows, relying on what those rely on that allow
the call. -/
def anyOf (family : ι → Contract Call Answer) : Contract Call Answer where
  asks history call := ∃ index, (family index).asks history call
  relies call answer := ∀ index history, (family index).asks history call → (family index).relies call answer

/-- A call stays allowed after more calls were made before. -/
def Monotone (contract : Contract Call Answer) : Prop :=
  ∀ before later call, contract.asks later call → contract.asks (before ++ later) call

section Calls
variable {inner outer : Contract Call Answer} {program : Program Call Answer α}
  {post : List (Event Call Answer) → α → Prop} {before later : List (Event Call Answer)}

/-- A program that keeps to its contract keeps to a wider one, wherever it is
called. -/
theorem Keeps.called (keeps : inner.Keeps post later program)
    (asks : ∀ history call, inner.asks history call → outer.asks (before ++ history) call)
    (relies : ∀ history call answer, inner.asks history call → outer.relies call answer → inner.relies call answer) :
    outer.Keeps (fun whole result => ∃ own, whole = before ++ own ∧ post own result) (before ++ later) program := by
  induction program generalizing later with
  | done result => exact ⟨later, rfl, keeps⟩
  | ask call next ih =>
    refine ⟨asks later call keeps.1, fun answer relied => ?_⟩
    rw [List.append_assoc]
    exact ih answer (keeps.2 answer (relies later call answer keeps.1 relied))

/-- A program that keeps to one contract of a family keeps to the family. -/
theorem Keeps.anyOf {family : ι → Contract Call Answer} (index : ι) (keeps : (family index).Keeps post [] program)
    (monotone : (family index).Monotone) :
    (Contract.anyOf family).Keeps (fun whole result => ∃ own, whole = before ++ own ∧ post own result) before
      program := by
  rw [← List.append_nil before]
  refine (keeps.called (fun history call asked => ?_) fun history call answer asked relied => ?_).mono ?_
  · exact ⟨index, monotone before history call asked⟩
  · exact relied index history asked
  · simp

end Calls

/-! ## Programs that may raise -/

section Yields
variable {contract : Contract Call Answer} {before : List (Event Call Answer)} {ε : Type}
  {post : List (Event Call Answer) → β → Prop}

/-- The program keeps to the contract, and what it returns is as described. -/
def Yields (contract : Contract Call Answer) (post : List (Event Call Answer) → α → Prop)
    (before : List (Event Call Answer)) (program : Raising ε Call Answer α) : Prop :=
  contract.Keeps (fun history result => ∀ value, result = .ok value → post history value) before program.run

theorem yields_pure {value : β} (holds : post before value) :
    contract.Yields post before (pure value : Raising ε Call Answer β) := by
  rintro _ ⟨⟩
  exact holds

theorem yields_throw (error : ε) : contract.Yields post before (throw error : Raising ε Call Answer β) := by
  rintro _ ⟨⟩

/-- Sequencing: what is raised ends the program. -/
theorem yields_bind {middle : List (Event Call Answer) → α → Prop} {program : Raising ε Call Answer α}
    {next : α → Raising ε Call Answer β} (first : contract.Yields middle before program)
    (rest : ∀ later value, middle later value → contract.Yields post later (next value)) :
    contract.Yields post before (program >>= next) := by
  refine keeps_bind program.run (Keeps.mono first fun later result described => ?_)
  cases result with
  | ok value => exact rest later value (described value rfl)
  | error error =>
    rintro _ ⟨⟩

/-- A value that was computed without any call. -/
theorem yields_ofExcept {value : Except ε α} {next : α → Raising ε Call Answer β}
    (rest : ∀ result, value = .ok result → contract.Yields post before (next result)) :
    contract.Yields post before (ofExcept value >>= next) := by
  cases value with
  | ok result => exact rest result rfl
  | error error => exact yields_throw error

end Yields

/-! ## Programs that compute a value -/

section Computes
variable {contract : Contract Call Answer} {before : List (Event Call Answer)} {ε δ : Type} {fails : Prop}
  {convert : ε → δ}

/-- The program ends with a value that can be computed without calls, or it fails
where calls may fail. -/
def Computes (contract : Contract Call Answer) (fails : Prop) (convert : ε → δ) (value : Except ε α)
    (before : List (Event Call Answer)) (program : Raising δ Call Answer α) : Prop :=
  contract.Keeps (fun _ result => result = value.mapError convert ∨ fails ∧ ∃ error, result = .error error) before
    program.run

theorem computes_ofExcept (value : Except ε α) :
    contract.Computes fails convert value before (ofExcept (value.mapError convert)) := by
  cases value with
  | ok result => exact .inl rfl
  | error error => exact .inl rfl

theorem computes_pure (result : α) : contract.Computes fails convert (pure result) before (pure result) := .inl rfl

/-- The parts of a program compute the parts of its value. -/
theorem computes_bind {value : Except ε α} {more : α → Except ε β} {program : Raising δ Call Answer α}
    {next : α → Raising δ Call Answer β} (first : contract.Computes fails convert value before program)
    (rest : ∀ later result, value = .ok result → contract.Computes fails convert (more result) later (next result)) :
    contract.Computes fails convert (value >>= more) before (program >>= next) := by
  refine keeps_bind program.run (Keeps.mono first fun later result ended => ?_)
  rcases ended with rfl | ⟨failing, error, rfl⟩
  · cases value with
    | ok result => exact rest later result rfl
    | error error => exact .inl rfl
  · exact .inr ⟨failing, error, rfl⟩

end Computes

end Contract

/-! ## Whatever is answered -/

section Always
variable {program : Program Call Answer α} {middle : α → Prop} {post : β → Prop}

end Always

section Settles
variable {ε : Type} {returns : β → Prop} {raises : ε → Prop}

end Settles

end TemplatePreview.Workers
