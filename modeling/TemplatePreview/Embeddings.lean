import TemplatePreview.ObjectStore
import TemplatePreview.Procedures
import Mathlib.Logic.Equiv.Defs

/-! Programs whose calls are renamed, to run beside others on a service with more calls
than their own. What a program keeps to it keeps to under the new names. -/
namespace TemplatePreview.Workers

variable {Call Other : Type} {Answer : Call → Type} {OtherAnswer : Other → Type}

/-- Names that calls have on a larger service, which answers them alike. -/
structure CallEmbedding (Call : Type) (Answer : Call → Type) (Other : Type) (OtherAnswer : Other → Type) where
  call : Call → Other
  answer : ∀ own, Answer own ≃ OtherAnswer (call own)

namespace CallEmbedding
variable (embedding : CallEmbedding Call Answer Other OtherAnswer)

def event (own : Event Call Answer) : Event Other OtherAnswer := ⟨embedding.call own.1, embedding.answer own.1 own.2⟩

def program : Program Call Answer α → Program Other OtherAnswer α
  | .done result => .done result
  | .ask call next => .ask (embedding.call call) fun answer => program (next ((embedding.answer call).symm answer))

/-- A contract for the calls under their new names. -/
def contract (own : Contract Call Answer) : Contract Other OtherAnswer where
  asks history call := ∃ ownHistory ownCall, history = ownHistory.map embedding.event ∧
    call = embedding.call ownCall ∧ own.asks ownHistory ownCall
  relies call answer := ∀ event, embedding.event event = ⟨call, answer⟩ → own.relies event.1 event.2

variable {embedding}

/-- What a program keeps to it keeps to under the new names. -/
theorem keeps {own : Contract Call Answer} {program : Program Call Answer α}
    {post : List (Event Call Answer) → α → Prop}
    {history : List (Event Call Answer)} (keeps : own.Keeps post history program) :
    (embedding.contract own).Keeps (fun later result => ∃ ownHistory, later = ownHistory.map embedding.event ∧
      post ownHistory result) (history.map embedding.event) (embedding.program program) := by
  induction program generalizing history with
  | done result => exact ⟨history, rfl, keeps⟩
  | ask call next ih =>
    refine ⟨⟨history, call, rfl, rfl, keeps.1⟩, fun answer relied => ?_⟩
    have same : embedding.event ⟨call, (embedding.answer call).symm answer⟩ = ⟨embedding.call call, answer⟩ := by
      rw [event, Equiv.apply_symm_apply]
    have rest := ih _ (keeps.2 _ (relied _ same))
    rwa [List.map_append, List.map_cons, List.map_nil, same] at rest

end CallEmbedding

end TemplatePreview.Workers

namespace TemplatePreview.ObjectStore
open Workers

variable {Bucket Other Key Value Text Message OtherMessage : Type} (bucketName : Bucket → Other)
  (announce : Message → OtherMessage)

def Call.renamed : Call Bucket Key Value Text Message → Call Other Key Value Text OtherMessage
  | .download bucket key => .download (bucketName bucket) key
  | .upload bucket key value => .upload (bucketName bucket) key value
  | .copy bucket key target targetKey => .copy (bucketName bucket) key (bucketName target) targetKey
  | .lookup bucket key => .lookup (bucketName bucket) key
  | .remember bucket key text => .remember (bucketName bucket) key text
  | .attempt => .attempt
  | .send message => .send (announce message)

/-- Buckets and messages under other names. -/
def embedding : CallEmbedding (Call Bucket Key Value Text Message) Call.Answer
    (Call Other Key Value Text OtherMessage)
    Call.Answer where
  call := Call.renamed bucketName announce
  answer
    | .download .. | .upload .. | .copy .. | .lookup .. | .remember .. | .attempt | .send _ => .refl _

end TemplatePreview.ObjectStore
