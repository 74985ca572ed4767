import TemplatePreview.LetterPreviews

/-! What requests can raise that the schemas accept. The schemas promise the fields
that the endpoints read, with two exceptions: the ids of an attachment. What they do
not see is the page, which is an argument of the request. -/
namespace TemplatePreview.RequestTypes
open Workers Pdf Outcomes JsonSchema LetterPreviews
open PreviewEndpoints (Application EndpointError EndpointAction letterAttachmentPreviewSchema)
open TemplatedLetters (Templates Language previewSchema previewSchema_template getItem getItem_ok get get_object
  getHtml getHtml_eq getDatetimeFromJson getPageCountForPdf)

variable {K σ Date : Type} {app : Application K σ Date} {json : Json}

/-- What endpoints raise on purpose, what libraries raise, the missing key, and what
reading the page raises. -/
inductive Expected (missing : Option String) (unparsed : Option PyError) : EndpointError → Prop
  | render (error : RenderCache.RenderError) : Expected missing unparsed (.render error)
  | library (error : LibraryError) : Expected missing unparsed (.raised (.library error))
  | keyError {key : String} (absent : missing = some key) : Expected missing unparsed (.raised (.keyError key))
  | valueError {error : PyError} (raised : unparsed = some error) : Expected missing unparsed (.raised error)

/-- How a request ends that may be missing a key or a number. -/
def Answers (missing : Option String) (unparsed : Option PyError) : Except EndpointError α → Prop
  | .ok _ => missing = none ∧ unparsed = none
  | .error error => Expected missing unparsed error

section Endpoints
variable {missing : Option String} {unparsed : Option PyError} {returns : β → Prop}

end Endpoints

/-- The schema does not ask for the ids. -/
example : previewSchema (.object [("letter_contact_block", .null), ("values", .null), ("filename", .null),
      ("template", .object [("subject", .string "Subject"), ("content", .string "Content"),
        ("letter_attachment", .object [("page_count", .number 1)])])]) = true := by decide

end TemplatePreview.RequestTypes
