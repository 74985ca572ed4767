import TemplatePreview.Region
import TemplatePreview.UnicodeForms
import TemplatePreview.Base64
import TemplatePreview.Grouping
import TemplatePreview.BytesLiteral
import TemplatePreview.LruCache
import TemplatePreview.Outcomes
import TemplatePreview.SharedObjects
import TemplatePreview.Workers
import TemplatePreview.ObjectStore
import TemplatePreview.Mixtures
import TemplatePreview.Footprints
import TemplatePreview.JsonSchema
import TemplatePreview.PageLayout
import TemplatePreview.Pdf
import TemplatePreview.Overlays
import TemplatePreview.TextExtraction
import TemplatePreview.InMemoryLibraries
import TemplatePreview.PageValidation
import TemplatePreview.Boundary
import TemplatePreview.OverlayPlacement
import TemplatePreview.AddressWindow
import TemplatePreview.AddressRewrite
import TemplatePreview.EmbeddedFonts
import TemplatePreview.Sanitisation
import TemplatePreview.LetterTasks
import TemplatePreview.DeliveryRuns
import TemplatePreview.CachedDownloads
import TemplatePreview.AttachmentReads
import TemplatePreview.RenderCache
import TemplatePreview.TemplatedLetters
import TemplatePreview.ReadingOrder
import TemplatePreview.TagDetection
import TemplatePreview.BoundedTraversal
import TemplatePreview.FontWalk
import TemplatePreview.UnembeddedFonts
import TemplatePreview.PageOrientation
import TemplatePreview.TextSetting
import TemplatePreview.AddressGlyphs
import TemplatePreview.PreviewEndpoints
import TemplatePreview.RewriteStages
import TemplatePreview.TagPlacement
import TemplatePreview.LetterColours
import TemplatePreview.TemplatedLetterTask
import TemplatePreview.UnreadablePdfs
import TemplatePreview.StreamPrograms
import TemplatePreview.StreamPositions
import TemplatePreview.Recreations
import TemplatePreview.WholeService
import TemplatePreview.SanitisedPages
import TemplatePreview.Reports
import TemplatePreview.Procedures
import TemplatePreview.LetterPreviews
import TemplatePreview.Embeddings
import TemplatePreview.AttachmentUploads
import TemplatePreview.ServiceGuarantees
import TemplatePreview.LetterLives
import TemplatePreview.RequestTypes
import TemplatePreview.OverlayPreviews
import TemplatePreview.LruRetention
import TemplatePreview.CachedAttachments
import TemplatePreview.AttachmentContents
import TemplatePreview.PrintTasks
import TemplatePreview.PrintRuns
