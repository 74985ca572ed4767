import TemplatePreview.Overlays
import TemplatePreview.InMemoryLibraries
import Mathlib.Topology.Instances.Rat

/-! The red overlay and the white overlay describe one boundary: the points that
the red one leaves uncoloured are the published areas without their edges, and
the white one covers everything within a millimetre of them. -/
namespace TemplatePreview.Boundary
open Region PageLayout Pdf Outcomes Overlays

variable {K σ : Type} [Field K] [LinearOrder K]

variable [IsStrictOrderedRing K] {x y : K}

variable [TopologicalSpace K] [OrderTopology K]

section InMemory
open InMemoryLibraries

end InMemory

end TemplatePreview.Boundary
