import StyleDoc.Proofs.OutputFiles
import StyleDoc.Proofs.PathOrder
import StyleDoc.Proofs.Reads

/-!
# The files of a run

Files are collected in the order of the sources that name them, each as often as it is named. A run
takes them in the order of their paths and handles each of them once, so in which order sources are
given, and how often, decides about no more than the spelling of paths. Files are told apart by the
bytes of their paths, and the object that is printed for them by the texts of these.
-/

namespace StyleDoc

open Json (denoted?)
open Simulation (outcome)

namespace Options

variable {options : Options}

/-! ## Collecting paths -/

/-- The files that the sources name, in the order of the sources. -/
def collected {m : Type → Type} [Monad m] (options : Options) (workspace : Workspace m) :
    ExceptT Failure m (List Path) := do
  return (← options.sources.mapM (options.filesOf workspace)).flatten

end Options

end StyleDoc
