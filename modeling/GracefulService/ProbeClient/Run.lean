import GracefulService.ProbeClient.Help
import GracefulService.ProbeClient.Inquiry

/-!
# Running the probe client

From the arguments to what the program leaves behind, given what services answer.
-/

namespace GracefulService.ProbeClient

open Http

/-- Does what the arguments ask for. -/
def perform (exchange : Inquiry → Option Response) : Command → Ending
  | .ask arguments => ask exchange arguments
  | .help question => ⟨0, helpText question, "", none⟩
  | .mistake => ⟨2, "", usageText, none⟩

/-- Runs the probe client. -/
def run (exchange : Inquiry → Option Response) (arguments : List String) : Ending :=
  perform exchange (.read arguments)

end GracefulService.ProbeClient
