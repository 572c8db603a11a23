/-
ReleaseKit.Host — the machine that a release runs on.

Its commands are launched from what is installed.
-/
import ReleaseKit.Installation

namespace ReleaseKit.Host

/-- Runs commands on a host. Its state is the machine. -/
def runner (h : Host) (cwd : Location) : Runner Machine LinkedTree :=
  h.runnerWith (Installation.launcher Installation.launchDepth) cwd

end ReleaseKit.Host
