import GracefulService.Health.Report
import GracefulService.Http.Accept
import GracefulService.Http.Message

/-!
# Answers to probes

A report becomes a response: its status decides the code, the format the client prefers decides the
body.
-/

namespace GracefulService

open Http

/-- A report as a response. -/
def Report.respond (report : Report) (probe : Probe) : BodyFormat → Response
  | .text => .text (probe.code report.status) report.reason
  | .json => .withBody (probe.code report.status) Response.jsonText report.json

/-- The format that a request asks for. -/
def Http.Request.bodyFormat (request : Request) : BodyFormat :=
  .negotiate (request.visibleHeader? "accept")

end GracefulService
