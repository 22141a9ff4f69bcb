import DeviceAdmission.Call.Grpc
import DeviceAdmission.Gate.Stage

/-!
# Chains of stages

A call passes the stages of a chain in order; the first refusal ends the run, and its failure gets
the request id if it has no correlation id. The context that the handler sees names the identity of
the last stage that established one. `runWithHandler` and `serveUnary` put a chain in front of a
handler, for callers in the process and for gRPC.
-/
namespace DeviceAdmission.Gate

open Call (Context Instant)

abbrev Chain := List Stage

namespace Chain

def names (chain : Chain) : List String := chain.map (·.name)

/-- Passes a call through the stages and gives the context for the handler. -/
def run : Chain → Context → Call → Instant → Run (Except Refusal Context)
  | [], cx, _, now => Run.done now (.ok cx)
  | stage :: rest, cx, call, now =>
    (stage.handle cx call now).andThen fun now outcome =>
      match outcome with
      | .error refusal => Run.done now (.error (refusal.correlate cx.requestId))
      | .ok .proceed => run rest cx call now
      | .ok (.authenticated identity) => run rest (cx.withIdentity identity) call now

/-- Invokes the handler once if the call is admitted, and never otherwise. A handler's failure gets
the request id like a stage's. -/
def runWithHandler (chain : Chain) (k : Message.Kind)
    (handler : Context → Call → Instant → Run (Except Refusal k.Payload)) (cx : Context)
    (call : Call) (now : Instant) : Run (Except (Rejection k) k.Payload) :=
  (run chain cx call now).andThen fun now admitted =>
    match admitted with
    | .error refusal => Run.done now (.error (refusal.toRejection k))
    | .ok cx =>
      Run.after [.handled call.method call.message cx now] <|
        (handler cx call now).map fun result =>
          result.mapError fun refusal => (refusal.correlate cx.requestId).toRejection k

/-- Answers a gRPC request: with the handler's outcome if the call is admitted, else with the status
of the refusal. -/
def serveUnary {α : Type} (chain : Chain) (fresh method : String) (request : Grpc.Request)
    (handler : Context → Grpc.Request → Instant → Run (Except Grpc.Status α)) (now : Instant) :
    Run (Except Grpc.Status α) :=
  (run chain (request.context fresh now) (request.call method) now).andThen fun now admitted =>
    match admitted with
    | .error refusal => Run.done now (.error refusal.toStatus)
    | .ok cx =>
      Run.after [.handled method request.message cx now] (handler cx request now)

end Chain

end DeviceAdmission.Gate
