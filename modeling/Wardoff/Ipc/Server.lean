import Wardoff.Ipc.System

/-!
# The primary runtime as one server

What the workers, the queue, the wake-up messages and the reply channels are for: a server that
takes the requests in the order in which they are submitted, answers one at a time, and between two
requests handles the other events of its thread. `serverStep` is that server, without threads.
-/

open Runtime (Application Event RequestCalls)

namespace Ipc

/-- A server that handles one thing at a time. -/
structure Server (Handle : Type) where
  app : Application Handle
  /-- The requests that were submitted and not taken up. -/
  waiting : List PendingRequest := []
  /-- The requests that were answered, in this order. -/
  answered : List Handled := []

inductive ServerAct (Handle : Type) where
  | submit (pending : PendingRequest)
  /-- Answers the request that has waited longest. -/
  | serve (o : RequestCalls Handle)
  | event (e : Event Handle)
  /-- Turns down the request that has waited longest. -/
  | refuse

variable {Handle : Type}

def serverStep (q : Server Handle) : ServerAct Handle → Option (Server Handle)
  | .submit pending => some { q with waiting := q.waiting ++ [pending] }
  | .serve o =>
    match q.waiting with
    | pending :: waiting =>
      let (response, app) := q.app.handleIpcRequest o pending.request
      some { app, waiting, answered := q.answered ++ [⟨pending.id, pending.request, response⟩] }
    | [] => none
  | .event e => some { q with app := e.handle q.app }
  | .refuse =>
    match q.waiting with
    | _ :: waiting => some { q with waiting }
    | [] => none

end Ipc
