import OrderedEcho.Link.Completed
import OrderedEcho.Server

/-!
# What the server does when an operation completes

`Server.handle` finds the endpoint of a completion and lets it act.  Whatever a completion was, it
may have freed operations, so the endpoints that wait for receives try again afterwards
(`resumeStarved`).  The order in which they do is left open.  After each act of an endpoint the
server looks whether it can be retired.
-/

namespace OrderedEcho

namespace Server

/-! ## Accepts -/

/-- Registers an accepted connection and starts its stream. -/
def openStream (s : Server) (a : Accepted) (data : List UInt8) : EndpointId × Server :=
  let (id, s) := s.register .stream a.peer.family (some a.peer) a.socket
  let s := if s.shuttingDown then s.modifyLink id (·.close true) else s
  (id, ((s.act id (Link.welcome data s.settings.fanOut)).retire id).2)

/-- Posts a completed accept again. -/
def repostAccept (s : Server) (id : EndpointId) (op : Operation) : Server :=
  ((s.modifyLink id fun l => (l.postAccept op).2).retire id).2

/-- Does not post a completed accept again. -/
def dropAccept (s : Server) (id : EndpointId) (op : Operation) : Server :=
  ((s.release op).retire id).2

/-- An accept of the endpoint completed.  A connection that it delivers is closed at once if the
listener or the server is closing.  An error ends the accept, unless it says nothing about later
ones. -/
def acceptCompleted (s : Server) (id : EndpointId) (c : Completion) : Server :=
  let s := s.modifyLink id Link.finish
  match c.result, c.accepted with
  | .ok n, some a =>
    if (s.endpoints.get id).closing ∨ s.shuttingDown then
      (s.modifySocket a.socket .close).dropAccept id c.operation
    else
      let s := { s with meter := s.meter.addRead n }
      (s.openStream a c.operation.payload).2.repostAccept id c.operation
  | .ok _, none => s.repostAccept id c.operation
  | .error e, _ =>
    if e.isTransient then s.repostAccept id c.operation else s.dropAccept id c.operation

/-! ## Receives and sends -/

/-- A receive of the endpoint completed.  One without a slot cannot be echoed. -/
def receiveCompleted (s : Server) (id : EndpointId) (op : Operation)
    (result : Except IoError Nat) : Server :=
  let s := s.modifyLink id Link.finish
  match op.slot with
  | none => ((s.release op).retire id).2
  | some slot =>
    let s :=
      match result with
      | .ok n => { s with meter := s.meter.addRead n }
      | .error _ => s
    ((s.act id (Link.received op slot result)).retire id).2

/-- A send of the endpoint completed. -/
def sendCompleted (s : Server) (id : EndpointId) (op : Operation)
    (result : Except IoError Nat) : Server :=
  let s := s.modifyLink id Link.finish
  let s :=
    match result with
    | .ok n => { s with meter := s.meter.addSent n }
    | .error _ => s
  ((s.act id (Link.sent op result)).retire id).2

/-- An operation of the endpoint completed. -/
def complete (s : Server) (id : EndpointId) (c : Completion) : Server :=
  match c.operation.kind with
  | .accept => s.acceptCompleted id c
  | .receive => s.receiveCompleted id c.operation c.result
  | .send => s.sendCompleted id c.operation c.result

/-! ## Starved endpoints -/

/-- Retries the deferred receives of an endpoint, if it is still registered and has any. -/
def resume (s : Server) (id : EndpointId) : Server :=
  if s.directory.contains id ∧ (s.endpoints.get id).deferred ≠ 0 then
    ((s.act id fun l => Link.settle l.resume).retire id).2
  else s

/-- Retries the deferred receives of the endpoints, which are no longer taken to be starved. -/
def resumeAll (s : Server) (ids : List EndpointId) : Server :=
  ids.foldl resume { s with starved := .empty }

/-- Retries the deferred receives of all starved endpoints, in any order. -/
def resumeStarved (s : Server) (order : VisitingOrder) : Server :=
  s.resumeAll (order.arrange s.starved.toList)

/-! ## Completions -/

/-- Handles a completion, after which the starved endpoints come in the given order.  If its
operation belongs to no registered endpoint, it is given back to the pool. -/
def handle (s : Server) (c : Completion) (order : VisitingOrder) : Server :=
  match c.operation.endpoint.filter s.directory.contains with
  | some id => (s.complete id c).resumeStarved order
  | none => s.release c.operation

end Server

end OrderedEcho
