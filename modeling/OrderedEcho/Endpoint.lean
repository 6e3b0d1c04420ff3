import OrderedEcho.Resequencer
import OrderedEcho.Socket

/-!
# Endpoints

An endpoint is the server's side of a socket: a listener, an accepted stream, or a datagram socket.
`EndpointInfo` is what never changes about it, and `Endpoint` adds its state: how many operations
are in flight, how far it has been closed, which receives are owed to it, and its resequencer.

Closing an endpoint has three stages, of which each includes those before it.  A closing endpoint
posts no more receives or accepts, but what it received is still echoed.  An aborted one echoes
nothing any more.  A destroyed one has nothing in flight, and its socket is out of its reach.
-/

namespace OrderedEcho

/-- What an endpoint does with its socket. -/
inductive EndpointKind
  /-- Posts accepts, and neither receives nor sends. -/
  | listener
  /-- An accepted connection. -/
  | stream
  /-- Echoes each datagram to its sender. -/
  | datagram
  deriving DecidableEq

/-- The slot of the first receive.  Slot 0 of a stream belongs to the data that came with the
accept. -/
def EndpointKind.firstReceive : EndpointKind → Slot
  | stream => 1
  | listener | datagram => 0

/-- What never changes about an endpoint. -/
structure EndpointInfo where
  id : EndpointId
  kind : EndpointKind
  family : AddressFamily
  /-- The other side of a stream. -/
  peer : Option SocketAddress := none
  deriving DecidableEq

/-- An endpoint with its state. -/
structure Endpoint extends EndpointInfo where
  socket : SocketId
  /-- The number of operations that were posted and whose completions were not handled yet. -/
  outstanding : Nat := 0
  closing : Bool := false
  /-- Closed because of an error: nothing more is echoed. -/
  aborted : Bool := false
  destroyed : Bool := false
  /-- The number of receives that could not be posted and are to be posted later. -/
  deferred : Nat := 0
  /-- The number of entries that the resequencer handed back, each of which is worth a warning. -/
  rejected : Nat := 0
  resequencer : Resequencer Operation

namespace Endpoint

def ofInfo (info : EndpointInfo) (socket : SocketId) : Endpoint :=
  { info with socket, resequencer := .ofFirst info.kind.firstReceive }

/-- Owes the endpoint one more receive, unless it is closing. -/
def defer (e : Endpoint) : Endpoint :=
  if e.closing then e else { e with deferred := e.deferred + 1 }

def start (e : Endpoint) : Endpoint := { e with outstanding := e.outstanding + 1 }

def finish (e : Endpoint) : Endpoint := { e with outstanding := e.outstanding - 1 }

/-- Counts an entry that the resequencer handed back. -/
def reject (e : Endpoint) : Endpoint := { e with rejected := e.rejected + 1 }

/-- Nothing is left to do for a closing endpoint. -/
def Destroyable (e : Endpoint) : Prop :=
  e.destroyed = false ∧ e.closing ∧ e.outstanding = 0 ∧ e.resequencer.isIdle

instance (e : Endpoint) : Decidable e.Destroyable := by
  unfold Destroyable
  infer_instance

/-- Destroys the endpoint if nothing is left to do for it, and says whether it did. -/
def tryDestroy (e : Endpoint) : Bool × Endpoint :=
  if e.Destroyable then (true, { e with destroyed := true }) else (false, e)

end Endpoint

end OrderedEcho
