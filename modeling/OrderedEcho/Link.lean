import OrderedEcho.Endpoint
import OrderedEcho.Pool

/-!
# Links

A `Link` is an endpoint with its socket and the pool: all that an operation on the endpoint can read
or change.  This file posts operations (`postReceive`, `postAccept`), holds back and sends what was
received (`park`, `drain`), closes (`close`), and retries receives that could not be posted
(`resume`).

Two rules keep the order of echoes.  A receive gets its slot when it is posted, so slots are in the
order of posting.  And every slot that was handed out is filled by exactly one entry in the end,
with something to send or not, so no slot holds back the ones after it forever.
-/

namespace OrderedEcho

/-- Why an operation could not be posted. -/
inductive PostError
  | closing
  | noResources (e : Exhausted)
  | refused (e : IoError)
  deriving DecidableEq

def PostError.message : PostError → String
  | closing => "connection is closing"
  | noResources e => e.message
  | refused e => s!"socket refused the operation: {e.message}"

/-- The message for an operation of the given kind that a socket refused. -/
def OperationKind.refusalMessage (kind : OperationKind) (e : IoError) : String :=
  s!"posting {kind.name} failed: {e.message}"

/-- What posting an operation came to. -/
abbrev PostResult := Except PostError Unit

/-- An endpoint, its socket, and the pool. -/
structure Link where
  endpoint : Endpoint
  socket : Socket
  pool : Pool

namespace Link

def release (l : Link) (op : Operation) : Link := { l with pool := l.pool.release op }

/-- Gives the operation of an entry back to the pool, if there is one. -/
def releaseEntry (l : Link) : Entry Operation → Link
  | .data op => l.release op
  | .skip => l

/-- The endpoint posts neither receives nor accepts. -/
def Refuses (l : Link) : Prop := l.endpoint.closing ∨ l.endpoint.destroyed

instance (l : Link) : Decidable l.Refuses := by
  unfold Refuses
  infer_instance

/-! ## Closing -/

/-- Stops posting.  A fatal close also gives up what waits to be sent, and closes the socket, which
ends the operations in flight. -/
def close (l : Link) (fatal : Bool) : Link :=
  let endpoint := { l.endpoint with closing := true, deferred := 0 }
  if fatal then
    let (given, resequencer) := endpoint.resequencer.discard
    { endpoint := { endpoint with aborted := true, resequencer }
      socket := if endpoint.destroyed then l.socket else l.socket.close
      pool := given.foldl Pool.release l.pool }
  else { l with endpoint }

/-! ## Sending in order -/

/-- Fills a slot.  Nothing is held back for an aborted endpoint, and an entry that the resequencer
does not take is counted and dropped. -/
def park (l : Link) (s : Slot) (e : Entry Operation) : Link :=
  if l.endpoint.aborted then l.releaseEntry e
  else
    match l.endpoint.resequencer.insert s e with
    | .ok resequencer => { l with endpoint := { l.endpoint with resequencer } }
    | .error e => { l with endpoint := l.endpoint.reject }.releaseEntry e

/-- Posts a send, and says whether the socket took it.  A datagram that the socket refuses is lost;
a refused send on a stream is fatal. -/
def send (l : Link) (op : Operation) : Bool × Link :=
  if l.endpoint.destroyed then (false, l.release op)
  else
    match l.socket.post .send op with
    | (none, socket) => (true, { l with endpoint := l.endpoint.start, socket })
    | (some _, socket) =>
      let l := { l with socket }.release op
      (false, if l.endpoint.kind = .datagram then l else l.close true)

/-- Lets up to `n` entries go, and counts the sends that the socket took. -/
def drainUpTo : Nat → Link → Nat × Link
  | 0, l => (0, l)
  | n + 1, l =>
    match l.endpoint.resequencer.release? with
    | none => (0, l)
    | some ((_, e), resequencer) =>
      let l := { l with endpoint := { l.endpoint with resequencer } }
      match e with
      | .skip => drainUpTo n l
      | .data op =>
        let (taken, l) := l.send op
        let (count, l) := drainUpTo n l
        (if taken then count + 1 else count, l)

/-- Sends everything that is next in order, and counts the sends that the socket took. -/
def drain (l : Link) : Nat × Link := l.drainUpTo l.endpoint.resequencer.waiting.toList.length

/-- Fills a slot and sends what is next in order. -/
def fill (l : Link) (s : Slot) (e : Entry Operation) : Link := (l.park s e).drain.2

/-! ## Posting -/

/-- Posts the operation as a receive in the next slot.  If the socket refuses it, the slot is passed
over. -/
def postReceive (l : Link) (op : Operation) : PostResult × Link :=
  if l.Refuses then (.error .closing, l.release op)
  else
    let (op, pool) := l.pool.equip op
    let (s, resequencer) := l.endpoint.resequencer.assign
    let op := op.asReceive l.endpoint.id s
    let endpoint := { l.endpoint with resequencer }
    match l.socket.post .receive op with
    | (none, socket) => (.ok (), ⟨endpoint.start, socket, pool⟩)
    | (some e, socket) => (.error (.refused e), (release ⟨endpoint, socket, pool⟩ op).fill s .skip)

/-- Posts a new receive.  If the pool has no operation to hand out, the receive is deferred. -/
def postNewReceive (l : Link) : PostResult × Link :=
  if l.endpoint.closing then (.error .closing, l)
  else
    match l.pool.allocate .receive l.pool.bufferSize with
    | .ok (op, pool) => { l with pool }.postReceive op
    | .error e => (.error (.noResources e), { l with endpoint := l.endpoint.defer })

/-- Posts the operation as an accept. -/
def postAccept (l : Link) (op : Operation) : PostResult × Link :=
  if l.Refuses then (.error .closing, l.release op)
  else
    let op := op.asAccept l.endpoint.id
    match l.socket.post .accept op with
    | (none, socket) => (.ok (), { l with endpoint := l.endpoint.start, socket })
    | (some e, socket) => (.error (.refused e), { l with socket }.release op)

/-- Posts a new accept, which has no buffer. -/
def postNewAccept (l : Link) : PostResult × Link :=
  match l.pool.allocate .accept 0 with
  | .ok (op, pool) => { l with pool }.postAccept op
  | .error e => (.error (.noResources e), l)

/-- A post failed, and some posts after it were not even tried. -/
structure Interruption where
  error : PostError
  untried : Nat

/-- Posts `n` times, until a post fails. -/
def postMany (post : Link → PostResult × Link) : Nat → Link → Option Interruption × Link
  | 0, l => (none, l)
  | n + 1, l =>
    match post l with
    | (.ok (), l) => postMany post n l
    | (.error e, l) => (some ⟨e, n⟩, l)

/-! ## Retrying -/

/-- Posts the deferred receives, until one cannot be posted.  Those that were not tried stay
deferred; the failed one is the business of `postNewReceive` or `settle`. -/
def resume (l : Link) : PostResult × Link :=
  match postMany postNewReceive l.endpoint.deferred
      { l with endpoint := { l.endpoint with deferred := 0 } } with
  | (none, l) => (.ok (), l)
  | (some i, l) =>
    let deferred :=
      if l.endpoint.closing then l.endpoint.deferred else l.endpoint.deferred + i.untried
    (.error i.error, { l with endpoint := { l.endpoint with deferred } })

/-- Deals with a receive that could not be posted, and says whether the endpoint has to wait for
its receives.  A refusal is fatal, except on a datagram socket, where the receive is deferred. -/
def settle (r : PostResult × Link) : Bool × Link :=
  match r with
  | (.ok (), l) => (false, l)
  | (.error .closing, l) => (false, l)
  | (.error (.noResources _), l) => (true, l)
  | (.error (.refused _), l) =>
    if l.endpoint.kind = .datagram then (true, { l with endpoint := l.endpoint.defer })
    else (false, l.close true)

end Link

end OrderedEcho
