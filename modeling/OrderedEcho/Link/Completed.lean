import OrderedEcho.Link

/-!
# What an endpoint does when an operation completes

A completed receive turns into the send that echoes it (`received`), and a new receive takes its
place.  A completed send makes room for deferred receives (`sent`).  An accepted stream begins with
the data that came with the accept, and with its first receives (`welcome`).

Each of these says whether the endpoint has to wait for receives that could not be posted.
-/

namespace OrderedEcho

namespace Link

/-- The completion of an operation of the endpoint is about to be handled. -/
def finish (l : Link) : Link := { l with endpoint := l.endpoint.finish }

/-- The entry that echoes the data of an accept, even if there is none.  If the pool has no
operation to hand out, the data is lost. -/
def acceptEntry (l : Link) (data : List UInt8) : Entry Operation × Link :=
  match l.pool.allocate .send data.length with
  | .ok (op, pool) =>
    (.data ({ op with endpoint := some l.endpoint.id, slot := some 0 }.setPayload data),
      { l with pool })
  | .error _ => (.skip, l)

/-- Starts a stream: the data of the accept goes into slot 0, and `fanOut` receives are posted. -/
def welcome (data : List UInt8) (fanOut : Nat) (l : Link) : Bool × Link :=
  let (entry, l) := l.acceptEntry data
  match postMany postNewReceive fanOut (l.fill 0 entry) with
  | (none, l) => (false, l)
  | (some i, l) => settle (.error i.error, l)

/-- The receive in slot `s` completed with `n` bytes: they are echoed, and a new receive is posted
unless the endpoint is closing. -/
def echo (op : Operation) (s : Slot) (n : Nat) (l : Link) : Bool × Link :=
  let l := l.fill s (.data (op.truncate n).becomeSend)
  if l.endpoint.closing then (false, l) else settle l.postNewReceive

/-- A receive completed with no bytes, which is the end of the stream: the endpoint closes as soon
as all that was received is echoed. -/
def endOfStream (op : Operation) (s : Slot) (l : Link) : Link :=
  ((l.close false).release op).fill s .skip

/-- A receive of a datagram socket failed, which says nothing about later receives: its slot is
passed over, and it is posted again unless the endpoint is closing. -/
def retry (op : Operation) (s : Slot) (l : Link) : Bool × Link :=
  if l.endpoint.closing then (false, l.release op)
  else settle ((l.fill s .skip).postReceive op)

/-- The receive in slot `s` completed. -/
def received (op : Operation) (s : Slot) (result : Except IoError Nat) (l : Link) : Bool × Link :=
  match l.endpoint.kind, result with
  | .stream, .ok 0 => (false, l.endOfStream op s)
  | _, .ok n => l.echo op s n
  | .datagram, .error _ => l.retry op s
  | _, .error _ => (false, (l.release op).close true)

/-- A send completed.  A failed one is fatal, except on a datagram socket. -/
def sent (op : Operation) (result : Except IoError Nat) (l : Link) : Bool × Link :=
  let l : Link :=
    match result with
    | .ok _ => l
    | .error _ => if l.endpoint.kind = .datagram then l else l.close true
  let l := (l.release op).drain.2
  if l.endpoint.deferred = 0 then (false, l) else settle l.resume

end Link

end OrderedEcho
