import OrderedEcho.Address.Text
import OrderedEcho.Listing
import OrderedEcho.Slot

/-!
# Operations

An `Operation` is the record of one accept, receive or send: a buffer with what is needed to handle
the operation's completion.  It travels with the operation and comes back with its completion, so
the endpoint id in it says where the completion belongs.

A `Buffer` holds its bytes and remembers the room it takes up in memory, by which the pool judges
whether it is worth keeping.  No buffer has more room than `Buffer.maxRoom`.  The `capacity` of an
operation is a promise to the socket: a receive delivers at most that many bytes.
-/

namespace OrderedEcho

/-! ## Buffers -/

/-- Bytes, in a piece of memory with room for at least that many. -/
structure Buffer where
  bytes : List UInt8 := []
  room : Nat := 0
  deriving DecidableEq

namespace Buffer

/-- The most bytes that one piece of memory can have: sizes are signed 64-bit numbers there. -/
def maxRoom : Nat := 0x7fffffffffffffff

def ofRoom (n : Nat) : Buffer := { room := n }

def clear (b : Buffer) : Buffer := { b with bytes := [] }

/-- The buffer with other bytes in it, which grows if they need it. -/
def fill (b : Buffer) (bytes : List UInt8) : Buffer := ⟨bytes, max b.room bytes.length⟩

def truncate (b : Buffer) (n : Nat) : Buffer := { b with bytes := b.bytes.take n }

/-- Exactly `n` bytes: the first ones, and zeros after them. -/
def resize (b : Buffer) (n : Nat) : Buffer :=
  b.fill (b.bytes.take n ++ List.replicate (n - b.bytes.length) 0)

@[simp] theorem length_resize (b : Buffer) (n : Nat) : (b.resize n).bytes.length = n := by
  simp only [resize, fill, List.length_append, List.length_take, List.length_replicate]
  omega

end Buffer

/-! ## Operations -/

/-- Names an endpoint for as long as the server runs. -/
abbrev EndpointId := Nat

namespace EndpointId

/-- The id as it is listed in messages. -/
def render (id : EndpointId) : String := s!"#{id}"

/-- The id as it is listed inside an operation's description. -/
def describe (id : EndpointId) : String := s!"ConnectionId({id})"

end EndpointId

/-- What an operation asks of its socket. -/
inductive OperationKind
  | accept
  | receive
  | send
  deriving DecidableEq

/-- The kind as it is listed in messages. -/
def OperationKind.name : OperationKind → String
  | accept => "Accept"
  | receive => "Receive"
  | send => "Send"

/-- The record of one operation. -/
structure Operation where
  kind : OperationKind
  endpoint : Option EndpointId := none
  buffer : Buffer
  /-- The most bytes that a receive delivers. -/
  capacity : Nat
  /-- The sender of a received datagram, to whom the echo goes. -/
  peer : Option SocketAddress := none
  /-- Given to a receive when it is posted, and kept by the send that it turns into. -/
  slot : Option Slot := none
  deriving DecidableEq

namespace Operation

/-- The bytes that were received, or that are to be sent. -/
def payload (op : Operation) : List UInt8 := op.buffer.bytes

/-- Opens the whole capacity to the socket.  What the payload does not cover is zero. -/
def openBuffer (op : Operation) : Operation := { op with buffer := op.buffer.resize op.capacity }

/-- Keeps the first `n` bytes of the payload. -/
def truncate (op : Operation) (n : Nat) : Operation :=
  { op with buffer := op.buffer.truncate n }

/-- Replaces the payload.  It may be longer than the capacity. -/
def setPayload (op : Operation) (data : List UInt8) : Operation :=
  { op with buffer := op.buffer.fill data }

/-- Overwrites the payload from its beginning with as much of `data` as fits. -/
def overwrite (op : Operation) (data : List UInt8) : Operation :=
  op.setPayload (data.take op.payload.length ++ op.payload.drop data.length)

/-- What a socket does with a receive: it writes as much of `data` as the capacity allows, and
leaves that as the payload. -/
def deliver (op : Operation) (data : List UInt8) : Operation :=
  (op.openBuffer.overwrite data).truncate data.length

/-- Moves the buffer out, which leaves the operation without one. -/
def takeBuffer (op : Operation) : Buffer × Operation :=
  (op.buffer, { op with buffer := {}, capacity := 0 })

/-- Turns a completed receive into the send that echoes it.  All but the kind stays. -/
def becomeSend (op : Operation) : Operation := { op with kind := .send }

/-- The operation as a receive of endpoint `id` in slot `s`. -/
def asReceive (op : Operation) (id : EndpointId) (s : Slot) : Operation :=
  { op.truncate 0 with kind := .receive, endpoint := some id, slot := some s, peer := none }

/-- The operation as an accept of endpoint `id`. -/
def asAccept (op : Operation) (id : EndpointId) : Operation :=
  { op.truncate 0 with kind := .accept, endpoint := some id, slot := none }

@[simp] theorem payload_setPayload (op : Operation) (data : List UInt8) :
    (op.setPayload data).payload = data := rfl

@[simp] theorem payload_truncate (op : Operation) (n : Nat) :
    (op.truncate n).payload = op.payload.take n := rfl

@[simp] theorem length_payload_openBuffer (op : Operation) :
    op.openBuffer.payload.length = op.capacity :=
  op.buffer.length_resize op.capacity

theorem payload_deliver (op : Operation) (data : List UInt8) :
    (op.deliver data).payload = data.take op.capacity := by
  simp only [deliver, payload_truncate, overwrite, payload_setPayload, length_payload_openBuffer]
  by_cases h : data.length ≤ op.capacity
  · rw [List.take_of_length_le h, List.take_left]
  · have h : op.capacity ≤ data.length := by omega
    rw [List.drop_eq_nil_of_le (by simpa using h), List.append_nil, List.take_take,
      Nat.min_eq_right h]

/-! ## Description -/

/-- All that is known of the operation, except its bytes, on one line. -/
def describe (op : Operation) : String :=
  "IoDescriptor \x7b kind: " ++ op.kind.name ++
  ", connection: " ++ Listing.option EndpointId.describe op.endpoint ++
  ", len: " ++ toString op.payload.length ++
  ", capacity: " ++ toString op.capacity ++
  ", peer_addr: " ++ Listing.option SocketAddress.render op.peer ++
  ", sequence: " ++ Listing.option Slot.describe op.slot ++ " \x7d"

end Operation

end OrderedEcho
