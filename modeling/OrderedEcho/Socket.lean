import OrderedEcho.IoError
import OrderedEcho.Operation

/-!
# Sockets

A `Socket` takes operations and keeps them until they complete.  It has a lane for each kind of
operation, with the operations in flight in the order of posting and with a schedule of posts that
are going to be refused.  A closed socket refuses every post; closing completes nothing by itself.

`Socket.history` lists everything that was asked of the socket, refused posts included.
-/

namespace OrderedEcho

/-! ## Refusals -/

/-- The answers that a lane is going to give to posts: the error of a refusal, or none if it takes
the operation. -/
structure Refusals where
  answers : Nat → Option IoError := fun _ => none
  /-- The number of answers that were given. -/
  asked : Nat := 0

namespace Refusals

/-- Takes the next `n` posts, then refuses `count` posts, then takes all. -/
def after (n count : Nat) (e : IoError) : Refusals :=
  { answers := fun k => if n ≤ k ∧ k < n + count then some e else none }

/-- The answer to the next post. -/
def next (r : Refusals) : Option IoError × Refusals :=
  (r.answers r.asked, { r with asked := r.asked + 1 })

end Refusals

/-! ## Sockets -/

/-- The operations of one kind that are in flight, in the order of posting. -/
structure Lane where
  inFlight : List Operation := []
  refusals : Refusals := {}

/-- One thing that was asked of a socket. -/
inductive SocketEvent
  | post (kind : OperationKind) (op : Operation) (refusal : Option IoError)
  | close

/-- Names a socket. -/
abbrev SocketId := Nat

/-- A socket, with what is in flight on it. -/
structure Socket where
  accepts : Lane := {}
  receives : Lane := {}
  sends : Lane := {}
  closed : Bool := false
  /-- Everything that was asked of the socket, in order. -/
  history : List SocketEvent := []

namespace Socket

def lane (s : Socket) : OperationKind → Lane
  | .accept => s.accepts
  | .receive => s.receives
  | .send => s.sends

/-- Replaces the lane for operations of one kind. -/
def setLane (s : Socket) (kind : OperationKind) (lane : Lane) : Socket :=
  match kind with
  | .accept => { s with accepts := lane }
  | .receive => { s with receives := lane }
  | .send => { s with sends := lane }

def note (s : Socket) (e : SocketEvent) : Socket := { s with history := s.history ++ [e] }

/-- Replaces the schedule of refusals of one lane. -/
def refuse (s : Socket) (kind : OperationKind) (refusals : Refusals) : Socket :=
  s.setLane kind { s.lane kind with refusals }

/-- Starts an operation, or says why not.  A post on a closed socket does not use up an answer of
the schedule. -/
def post (s : Socket) (kind : OperationKind) (op : Operation) : Option IoError × Socket :=
  if s.closed then (some .socketClosed, s.note (.post kind op (some .socketClosed)))
  else
    let (refusal, refusals) := (s.lane kind).refusals.next
    let inFlight :=
      if refusal.isNone then (s.lane kind).inFlight ++ [op] else (s.lane kind).inFlight
    (refusal, (s.setLane kind ⟨inFlight, refusals⟩).note (.post kind op refusal))

/-- Closes the socket.  What is in flight stays so until it is taken off. -/
def close (s : Socket) : Socket := { s with closed := true }.note .close

/-! ## Taking operations off a socket -/

/-- The operation at position `i` of a lane, and the socket without it. -/
def take? (s : Socket) (kind : OperationKind) (i : Nat) : Option (Operation × Socket) :=
  let lane := s.lane kind
  lane.inFlight[i]?.map fun op =>
    (op, s.setLane kind { lane with inFlight := lane.inFlight.eraseIdx i })

/-- The receive in slot `slot`, and the socket without it. -/
def takeReceive? (s : Socket) (slot : Slot) : Option (Operation × Socket) :=
  s.receives.inFlight.findIdx? (fun op => op.slot == some slot) >>= s.take? .receive

/-- All operations in flight: accepts, then receives, then sends. -/
def inFlight (s : Socket) : List Operation :=
  s.accepts.inFlight ++ s.receives.inFlight ++ s.sends.inFlight

/-- All operations in flight, and the socket without them. -/
def takeAll (s : Socket) : List Operation × Socket :=
  (s.inFlight,
    { s with
      accepts := { s.accepts with inFlight := [] }
      receives := { s.receives with inFlight := [] }
      sends := { s.sends with inFlight := [] } })

@[simp] theorem lane_setLane_self (s : Socket) (kind : OperationKind) (lane : Lane) :
    (s.setLane kind lane).lane kind = lane := by
  cases kind <;> rfl

theorem lane_setLane_of_ne (s : Socket) {kind kind' : OperationKind} (lane : Lane)
    (h : kind ≠ kind') : (s.setLane kind lane).lane kind' = s.lane kind' := by
  cases kind <;> cases kind' <;> first | rfl | exact absurd rfl h

@[simp] theorem closed_setLane (s : Socket) (kind : OperationKind) (lane : Lane) :
    (s.setLane kind lane).closed = s.closed := by
  cases kind <;> rfl

@[simp] theorem closed_post (s : Socket) (kind : OperationKind) (op : Operation) :
    (s.post kind op).2.closed = s.closed := by
  unfold post
  split
  · rfl
  · exact closed_setLane s kind _

end Socket

end OrderedEcho
