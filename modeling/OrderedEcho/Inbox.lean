import OrderedEcho.Pool
import OrderedEcho.Socket

/-!
# The inbox

Completions of all sockets go into one `Inbox`, from which they are taken in the order of their
arrival.  Once the inbox is gone, completions that arrive are dropped, and their operations end.
-/

namespace OrderedEcho

/-- A connection that an accept delivered. -/
structure Accepted where
  socket : SocketId
  peer : SocketAddress

/-- The end of an operation. -/
structure Completion where
  operation : Operation
  /-- The number of bytes that were transferred. -/
  result : Except IoError Nat
  accepted : Option Accepted := none

/-- Completions that wait to be handled. -/
structure Inbox where
  waiting : List Completion := []
  gone : Bool := false

namespace Inbox

/-- Puts a completion into the inbox. -/
def deliver (b : Inbox) (c : Completion) (p : Pool) : Inbox × Pool :=
  if b.gone then (b, p.drop) else ({ b with waiting := b.waiting ++ [c] }, p)

/-- Takes the first completion out. -/
def next? (b : Inbox) : Option (Completion × Inbox) :=
  match b.waiting with
  | [] => none
  | c :: waiting => some (c, { b with waiting })

/-- Does away with the inbox and what is waiting in it. -/
def discard (b : Inbox) (p : Pool) : Inbox × Pool :=
  ({ waiting := [], gone := true }, b.waiting.foldl (fun p _ => p.drop) p)

end Inbox

end OrderedEcho
