/-!
# Errors of sockets

An operation on a socket fails with an `IoError`: a kind, by which the server decides what to do,
and a message, which is the error's whole text.
-/

namespace OrderedEcho

/-- What kind of thing went wrong on a socket. -/
inductive IoErrorKind
  | connectionAborted
  | connectionReset
  | connectionRefused
  | interrupted
  | permissionDenied
  | brokenPipe
  | wouldBlock
  | notConnected
  | invalidInput
  | timedOut
  | other
  deriving DecidableEq

/-- An error of a socket. -/
structure IoError where
  kind : IoErrorKind
  message : String
  deriving DecidableEq

namespace IoError

/-- The error of posting an operation on a closed socket. -/
def socketClosed : IoError := ⟨.notConnected, "socket is closed"⟩

/-- The error of an operation that was in flight when its socket was closed. -/
def abandoned : IoError := ⟨.connectionAborted, "socket was closed"⟩

/-- An accept that fails in this way says nothing about later accepts. -/
def isTransient (e : IoError) : Bool :=
  match e.kind with
  | .connectionAborted | .connectionReset | .interrupted => true
  | _ => false

end IoError

end OrderedEcho
