import OrderedEcho.Address.Text
import OrderedEcho.IoError
import OrderedEcho.Probe.Pattern
import OrderedEcho.Probe.Report
import OrderedEcho.Probe.Settings

/-!
# Streams of a probe

On a stream a probe sends the pattern from offset 0 on (`Stream.sends`).  It reads the echo in
pieces, as they arrive, and checks each of them at once (`Stream.receive`).  `Stream.report` is the
verdict on the whole echo.
-/

namespace OrderedEcho

namespace Probe

/-- Why no more of an echo is read. -/
inductive Ending
  /-- The server has closed the stream. -/
  | closed
  | failed (error : IoError)
  /-- Nothing arrived for as long as the probe waits. -/
  | timedOut

/-- What is wrong with a stream. -/
inductive StreamError
  | io (error : IoError)
  /-- Nothing arrived after the first `echoed` bytes. -/
  | silent (server : SocketAddress) (echoed total : Nat)
  /-- The byte at `position` is not the one of the pattern. -/
  | differs (server : SocketAddress) (position : Nat)
  /-- The server closed the stream, but not after `total` bytes. -/
  | closed (server : SocketAddress) (echoed total : Nat)
  deriving DecidableEq

def StreamError.message : StreamError → String
  | io error => error.message
  | silent server echoed total => s!"no echo from {server.render} after {echoed} of {total} bytes"
  | differs server position =>
    s!"echo from {server.render} differs from what was sent at byte {position}"
  | closed server echoed total =>
    s!"{server.render} closed the connection after echoing {echoed} of {total} bytes"

namespace Stream

/-- The number of bytes that are sent. -/
def total (s : Settings) : Nat := s.bufferSize * s.sends

/-- The bytes that are sent, one send after the other. -/
def sends (s : Settings) : List (List UInt8) :=
  (List.range s.sends).map fun n => Pattern.bytes (n * s.bufferSize) s.bufferSize

/-- The offset where the echo ends, if nothing was wrong until then. -/
def finish (s : Settings) (ending : Ending) (echoed : Nat) : Except StreamError Nat :=
  match ending with
  | .closed => .ok echoed
  | .failed e => .error (.io e)
  | .timedOut => .error (.silent s.server echoed (total s))

/-- Checks the pieces of an echo, of which `echoed` bytes were read before.  A piece has at least
one byte: a read of no bytes means that the server has closed the stream. -/
def receive (s : Settings) (ending : Ending) : List (List UInt8) → Nat → Except StreamError Nat
  | [], echoed => finish s ending echoed
  | piece :: pieces, echoed =>
    match Pattern.firstMismatch piece echoed with
    | some position => .error (.differs s.server position)
    | none => receive s ending pieces (echoed + piece.length)

/-- The verdict on a stream: on the echo first, then on the sends, which go on beside it. -/
def report (s : Settings) (pieces : List (List UInt8)) (ending : Ending)
    (sent : Except IoError Unit) : Except StreamError Report := do
  let echoed ← receive s ending pieces 0
  sent.mapError StreamError.io
  if echoed = total s then .ok { connections := 1, bytesSent := total s, bytesRead := echoed }
  else .error (.closed s.server echoed (total s))

end Stream

end Probe

end OrderedEcho
