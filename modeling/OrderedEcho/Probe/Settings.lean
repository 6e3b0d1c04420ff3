import OrderedEcho.Settings

/-!
# Settings of a probe

A probe sends known bytes to an echo server and checks what comes back.  `Probe.Settings` says how
much it sends and how; `Probe.Settings.check` finds the first fault, in a fixed order.
-/

namespace OrderedEcho

namespace Probe

/-- The number of bytes at the start of a datagram that hold its index. -/
def headerSize : Nat := 8

/-- Everything that can be chosen about a probe. -/
structure Settings where
  server : SocketAddress
  protocol : Protocol
  connections : Nat := 1
  /-- The size of every send, and of every datagram. -/
  bufferSize : Nat := 4096
  /-- The number of sends on each connection. -/
  sends : Nat := 100
  /-- The number of datagrams that are sent ahead of their echoes. -/
  inFlight : Nat := 5
  /-- The time to wait for an echo, in nanoseconds. -/
  timeout : Nat := 5000000000

/-- What is wrong with the settings of a probe. -/
inductive SettingsError
  | noConnection
  | noBuffer
  | noHeader
  | noneInFlight
  deriving DecidableEq

def SettingsError.message : SettingsError → String
  | noConnection => "number of connections must be at least 1"
  | noBuffer => "buffer size must be at least 1"
  | noHeader => s!"datagrams must have at least {headerSize} bytes to hold their index"
  | noneInFlight => "number of datagrams in flight must be at least 1"

/-- Finds the first fault. -/
def Settings.check (s : Settings) : Except SettingsError Unit :=
  if s.connections = 0 then .error .noConnection
  else if s.bufferSize = 0 then .error .noBuffer
  else if s.protocol = .udp ∧ s.bufferSize < headerSize then .error .noHeader
  else if s.inFlight = 0 then .error .noneInFlight
  else .ok ()

end Probe

end OrderedEcho
