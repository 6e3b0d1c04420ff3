/-!
# The report of a probe

What a probe found out on a connection, or on several of them together.
-/

namespace OrderedEcho

namespace Probe

structure Report where
  connections : Nat := 0
  bytesSent : Nat := 0
  bytesRead : Nat := 0
  /-- Datagrams that did not come back in time. -/
  lost : Nat := 0
  /-- Datagrams that came back after one that was sent later. -/
  outOfOrder : Nat := 0
  deriving DecidableEq

/-- The report on the connections of both reports. -/
def Report.add (r t : Report) : Report where
  connections := r.connections + t.connections
  bytesSent := r.bytesSent + t.bytesSent
  bytesRead := r.bytesRead + t.bytesRead
  lost := r.lost + t.lost
  outOfOrder := r.outOfOrder + t.outOfOrder

instance : Add Report := ⟨Report.add⟩

end Probe

end OrderedEcho
