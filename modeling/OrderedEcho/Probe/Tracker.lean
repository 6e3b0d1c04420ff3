/-!
# Counting datagrams that come back

A `Tracker` counts the echoes of datagrams that are sent with consecutive indices.  An echo that
skips ahead counts the skipped datagrams as lost; if one of them comes back later, it counts as out
of order instead.

The counts are natural numbers.  They are those of 64-bit counters while fewer than 2⁶⁴ datagrams
are sent and fewer than 2⁶⁴ echoes arrive.
-/

namespace OrderedEcho

namespace Probe

/-- The counts of a probe's datagrams. -/
structure Tracker where
  /-- The index of the datagram that is sent next. -/
  nextSend : Nat := 0
  /-- The index that comes back next if none is lost. -/
  nextExpected : Nat := 0
  lost : Nat := 0
  outOfOrder : Nat := 0
  deriving DecidableEq

namespace Tracker

/-- The number of datagrams whose echoes are awaited. -/
def inFlight (t : Tracker) : Nat := t.nextSend - t.nextExpected

/-- `n` more datagrams were sent. -/
def sent (t : Tracker) (n : Nat) : Tracker := { t with nextSend := t.nextSend + n }

/-- The echo of datagram `i` arrived.  One that was never sent does not count. -/
def echoed (t : Tracker) (i : Nat) : Tracker :=
  if t.nextSend ≤ i then t
  else if t.nextExpected ≤ i then
    { t with lost := t.lost + (i - t.nextExpected), nextExpected := i + 1 }
  else { t with outOfOrder := t.outOfOrder + 1, lost := t.lost - 1 }

/-- All echoes that are awaited are given up. -/
def timedOut (t : Tracker) : Tracker :=
  { t with lost := t.lost + t.inFlight, nextExpected := t.nextSend }

end Tracker

end Probe

end OrderedEcho
