/-!
# The meter

A `Meter` counts the bytes that were read and sent, in 64-bit counters that wrap around.
`Meter.report` turns the counts into throughputs in bytes per second: an average since the start,
and a current one since the last report that had a current one.  Only whole seconds count.

Times are in nanoseconds.  A clock may go backwards, in which case no time has passed.
-/

namespace OrderedEcho

/-- Bytes per second, rounded down. -/
structure Throughput where
  read : Nat
  sent : Nat
  deriving DecidableEq

/-- What a meter tells about the traffic. -/
structure TrafficReport where
  /-- All bytes since the start. -/
  read : Nat
  sent : Nat
  average : Throughput
  /-- The throughput of the window that this report ends, if it ends one. -/
  current : Option Throughput
  deriving DecidableEq

structure Meter where
  read : UInt64 := 0
  sent : UInt64 := 0
  /-- Bytes of the window that has not been reported. -/
  windowRead : UInt64 := 0
  windowSent : UInt64 := 0
  started : Int
  /-- The time at which the window begins. -/
  windowStart : Int

namespace Meter

def startingAt (now : Int) : Meter := { started := now, windowStart := now }

def addRead (m : Meter) (n : Nat) : Meter :=
  { m with read := m.read + .ofNat n, windowRead := m.windowRead + .ofNat n }

def addSent (m : Meter) (n : Nat) : Meter :=
  { m with sent := m.sent + .ofNat n, windowSent := m.windowSent + .ofNat n }

/-- A second, in nanoseconds. -/
def second : Nat := 1000000000

/-- The whole seconds from one time to another. -/
def wholeSeconds (since now : Int) : Nat := (now - since).toNat / second

/-- The throughput of the bytes in the given number of seconds. -/
def throughput (read sent : UInt64) (seconds : Nat) : Throughput :=
  ⟨read.toNat / seconds, sent.toNat / seconds⟩

/-- Ends the window, if it has lasted a second. -/
def endWindow (m : Meter) (now : Int) : Option Throughput × Meter :=
  let seconds := wholeSeconds m.windowStart now
  if seconds = 0 then (none, m)
  else
    (some (throughput m.windowRead m.windowSent seconds),
      { m with windowRead := 0, windowSent := 0, windowStart := now })

/-- Reports on the traffic, unless less than a second has passed since the start. -/
def report (m : Meter) (now : Int) : Option TrafficReport × Meter :=
  let seconds := wholeSeconds m.started now
  if seconds = 0 then (none, m)
  else
    let (current, m') := m.endWindow now
    (some ⟨m.read.toNat, m.sent.toNat, throughput m.read m.sent seconds, current⟩, m')

end Meter

end OrderedEcho
