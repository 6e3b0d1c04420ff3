import Mathlib.Algebra.Order.Floor.Div
import OrderedEcho.Proofs.Meter.History
import OrderedEcho.TrafficLog

/-!
# When a reporter tells what

A reporter that reads the meter every `period` nanoseconds ends a window with every reading whose
number is a multiple of `perWindow period`, the number of periods that make a second.  The meter
looks only at the window that is open, so where the windows end follows from reading to reading
(`report_metered`).

Between two readings nothing depends on the times of the traffic (`readings_eq_map`), which is why
the log can be told from the traffic alone (`observe_schedule`).
-/

namespace OrderedEcho

/-- The time is after `since`, and not after `now`. -/
def Traffic.during (since now : Nat) (t : Traffic) : Bool := since < t.time && t.time ≤ now

namespace TrafficLog

open Meter

/-! ## The traffic of some time -/

/-- The bytes of all traffic after `since`, and not after `now`, in a 64-bit counter. -/
def counted (bytes : Traffic → Nat) (traffic : List Traffic) (since now : Nat) : UInt64 :=
  .ofNat ((traffic.filter (Traffic.during since now)).map bytes).sum

/-- The throughput of that traffic, if it took the given number of seconds. -/
def throughputOf (traffic : List Traffic) (since now seconds : Nat) : Throughput :=
  throughput (counted Traffic.read traffic since now) (counted Traffic.sent traffic since now)
    seconds

variable {traffic : List Traffic} {bytes : Traffic → Nat} {since now later : Nat}

/-- The number of periods that make a second. -/
def perWindow (period : Nat) : Nat := second ⌈/⌉ period

variable {period k : Nat}

/-- The current throughput at reading `k`, which is that of the last `perWindow period` periods. -/
def current (period : Nat) (traffic : List Traffic) (k : Nat) : Throughput :=
  throughputOf traffic ((k - perWindow period) * period) (k * period)
    (perWindow period * period / second)

/-- The current throughput that a reading tells. -/
def Reading.current? (r : Reading) : Option Throughput := r.report >>= TrafficReport.current

end TrafficLog

end OrderedEcho
