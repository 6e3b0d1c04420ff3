import OrderedEcho.Meter

/-!
# The traffic log

A reporter reads a meter and the gauges at regular times (`TrafficLog.observe`) and logs what it
finds (`Reading.lines`).  The clock starts at zero, and the traffic is given by its times, in
nanoseconds.
-/

namespace OrderedEcho

/-- What is logged beside the traffic. -/
structure Gauges where
  connections : Nat
  outstanding : Nat

/-- Bytes that are counted at some time. -/
structure Traffic where
  time : Nat
  read : Nat
  sent : Nat

namespace TrafficLog

/-- All bytes, and the average throughput. -/
def averageLine (r : TrafficReport) : String :=
  s!"average BPS sent: {r.average.sent} [{r.sent}], average BPS read: {r.average.read} [{r.read}]"

def currentLine (t : Throughput) : String :=
  s!"current BPS sent: {t.sent}, current BPS read: {t.read}"

def gaugesLine (g : Gauges) : String :=
  s!"{g.connections} connections, {g.outstanding} outstanding descriptors"

/-- The line in place of a report in the first second. -/
def earlyLine : String := "less than a second since start - no statistics yet"

/-- What a reporter finds at one time. -/
structure Reading where
  time : Nat
  gauges : Gauges
  report : Option TrafficReport

/-- The lines for one reading. -/
def Reading.lines (r : Reading) : List String :=
  match r.report with
  | none => [earlyLine]
  | some t => averageLine t :: (t.current.map currentLine).toList ++ [gaugesLine r.gauges]

def count (m : Meter) (t : Traffic) : Meter := (m.addRead t.read).addSent t.sent

/-- `n` readings, `period` apart, of which the first is at time `now`.  Traffic is given in the order
of its times, and counted before a reading that is not earlier. -/
def readings (period : Nat) (gauges : Nat → Gauges) :
    Nat → Nat → List Traffic → Meter → List Reading
  | 0, _, _, _ => []
  | n + 1, now, traffic, m =>
    let (due, later) := traffic.span fun t => t.time ≤ now
    let (report, m) := (due.foldl count m).report now
    ⟨now, gauges now, report⟩ :: readings period gauges n (now + period) later m

/-- The number of readings before the reporter is stopped.  The first reading is one period after
the start. -/
def ticks (period stop : Nat) : Nat := (stop - 1) / period

/-- All readings of a reporter that is stopped at `stop`. -/
def observe (period stop : Nat) (gauges : Nat → Gauges) (traffic : List Traffic) : List Reading :=
  readings period gauges (ticks period stop) period traffic (.startingAt 0)

/-- The log of a reporter that is stopped at `stop`. -/
def log (period stop : Nat) (gauges : Nat → Gauges) (traffic : List Traffic) : List String :=
  (observe period stop gauges traffic).flatMap Reading.lines

/-- The log if the gauges do not change. -/
def run (period stop : Nat) (g : Gauges) (traffic : List Traffic) : List String :=
  log period stop (fun _ => g) traffic

end TrafficLog

end OrderedEcho
