import OrderedEcho.Meter

/-!
# What a meter was told

A `Meter.History` is all that happened to a meter since it was started, and `History.meter` is the
state that this led to.  `History.windows` has the windows that its reports ended, and
`History.reported` what had happened up to the last of these reports.  The clock is not trusted: it
may go backwards, and behind the start.

`Reported` says what a report can do.  It ends a window or it changes nothing; the laws of the
windows follow from that, by induction on the history.
-/

namespace OrderedEcho

namespace Meter

variable {m : Meter} {now : Int}

/-! ## One report -/

/-- The answer to a report, where `current` is the throughput of the window that it ends. -/
def answer (m : Meter) (now : Int) (current : Option Throughput) : TrafficReport where
  read := m.read.toNat
  sent := m.sent.toNat
  average := throughput m.read m.sent (wholeSeconds m.started now)
  current := current

/-- The meter after a report that ends a window. -/
def reopened (m : Meter) (now : Int) : Meter :=
  { m with windowRead := 0, windowSent := 0, windowStart := now }

/-- What a report comes to: nothing in the first second, then an average at least, and if the window
has lasted a second, its end.  No throughput is over less than a second. -/
inductive Reported (m : Meter) (now : Int) : Option TrafficReport × Meter → Prop
  | early (h : wholeSeconds m.started now = 0) : Reported m now (none, m)
  | within (h : 1 ≤ wholeSeconds m.started now) (hw : wholeSeconds m.windowStart now = 0) :
      Reported m now (some (m.answer now none), m)
  | ended (h : 1 ≤ wholeSeconds m.started now) (hw : 1 ≤ wholeSeconds m.windowStart now) :
      Reported m now
        (some (m.answer now
          (throughput m.windowRead m.windowSent (wholeSeconds m.windowStart now))),
          m.reopened now)

theorem reported_report (m : Meter) (now : Int) : Reported m now (m.report now) := by
  unfold report endWindow
  by_cases h : wholeSeconds m.started now = 0
  · simp only [h, if_true]
    exact .early h
  · by_cases hw : wholeSeconds m.windowStart now = 0
    · simp only [h, hw, if_true, if_false]
      exact .within (Nat.pos_of_ne_zero h) hw
    · simp only [h, hw, if_false]
      exact .ended (Nat.pos_of_ne_zero h) (Nat.pos_of_ne_zero hw)

/-- What happened to a meter, one thing after the other. -/
inductive History
  | start (now : Int)
  /-- `n` more bytes were read. -/
  | read (past : History) (n : Nat)
  /-- `n` more bytes were sent. -/
  | sent (past : History) (n : Nat)
  /-- A report was asked for when the clock showed `now`. -/
  | report (past : History) (now : Int)

/-- A window that a report ended, with the bytes that were counted in it. -/
structure Window where
  since : Int
  stop : Int
  read : UInt64
  sent : UInt64
  /-- What the report told. -/
  throughput : Throughput

/-- The whole seconds that the window lasted. -/
def Window.seconds (w : Window) : Nat := wholeSeconds w.since w.stop

namespace History

/-- The meter after all this. -/
def meter : History → Meter
  | start now => .startingAt now
  | read past n => past.meter.addRead n
  | sent past n => past.meter.addSent n
  | report past now => (past.meter.report now).2

/-- What the next report tells when the clock shows `now`. -/
def told (h : History) (now : Int) : Option TrafficReport := (h.meter.report now).1

/-- The current throughput among that. -/
def current? (h : History) (now : Int) : Option Throughput :=
  h.told now >>= TrafficReport.current

/-- All bytes that were read. -/
def bytesRead : History → Nat
  | start _ => 0
  | read past n => past.bytesRead + n
  | sent past _ | report past _ => past.bytesRead

/-- All bytes that were sent. -/
def bytesSent : History → Nat
  | start _ => 0
  | sent past n => past.bytesSent + n
  | read past _ | report past _ => past.bytesSent

/-- The window that is open, if it ends at `now`. -/
def window (h : History) (now : Int) (t : Throughput) : Window where
  since := h.meter.windowStart
  stop := now
  read := h.meter.windowRead
  sent := h.meter.windowSent
  throughput := t

/-- The windows that were ended, in order. -/
def windows : History → List Window
  | start _ => []
  | read past _ | sent past _ => past.windows
  | report past now =>
    match past.current? now with
    | none => past.windows
    | some t => past.windows ++ [past.window now t]

/-- What had happened up to the last report that ended a window, or to the start if there was
none. -/
def reported : History → History
  | start now => start now
  | read past _ | sent past _ => past.reported
  | report past now => if (past.current? now).isSome then report past now else past.reported

/-- The history `h` goes on from `past`. -/
inductive Extends (past : History) : History → Prop
  | refl : Extends past past
  | read {h : History} (hp : Extends past h) (n : Nat) : Extends past (h.read n)
  | sent {h : History} (hp : Extends past h) (n : Nat) : Extends past (h.sent n)
  | report {h : History} (hp : Extends past h) (now : Int) : Extends past (h.report now)

/-- A report ends a window that has lasted a second, or it changes nothing. -/
theorem report_cases (h : History) (now : Int) :
    (h.current? now = none ∧ (h.report now).meter = h.meter ∧
      (h.report now).windows = h.windows ∧ (h.report now).reported = h.reported) ∨
    ∃ t, h.current? now = some t ∧ (h.report now).meter = h.meter.reopened now ∧
      (h.report now).windows = h.windows ++ [h.window now t] ∧
      (h.report now).reported = h.report now ∧ 1 ≤ (h.window now t).seconds ∧
      t = throughput h.meter.windowRead h.meter.windowSent (h.window now t).seconds := by
  have hr := reported_report h.meter now
  have hm : (h.report now).meter = (h.meter.report now).2 := rfl
  have hc : h.current? now = (h.meter.report now).1 >>= TrafficReport.current := rfl
  rw [hm, windows, reported]
  cases hx : h.meter.report now with
  | mk told m' =>
    rw [hx] at hr hc
    cases hr with
    | early | within =>
      rw [hc]
      exact Or.inl ⟨rfl, rfl, rfl, rfl⟩
    | ended _ hw =>
      rw [hc]
      exact Or.inr ⟨_, rfl, rfl, rfl, rfl, hw, rfl⟩

end History

end Meter

end OrderedEcho
