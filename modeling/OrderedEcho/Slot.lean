/-!
# Slots

A slot is a position in the order in which an endpoint echoes what it received.  Slots are counted
in natural numbers; `Slot.last` is the largest one a 64-bit counter can hold, and `Slot.next?` is
the counter's step, which the last slot does not have.
-/

namespace OrderedEcho

/-- A position in the order of echoes. -/
abbrev Slot := Nat

namespace Slot

/-- The last slot of a 64-bit counter. -/
def last : Slot := 0xffffffffffffffff

/-- The slot after `s`, which only the last slot lacks. -/
def next? (s : Slot) : Option Slot :=
  if s < last then some (s + 1) else none

theorem next?_eq_none_iff {s : Slot} : s.next? = none ↔ last ≤ s := by
  simp [next?]

theorem next?_eq_some_iff {s t : Slot} : s.next? = some t ↔ s < last ∧ t = s + 1 := by
  simp [next?, eq_comm]

/-- The slot as it is listed inside an operation's description. -/
def describe (s : Slot) : String := s!"Sequence({s})"

end Slot

end OrderedEcho
