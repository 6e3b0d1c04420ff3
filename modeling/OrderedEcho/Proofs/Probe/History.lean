import Mathlib.Data.Finset.Card
import Mathlib.Data.Finset.Range
import OrderedEcho.Probe.Tracker

/-!
# What a tracker was told

A `History` is all that a tracker was told since it started, and `History.tracker` is the state that
this led to.  `History.echoes` has the datagrams that came back, each with what had happened before,
so that an echo can be judged by what was known when it arrived (`History.count`).

A tracker does not keep which datagrams came back, only a watermark.  `late_iff` says what is below
it.  `echo_cases` says what an echo can do; the laws of the counters follow from it, by induction on
the history.  A law of all histories holds at every point of each, as what was told up to there is a
history too.
-/

namespace OrderedEcho

namespace Probe

/-- What a tracker was told, one thing after the other. -/
inductive History
  | start
  /-- `n` more datagrams were sent. -/
  | sent (past : History) (n : Nat)
  /-- The echo of datagram `i` arrived. -/
  | echo (past : History) (i : Nat)
  /-- All echoes that are awaited are given up. -/
  | timeout (past : History)

namespace History

/-- The tracker after all this. -/
def tracker : History → Tracker
  | start => {}
  | sent past n => past.tracker.sent n
  | echo past i => past.tracker.echoed i
  | timeout past => past.tracker.timedOut

/-- The number of datagrams that were sent. -/
def sends : History → Nat
  | start => 0
  | sent past n => past.sends + n
  | echo past _ | timeout past => past.sends

/-- The datagrams that came back, each with what had happened before.  An echo whose datagram was
not sent yet is none of theirs. -/
def echoes : History → List (History × Nat)
  | start => []
  | echo past i => if i < past.sends then past.echoes ++ [(past, i)] else past.echoes
  | sent past _ | timeout past => past.echoes

/-- The datagrams that came back, in the order of their echoes. -/
def returned (h : History) : List Nat := h.echoes.map Prod.snd

/-- What had happened before each timeout. -/
def timeouts : History → List History
  | start => []
  | timeout past => past.timeouts ++ [past]
  | sent past _ | echo past _ => past.timeouts

/-- The datagrams below the watermark that did not come back. -/
def missing (h : History) : Finset Nat :=
  {i ∈ Finset.range h.tracker.nextExpected | i ∉ h.returned}

/-! ## Judging an echo when it arrives -/

/-- The watermark is above the datagram. -/
def Late (past : History) (i : Nat) : Prop := i < past.tracker.nextExpected
  deriving Decidable

/-- The datagram is late, and there is no loss that it could take back. -/
def Baseless (past : History) (i : Nat) : Prop := past.Late i ∧ past.tracker.lost = 0
  deriving Decidable

/-- The datagram has come back before. -/
def Repeated (past : History) (i : Nat) : Prop := i ∈ past.returned
  deriving Decidable

/-- A datagram that was sent later has come back before. -/
def Overtaken (past : History) (i : Nat) : Prop := ∃ j ∈ past.returned, i < j
  deriving Decidable

/-- A timeout came after the datagram was sent. -/
def GivenUp (past : History) (i : Nat) : Prop := ∃ p ∈ past.timeouts, i < p.sends
  deriving Decidable

/-- The number of datagrams that came back and were like this when they did. -/
def count (h : History) (P : History → Nat → Prop) [∀ past i, Decidable (P past i)] : Nat :=
  h.echoes.countP fun e => P e.1 e.2

section Count

variable {P Q : History → Nat → Prop} [∀ past i, Decidable (P past i)]
  [∀ past i, Decidable (Q past i)]

theorem count_eq_zero_iff {h : History} : h.count P = 0 ↔ ∀ e ∈ h.echoes, ¬ P e.1 e.2 := by
  simp [count, List.countP_eq_zero]

theorem count_congr {h : History} (hpq : ∀ e ∈ h.echoes, P e.1 e.2 ↔ Q e.1 e.2) :
    h.count P = h.count Q :=
  List.countP_congr fun e he => by simpa using hpq e he

/-- What is one thing or another is the one, or it is the other only. -/
theorem count_or (h : History) :
    h.count (fun past i => P past i ∨ Q past i) =
      h.count P + h.count fun past i => Q past i ∧ ¬ P past i := by
  dsimp only [count]
  induction h.echoes with
  | nil => rfl
  | cons e es ih =>
    rw [List.countP_cons, List.countP_cons, List.countP_cons, ih]
    by_cases hp : P e.1 e.2 <;> by_cases hq : Q e.1 e.2 <;> simp [hp, hq] <;> omega

theorem count_of_eq {h past : History} (he : h.echoes = past.echoes) : h.count P = past.count P := by
  simp only [count, he]

theorem count_of_snoc {h past : History} {i : Nat} (he : h.echoes = past.echoes ++ [(past, i)]) :
    h.count P = past.count P + if P past i then 1 else 0 := by
  simp [count, he, List.countP_singleton]

end Count

/-! ## One more step -/

variable {h past : History} {i : Nat}

theorem returned_of_eq (he : h.echoes = past.echoes) : h.returned = past.returned :=
  congrArg (List.map Prod.snd) he

theorem returned_of_snoc (he : h.echoes = past.echoes ++ [(past, i)]) :
    h.returned = past.returned ++ [i] := by
  simp [returned, he]

theorem nextSend_tracker (h : History) : h.tracker.nextSend = h.sends := by
  induction h with
  | start => rfl
  | sent past n ih => simp [tracker, Tracker.sent, sends, ih]
  | echo past i ih =>
    simp only [tracker, Tracker.echoed, sends]
    split_ifs <;> exact ih
  | timeout past ih => exact ih

/-- What an echo can do.  It is ignored if its datagram was not sent, it moves the watermark past its
datagram, or it is late. -/
theorem echo_cases (past : History) (i : Nat) :
    let t := past.tracker
    (past.sends ≤ i ∧ (past.echo i).tracker = t ∧ (past.echo i).echoes = past.echoes) ∨
      (i < past.sends ∧ (past.echo i).echoes = past.echoes ++ [(past, i)] ∧
        (¬ past.Late i ∧ (past.echo i).tracker =
            ⟨t.nextSend, i + 1, t.lost + (i - t.nextExpected), t.outOfOrder⟩ ∨
          past.Late i ∧ (past.echo i).tracker =
            ⟨t.nextSend, t.nextExpected, t.lost - 1, t.outOfOrder + 1⟩)) := by
  simp only [tracker, Tracker.echoed, echoes, nextSend_tracker, Late]
  rcases Nat.lt_or_ge i past.sends with hi | hi
  · rcases Nat.lt_or_ge i past.tracker.nextExpected with hlate | hahead
    · simp [hi, hlate, Nat.not_le.2 hi, Nat.not_le.2 hlate]
    · simp [hi, hahead, Nat.not_le.2 hi, Nat.not_lt.2 hahead]
  · simp [hi, Nat.not_lt.2 hi]

theorem echoes_timeout (past : History) : past.timeout.echoes = past.echoes := rfl

theorem tracker_timeout (past : History) :
    let t := past.tracker
    past.timeout.tracker =
      ⟨past.sends, past.sends, t.lost + (past.sends - t.nextExpected), t.outOfOrder⟩ := by
  simp [tracker, Tracker.timedOut, Tracker.inFlight, nextSend_tracker]

/-! ## The watermark -/

theorem nextExpected_le (h : History) : h.tracker.nextExpected ≤ h.sends := by
  induction h with
  | start => exact Nat.le_refl 0
  | sent past n ih => exact Nat.le_add_right_of_le ih
  | echo past i ih =>
    rcases past.echo_cases i with ⟨-, ht, -⟩ | ⟨hi, -, ⟨-, ht⟩ | ⟨-, ht⟩⟩ <;> rw [ht]
    · exact ih
    · exact hi
    · exact ih
  | timeout past ih => exact Nat.le_of_eq past.nextSend_tracker

/-- The watermark is above what came back, above what is before it, and above what was sent when a
timeout came. -/
theorem late_iff (h : History) (i : Nat) :
    h.Late i ↔ (∃ j ∈ h.returned, i ≤ j) ∨ h.GivenUp i := by
  induction h with
  | start => simp [Late, GivenUp, tracker, returned, echoes, timeouts]
  | sent past n ih => exact ih
  | echo past k ih =>
    have hup : (past.echo k).GivenUp i ↔ past.GivenUp i := Iff.rfl
    rcases past.echo_cases k with ⟨-, ht, he⟩ | ⟨-, he, hcase⟩
    · rw [returned_of_eq he, hup, ← ih, Late, Late, ht]
    · have hor : (∃ j ∈ (past.echo k).returned, i ≤ j) ↔ (∃ j ∈ past.returned, i ≤ j) ∨ i ≤ k := by
        simp [returned_of_snoc he, or_and_right, exists_or]
      rw [hor, hup, or_right_comm, ← ih]
      rcases hcase with ⟨hahead, ht⟩ | ⟨hlate, ht⟩
      · simp only [Late, ht] at hahead ⊢
        omega
      · simp only [Late, ht] at hlate ⊢
        omega
  | timeout past ih =>
    have hup : past.timeout.GivenUp i ↔ past.GivenUp i ∨ i < past.sends := by
      simp [GivenUp, timeouts, or_and_right, exists_or]
    have hle := past.nextExpected_le
    rw [hup, ← or_assoc, returned_of_eq past.echoes_timeout, ← ih, Late, tracker_timeout]
    simp only [Late]
    omega

theorem late_of_mem (hi : i ∈ h.returned) : h.Late i :=
  (h.late_iff i).2 (.inl ⟨i, hi, Nat.le_refl i⟩)

end History

end Probe

end OrderedEcho
