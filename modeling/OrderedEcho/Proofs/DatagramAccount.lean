import OrderedEcho.Proofs.Probe.History

/-!
# What the counts of a tracker say

Whatever a tracker is told, its losses and the datagrams that came back make up the watermark, but for
late ones that found no loss to take back (`lost_add_returned`), and the losses are no more than the
datagrams missing below the watermark (`lost_le_card_missing`).  Where the losses are fewer, an echo
that came again took back a loss that was not its own (`card_missing_add_baseless`).

So the losses are exactly the datagrams missing while none comes back twice.  What is late was then
overtaken, or given up by a timeout, and `outOfOrder` counts both.
-/

namespace OrderedEcho

namespace Probe

namespace History

variable {h : History}

/-! ## Whatever comes back -/

theorem outOfOrder_eq (h : History) : h.tracker.outOfOrder = h.count Late := by
  induction h with
  | start => rfl
  | sent past n ih => exact ih
  | echo past i ih =>
    rcases past.echo_cases i with ⟨-, ht, he⟩ | ⟨-, he, ⟨hahead, ht⟩ | ⟨hlate, ht⟩⟩
    · rw [ht, count_of_eq he, ih]
    · simp [ht, count_of_snoc he, hahead, ih]
    · simp [ht, count_of_snoc he, hlate, ih]
  | timeout past ih => exact ih

/-- What skips ahead adds to the losses what it adds to the watermark, less itself.  What is late
takes back a loss, if there is one. -/
theorem lost_add_returned (h : History) :
    h.tracker.lost + h.returned.length = h.tracker.nextExpected + h.count Baseless := by
  induction h with
  | start => rfl
  | sent past n ih => exact ih
  | echo past i ih =>
    rcases past.echo_cases i with ⟨-, ht, he⟩ | ⟨-, he, ⟨hahead, ht⟩ | ⟨hlate, ht⟩⟩
    · rw [ht, returned_of_eq he, count_of_eq he, ih]
    · simp only [ht, returned_of_snoc he, count_of_snoc he, Baseless, hahead, false_and, if_false,
        List.length_append, List.length_singleton]
      unfold Late at hahead
      omega
    · simp only [ht, returned_of_snoc he, count_of_snoc he, Baseless, hlate, true_and,
        List.length_append, List.length_singleton]
      split <;> omega
  | timeout past ih =>
    have hle := past.nextExpected_le
    rw [tracker_timeout, returned_of_eq past.echoes_timeout, count_of_eq past.echoes_timeout]
    dsimp only
    omega

theorem length_returned (h : History) :
    h.returned.length = h.returned.toFinset.card + h.count Repeated := by
  induction h with
  | start => rfl
  | sent past n ih => exact ih
  | echo past i ih =>
    rcases past.echo_cases i with ⟨-, -, he⟩ | ⟨-, he, -⟩
    · rw [returned_of_eq he, count_of_eq he, ih]
    · rw [returned_of_snoc he, count_of_snoc he, List.length_append, ih, List.toFinset_append]
      by_cases hr : i ∈ past.returned <;> simp [Repeated, hr] <;> omega
  | timeout past ih => exact ih

theorem returned_subset (h : History) :
    h.returned.toFinset ⊆ Finset.range h.tracker.nextExpected := by
  intro i hi
  exact Finset.mem_range.2 (late_of_mem (List.mem_toFinset.1 hi))

theorem card_missing_add (h : History) :
    h.missing.card + h.returned.toFinset.card = h.tracker.nextExpected := by
  have hm : h.missing = Finset.range h.tracker.nextExpected \ h.returned.toFinset := by
    ext i
    simp [missing]
  rw [hm, Finset.card_sdiff_add_card_eq_card h.returned_subset, Finset.card_range]

/-- Losses and datagrams that came back fit below the watermark.  A late datagram takes the place of a
loss; if there is none, it fits because all that came back is below the watermark. -/
theorem lost_add_card_le (h : History) :
    h.tracker.lost + h.returned.toFinset.card ≤ h.tracker.nextExpected := by
  induction h with
  | start => exact Nat.le_refl 0
  | sent past n ih => exact ih
  | echo past i ih =>
    rcases past.echo_cases i with ⟨-, ht, he⟩ | ⟨-, he, hcase⟩
    · rw [ht, returned_of_eq he]
      exact ih
    · have hroom := Finset.card_le_card (past.echo i).returned_subset
      have hone : (past.echo i).returned.toFinset.card ≤ past.returned.toFinset.card + 1 := by
        rw [returned_of_snoc he, List.toFinset_append, Finset.union_comm]
        exact Finset.card_insert_le i past.returned.toFinset
      rw [Finset.card_range] at hroom
      rcases hcase with ⟨hahead, ht⟩ | ⟨-, ht⟩
      · simp only [ht, Late] at hroom hahead ⊢
        omega
      · simp only [ht] at hroom ⊢
        omega
  | timeout past ih =>
    have hle := past.nextExpected_le
    rw [tracker_timeout, returned_of_eq past.echoes_timeout]
    dsimp only
    omega

theorem lost_le_card_missing (h : History) : h.tracker.lost ≤ h.missing.card := by
  have hle := h.lost_add_card_le
  rw [← h.card_missing_add] at hle
  exact Nat.le_of_add_le_add_right hle

/-- An echo that comes again and finds a loss takes back one that is not its own. -/
theorem card_missing_add_baseless (h : History) :
    h.missing.card + h.count Baseless = h.tracker.lost + h.count Repeated := by
  have hmissing := h.card_missing_add
  have hbalance := h.lost_add_returned
  have hlength := h.length_returned
  omega

/-- Losses are never more than the datagrams missing.  They are fewer by the echoes that came again,
less the late ones that found no loss to take back. -/
theorem lost_le_missing (h : History) :
    h.tracker.lost ≤ h.missing.card ∧
      h.missing.card + h.count Baseless = h.tracker.lost + h.count Repeated :=
  ⟨h.lost_le_card_missing, h.card_missing_add_baseless⟩

/-- The echo of the last of three datagrams comes twice: the second one takes back the loss of one
of the others. -/
theorem lost_lt_missing : ¬ ∀ h : History, h.missing.card ≤ h.tracker.lost := by
  intro hall
  exact absurd (hall (((start.sent 3).echo 2).echo 2)) (by decide)

/-! ## While nothing comes back twice -/

theorem count_repeated_eq_zero (hn : h.returned.Nodup) : h.count Repeated = 0 := by
  have hlength := h.length_returned
  rw [List.toFinset_card_of_nodup hn] at hlength
  omega

theorem notMem_returned (hn : h.returned.Nodup) {e : History × Nat} (he : e ∈ h.echoes) :
    e.2 ∉ e.1.returned :=
  count_eq_zero_iff.1 (count_repeated_eq_zero hn) e he

/-- While no datagram comes back twice, the losses are the datagrams below the watermark that did not
come back, and a late echo always has a loss to take back. -/
theorem losses_exact (hn : h.returned.Nodup) :
    let t := h.tracker
    (t.nextSend = h.sends ∧ t.nextExpected ≤ t.nextSend) ∧
      t.lost = h.missing.card ∧ t.lost + h.returned.length = t.nextExpected ∧
      t.outOfOrder = h.count Late ∧
      (∀ e ∈ h.echoes, e.1.Late e.2 → 0 < e.1.tracker.lost) ∧
      ∀ i, h.sends ≤ i → (h.echo i).tracker = t := by
  have hle := h.lost_le_card_missing
  have hsum := h.card_missing_add_baseless
  rw [count_repeated_eq_zero hn] at hsum
  have hbase : h.count Baseless = 0 := by omega
  have hlost : h.tracker.lost = h.missing.card := by omega
  have hbalance := h.lost_add_returned
  rw [hbase] at hbalance
  refine ⟨⟨h.nextSend_tracker, ?_⟩, hlost, hbalance, h.outOfOrder_eq, ?_, ?_⟩
  · rw [h.nextSend_tracker]
    exact h.nextExpected_le
  · intro e he hlate
    exact Nat.pos_of_ne_zero fun hlost => count_eq_zero_iff.1 hbase e he ⟨hlate, hlost⟩
  · intro i hi
    rcases h.echo_cases i with ⟨-, ht, -⟩ | ⟨hlt, -⟩
    · exact ht
    · omega

/-- Five datagrams are sent, and an echo comes for one that was not.  The second is overtaken by the
third, the fourth comes back after a timeout, and the last is lost. -/
def bumpy : History := ((((((start.sent 5).echo 9).echo 0).echo 2).timeout).echo 1).echo 3

theorem losses_exact_bumpy :
    bumpy.returned.Nodup ∧ bumpy.tracker.lost = bumpy.missing.card ∧ bumpy.missing = {4} := by
  have hn : bumpy.returned.Nodup := by decide
  exact ⟨hn, (losses_exact hn).2.1, by decide⟩

/-- While no datagram comes back twice, `outOfOrder` counts those that come back after one that was
sent later, and those that come back after a timeout has given them up. -/
theorem outOfOrder_eq_overtaken_add (hn : h.returned.Nodup) :
    h.tracker.outOfOrder =
      h.count Overtaken + h.count fun past i => past.GivenUp i ∧ ¬ past.Overtaken i := by
  rw [h.outOfOrder_eq, ← count_or]
  refine count_congr fun e he => ?_
  have hfirst := notMem_returned hn he
  have hover : (∃ j ∈ e.1.returned, e.2 ≤ j) ↔ e.1.Overtaken e.2 :=
    exists_congr fun j => and_congr_right fun hj => by
      have hne : j ≠ e.2 := fun heq => hfirst (heq ▸ hj)
      omega
  rw [e.1.late_iff e.2, hover]

theorem outOfOrder_eq_overtaken_add_bumpy :
    bumpy.returned.Nodup ∧ bumpy.count Overtaken = 1 ∧ bumpy.tracker.outOfOrder =
      bumpy.count Overtaken + bumpy.count fun past i => past.GivenUp i ∧ ¬ past.Overtaken i := by
  have hn : bumpy.returned.Nodup := by decide
  exact ⟨hn, by decide, outOfOrder_eq_overtaken_add hn⟩

/-- The only datagram comes back after a timeout: it counts as out of order, though it is the only
one. -/
theorem outOfOrder_ne_overtaken : ¬ ∀ h : History, h.returned.Nodup →
    h.tracker.outOfOrder = h.count Overtaken := by
  intro hall
  exact absurd (hall ((start.sent 1).timeout.echo 0) (by decide)) (by decide)

end History

end Probe

end OrderedEcho
