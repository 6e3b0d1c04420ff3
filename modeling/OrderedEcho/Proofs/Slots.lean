import Mathlib.Data.List.Nodup
import OrderedEcho.Resequencer

/-!
# Slots that wait

What the operations of a resequencer do to the list of waiting slots: an insertion adds one slot
(`count_slots_of_insert`), a release removes the first (`slots_of_release?`), and no waiting slot is
next once `release?` has nothing to release (`nextSend_notMem_slots`).  The same for what is to be
sent from those slots, of which only the number matters (`length_pending_of_insert`,
`length_pending_of_release?`).
-/

namespace OrderedEcho

/-- The number of operations that an entry holds. -/
def Entry.weight {α : Type} : Entry α → Nat
  | data _ => 1
  | skip => 0

namespace Resequencer

variable {α : Type} {r r' : Resequencer α}

theorem nodup_slots (r : Resequencer α) : r.slots.Nodup :=
  List.pairwise_map.2 (r.waiting.pairwise.imp Nat.ne_of_lt)

theorem mem_slots_iff {t : Slot} : t ∈ r.slots ↔ ∃ w ∈ r.waiting.toList, w.1 = t := List.mem_map

theorem isIdle_iff : r.isIdle ↔ r.waiting.toList = [] := List.isEmpty_iff

theorem slots_eq_nil_iff : r.slots = [] ↔ r.waiting.toList = [] := List.map_eq_nil_iff

/-! ## Insertion -/

theorem mem_waiting_of_insert {t : Slot} {e : Entry α} (h : r.insert t e = .ok r')
    {w : Slot × Entry α} (hw : w ∈ r'.waiting.toList) : w = (t, e) ∨ w ∈ r.waiting.toList := by
  obtain ⟨-, rfl⟩ := insert_eq_ok_iff.1 h
  exact (Ascending.mem_insert.1 hw).imp_right And.left

theorem mem_slots_of_insert {t u : Slot} {e : Entry α} (h : r.insert t e = .ok r') :
    u ∈ r'.slots ↔ u = t ∨ u ∈ r.slots := by
  obtain ⟨-, rfl⟩ := insert_eq_ok_iff.1 h
  simp only [mem_slots_iff, Ascending.mem_insert]
  constructor
  · rintro ⟨w, rfl | ⟨hw, -⟩, rfl⟩
    · exact Or.inl rfl
    · exact Or.inr ⟨w, hw, rfl⟩
  · rintro (rfl | ⟨w, hw, rfl⟩)
    · exact ⟨(u, e), Or.inl rfl, rfl⟩
    · by_cases hk : w.1 = t
      · exact ⟨(t, e), Or.inl rfl, hk.symm⟩
      · exact ⟨w, Or.inr ⟨hw, hk⟩, rfl⟩

theorem count_slots_of_insert {t : Slot} {e : Entry α} (h : r.insert t e = .ok r') (u : Slot) :
    r'.slots.count u = r.slots.count u + if u = t then 1 else 0 := by
  have ht : t ∉ r.slots := (insert_eq_ok_iff.1 h).1.2.2
  rw [r'.nodup_slots.count, r.nodup_slots.count]
  by_cases hu : u = t
  · subst hu
    rw [if_pos ((mem_slots_of_insert h).2 (Or.inl rfl)), if_neg ht, if_pos rfl]
  · rw [if_neg hu, Nat.add_zero]
    exact if_congr ((mem_slots_of_insert h).trans (or_iff_right hu)) rfl rfl

/-! ## Release -/

theorem slots_of_release? {w : Slot × Entry α} (h : r.release? = some (w, r')) :
    r.slots = w.1 :: r'.slots := by
  unfold slots
  rw [(release?_eq_some_iff.1 h).2.1, List.map_cons]

/-- A slot that is next comes first among the waiting ones, so `release?` finds it. -/
theorem nextSend_notMem_slots (h : r.release? = none) (hs : ∀ t ∈ r.slots, r.nextSend ≤ t) :
    r.nextSend ∉ r.slots := by
  intro hm
  unfold release? at h
  split at h
  · next hu =>
    rw [Ascending.uncons?_eq_none_iff] at hu
    rw [slots_eq_nil_iff.2 hu] at hm
    cases hm
  · next t e waiting hu =>
    rw [Ascending.uncons?_eq_some_iff] at hu
    have hm' : t ∈ r.slots := mem_slots_iff.2 ⟨(t, e), by rw [hu]; exact List.mem_cons_self, rfl⟩
    have ht : r.nextSend ≤ t := hs t hm'
    split at h
    · simp at h
    · next hne =>
      obtain ⟨w, hw, hn⟩ := mem_slots_iff.1 hm
      have hp := r.waiting.pairwise
      rw [hu, List.pairwise_cons] at hp
      rw [hu] at hw
      rcases List.mem_cons.1 hw with rfl | hw
      · exact hne hn
      · have htw : t < w.1 := hp.1 w hw
        exact Nat.not_lt.2 (hn ▸ ht) htw

/-! ## What is to be sent -/

/-- What waits to be sent, in the order of slots. -/
def pending (r : Resequencer α) : List α := r.waiting.toList.filterMap fun w => w.2.data?

theorem pending_eq_nil (h : r.isIdle) : r.pending = [] := by
  unfold pending
  rw [isIdle_iff.1 h, List.filterMap_nil]

theorem length_filterMap_cons (w : Slot × Entry α) (ws : List (Slot × Entry α)) :
    ((w :: ws).filterMap fun w => w.2.data?).length =
      (ws.filterMap fun w => w.2.data?).length + w.2.weight := by
  rw [List.filterMap_cons]
  obtain ⟨t, a | -⟩ := w
  · rfl
  · rfl

theorem length_pending_of_insert {t : Slot} {e : Entry α} (h : r.insert t e = .ok r') :
    r'.pending.length = r.pending.length + e.weight := by
  obtain ⟨⟨-, -, hnot⟩, rfl⟩ := insert_eq_ok_iff.1 h
  have hp := Ascending.toList_insert_perm (s := r.waiting) (a := (t, e)) fun w hw he =>
    hnot (mem_slots_iff.2 ⟨w, hw, he⟩)
  exact (hp.filterMap _).length_eq.trans (length_filterMap_cons (t, e) _)

theorem length_pending_of_release? {w : Slot × Entry α} (h : r.release? = some (w, r')) :
    r.pending.length = r'.pending.length + w.2.weight := by
  unfold pending
  rw [(release?_eq_some_iff.1 h).2.1]
  exact length_filterMap_cons w _

theorem length_pending_of_data {t : Slot} {a : α} (h : r.release? = some ((t, .data a), r')) :
    r.pending.length = r'.pending.length + 1 := length_pending_of_release? h

end Resequencer

end OrderedEcho
