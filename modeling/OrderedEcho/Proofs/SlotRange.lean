import OrderedEcho.Proofs.Resequencing
import OrderedEcho.Resequencer.Requests

/-!
# Slots at the limit of 64 bits

A slot waits only if it was handed out, and the last slot that 64 bits can hold is never handed out:
the counter could not step over it (`InRange`).  So what is released always has a slot after it, and
its entry is not lost to an overflow.

`Answered` says how a resequencer in range answers each request.  Later modules split it into cases
rather than open `ask`.
-/

namespace OrderedEcho

namespace Resequencer

variable {α : Type} {r r' : Resequencer α}

/-- The counters are in order and have 64 bits, and the slots that wait lie between them. -/
structure InRange (r : Resequencer α) : Prop where
  nextSend_le : r.nextSend ≤ r.nextReceive
  nextReceive_le : r.nextReceive ≤ Slot.last
  le_slots : ∀ s ∈ r.slots, r.nextSend ≤ s
  slots_lt : ∀ s ∈ r.slots, s < r.nextReceive

@[simp] theorem nextSend_ofFirst (first : Slot) : (ofFirst first : Resequencer α).nextSend = 0 := rfl

theorem inRange_ofFirst {first : Slot} (h : first ≤ Slot.last) :
    (ofFirst first : Resequencer α).InRange :=
  ⟨Nat.zero_le first, h, List.forall_mem_nil _, List.forall_mem_nil _⟩

/-! ## One request -/

/-- The answers of a resequencer in range, each with the state after it.  Only a slot that is asked
for can lead to an overflow. -/
inductive Answered (r : Resequencer α) : Request α → Answer α → Resequencer α → Prop
  | assigned (h : r.nextReceive < Slot.last) : Answered r .assign (.assigned r.nextReceive) r.assign.2
  | overflow (h : r.nextReceive = Slot.last) : Answered r .assign .overflow r
  | accepted {s : Slot} {e : Entry α} {r' : Resequencer α} (h : r.insert s e = .ok r') :
    Answered r (.insert s e) .accepted r'
  | rejected {s : Slot} {e : Entry α} (h : ¬ r.Accepts s) : Answered r (.insert s e) (.rejected e) r
  | released {w : Slot × Entry α} {r' : Resequencer α} (h : r.release? = some (w, r')) :
    Answered r .release (.released w) r'
  | nothing (h : r.release? = none) : Answered r .release .nothing r
  | discarded : Answered r .discard (.discarded r.discard.1) r.discard.2

theorem ask_assign_of_lt (h : r.nextReceive < Slot.last) :
    r.ask .assign = (.assigned r.nextReceive, r.assign.2) := by
  have ha : r.assign? = some r.assign := by
    unfold assign?
    rw [Slot.next?_eq_some_iff.2 ⟨h, rfl⟩]
    rfl
  simp only [ask, handOut, ha]
  rfl

theorem ask_assign_of_le (h : Slot.last ≤ r.nextReceive) : r.ask .assign = (.overflow, r) := by
  simp only [ask, handOut, assign?_eq_none_iff.2 h]

theorem ask_insert_of_accepts {s : Slot} {e : Entry α} (h : r.Accepts s) :
    r.ask (.insert s e) = (.accepted, { r with waiting := r.waiting.insert (s, e) }) := by
  have hi : r.insert s e = .ok { r with waiting := r.waiting.insert (s, e) } := if_pos h
  simp only [ask, offer, hi]

theorem ask_insert_of_not_accepts {s : Slot} {e : Entry α} (h : ¬ r.Accepts s) :
    r.ask (.insert s e) = (.rejected e, r) := by
  have hi : r.insert s e = .error e := if_neg h
  simp only [ask, offer, hi]

/-- What is released was handed out before, so the counter can step over it. -/
theorem InRange.ask_release (h : r.InRange) :
    r.ask .release =
      match r.release? with
      | some (w, r') => (.released w, r')
      | none => (.nothing, r) := by
  simp only [ask, letGo, release?]
  cases hu : r.waiting.uncons? with
  | none => rfl
  | some x =>
    obtain ⟨⟨s, e⟩, waiting⟩ := x
    rw [Ascending.uncons?_eq_some_iff] at hu
    have hs : s ∈ r.slots := mem_slots_iff.2 ⟨(s, e), by rw [hu]; exact List.mem_cons_self, rfl⟩
    have hlt : s < Slot.last := Nat.lt_of_lt_of_le (h.slots_lt s hs) h.nextReceive_le
    simp only [Slot.next?_eq_some_iff.2 ⟨hlt, rfl⟩]
    split <;> rfl

theorem InRange.answered (h : r.InRange) (q : Request α) :
    Answered r q (r.ask q).1 (r.ask q).2 := by
  cases q with
  | assign =>
    rcases Nat.lt_or_ge r.nextReceive Slot.last with hlt | hge
    · rw [ask_assign_of_lt hlt]
      exact .assigned hlt
    · rw [ask_assign_of_le hge]
      exact .overflow (Nat.le_antisymm h.nextReceive_le hge)
  | insert s e =>
    by_cases ha : r.Accepts s
    · rw [ask_insert_of_accepts ha]
      exact .accepted (if_pos ha)
    · rw [ask_insert_of_not_accepts ha]
      exact .rejected ha
  | release =>
    rw [h.ask_release]
    split
    · next w r' hr => exact .released hr
    · next hr => exact .nothing hr
  | discard => exact .discarded

/-- A request keeps the range. -/
theorem InRange.step {q : Request α} {a : Answer α} (h : r.InRange) (ha : Answered r q a r') :
    r'.InRange := by
  cases ha with
  | assigned hlt =>
    refine ⟨Nat.le_succ_of_le h.nextSend_le, hlt, h.le_slots, fun s hs => ?_⟩
    exact Nat.lt_succ_of_lt (h.slots_lt s hs)
  | overflow _ => exact h
  | accepted hi =>
    have hm := fun s => (mem_slots_of_insert (u := s) hi).1
    obtain ⟨⟨hle, hlt, -⟩, rfl⟩ := insert_eq_ok_iff.1 hi
    refine ⟨h.nextSend_le, h.nextReceive_le, fun s hs => ?_, fun s hs => ?_⟩
    · rcases hm s hs with rfl | hs
      · exact hle
      · exact h.le_slots s hs
    · rcases hm s hs with rfl | hs
      · exact hlt
      · exact h.slots_lt s hs
  | rejected _ => exact h
  | @released w _ hr =>
    have hs := slots_of_release? hr
    obtain ⟨-, -, hn, hr'⟩ := release?_eq_some_iff.1 hr
    have hw : w.1 ∈ r.slots := hs ▸ List.mem_cons_self
    refine ⟨?_, hr' ▸ h.nextReceive_le, le_slots_of_release? hr, fun s hm => ?_⟩
    · rw [hn, hr']
      exact h.slots_lt w.1 hw
    · rw [hr']
      exact h.slots_lt s (hs ▸ List.mem_cons_of_mem _ hm)
  | nothing _ => exact h
  | discarded => exact ⟨h.nextSend_le, h.nextReceive_le, List.forall_mem_nil _, List.forall_mem_nil _⟩

/-- No counter goes back. -/
theorem Answered.counters_le {q : Request α} {a : Answer α} (ha : Answered r q a r') :
    r.nextReceive ≤ r'.nextReceive ∧ r.nextSend ≤ r'.nextSend := by
  cases ha with
  | assigned _ => exact ⟨Nat.le_succ _, Nat.le_refl _⟩
  | accepted hi =>
    obtain ⟨-, rfl⟩ := insert_eq_ok_iff.1 hi
    exact ⟨Nat.le_refl _, Nat.le_refl _⟩
  | released hr =>
    obtain ⟨hw, -, hn, hr'⟩ := release?_eq_some_iff.1 hr
    exact ⟨Nat.le_of_eq hr'.symm, by rw [hn, hw]; exact Nat.le_succ _⟩
  | overflow _ | rejected _ | nothing _ | discarded => exact ⟨Nat.le_refl _, Nat.le_refl _⟩

theorem Answered.overflow_iff {q : Request α} {a : Answer α} (ha : Answered r q a r') :
    a = .overflow ↔ q = .assign ∧ r.nextReceive = Slot.last := by
  cases ha with
  | assigned hlt => exact ⟨nofun, fun h => absurd h.2 (Nat.ne_of_lt hlt)⟩
  | overflow he => exact ⟨fun _ => ⟨rfl, he⟩, fun _ => rfl⟩
  | accepted _ | rejected _ | released _ | nothing _ | discarded =>
    exact ⟨nofun, fun h => nomatch h.1⟩

/-! ## Any number of requests -/

/-- The state after some requests. -/
def after (r : Resequencer α) (qs : List (Request α)) : Resequencer α :=
  qs.foldl (fun r q => (r.ask q).2) r

theorem after_append (r : Resequencer α) (qs qs' : List (Request α)) :
    r.after (qs ++ qs') = (r.after qs).after qs' := List.foldl_append

theorem InRange.after (h : r.InRange) (qs : List (Request α)) : (r.after qs).InRange := by
  induction qs generalizing r with
  | nil => exact h
  | cons q qs ih => exact ih (h.step (h.answered q))

theorem InRange.counters_le_after (h : r.InRange) (qs : List (Request α)) :
    r.nextReceive ≤ (r.after qs).nextReceive ∧ r.nextSend ≤ (r.after qs).nextSend := by
  induction qs generalizing r with
  | nil => exact ⟨Nat.le_refl _, Nat.le_refl _⟩
  | cons q qs ih =>
    have ha := h.answered q
    obtain ⟨h₁, h₂⟩ := ha.counters_le
    obtain ⟨h₃, h₄⟩ := ih (h.step ha)
    exact ⟨Nat.le_trans h₁ h₃, Nat.le_trans h₂ h₄⟩

/-- Whatever is asked, all slots stay between the counters, the counters never go back, and nothing
but a slot asked for at the limit overflows, which changes nothing. -/
theorem slots_between_counters {first : Slot} (hf : first ≤ Slot.last) (qs : List (Request α)) :
    let r := (ofFirst first : Resequencer α).after qs
    (r.nextSend ≤ r.nextReceive ∧ r.nextReceive ≤ Slot.last ∧
        ∀ s ∈ r.slots, r.nextSend ≤ s ∧ s < r.nextReceive) ∧
      (∀ qs', r.nextReceive ≤ (r.after qs').nextReceive ∧ r.nextSend ≤ (r.after qs').nextSend) ∧
      ((r.ask .release).1 = .nothing → (r.ask .release).2 = r ∧ r.nextSend ∉ r.slots) ∧
      (∀ q, (r.ask q).1 = .overflow ↔ q = .assign ∧ r.nextReceive = Slot.last) ∧
      ∀ q, (r.ask q).1 = .overflow → (r.ask q).2 = r := by
  intro r
  have h : r.InRange := (inRange_ofFirst hf).after qs
  refine ⟨⟨h.nextSend_le, h.nextReceive_le, fun s hs => ⟨h.le_slots s hs, h.slots_lt s hs⟩⟩,
    h.counters_le_after, fun hn => ?_, fun q => (h.answered q).overflow_iff, fun q hq => ?_⟩
  · have ha := h.answered .release
    rw [hn] at ha
    generalize (r.ask .release).2 = r' at ha
    cases ha with
    | nothing hr => exact ⟨rfl, nextSend_notMem_slots hr h.le_slots⟩
  · have ha := h.answered q
    rw [hq] at ha
    generalize (r.ask q).2 = r' at ha
    cases ha with
    | overflow _ => rfl

theorem overflow_at_last_slot :
    Slot.last - 1 ≤ Slot.last ∧
      let r := (ofFirst (Slot.last - 1) : Resequencer Nat).after [.assign, .insert 0 .skip, .release]
      (r.ask .assign).1 = .overflow ∧ (r.ask .assign).2 = r := by
  have hf : Slot.last - 1 ≤ Slot.last := Nat.sub_le _ _
  obtain ⟨-, -, -, hover, hsame⟩ :=
    slots_between_counters (α := Nat) hf [.assign, .insert 0 .skip, .release]
  have h := (hover .assign).2 ⟨rfl, by decide⟩
  exact ⟨hf, h, hsame .assign h⟩

end Resequencer

end OrderedEcho
