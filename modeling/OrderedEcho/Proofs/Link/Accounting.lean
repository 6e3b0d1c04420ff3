import OrderedEcho.Proofs.Link.Lifecycle

/-!
# The account of slots

No slot is ever lost: until an endpoint is aborted, each slot between the next send and the next
receive is in exactly one of three places.  Its receive is in flight, its entry waits, or the act
that is going on owes the entry.  `Accounted` counts the places of each slot.  It also says that an
entry that is next does not wait once the act is over.
-/

namespace OrderedEcho

namespace Link

/-- Where the slots of an endpoint are. -/
structure Accounted (e : Endpoint) (k : Socket) (due : List Slot) (ripe : Bool) : Prop where
  le : e.resequencer.nextSend ≤ e.resequencer.nextReceive
  count : e.aborted = false → ∀ t,
    k.receiving.count t + e.resequencer.slots.count t + due.count t =
      if e.resequencer.nextSend ≤ t ∧ t < e.resequencer.nextReceive then 1 else 0
  discarded : e.aborted → e.resequencer.slots = []
  finished : e.destroyed → e.aborted ∨ e.resequencer.nextReceive = e.resequencer.nextSend
  unripe : ripe = false → e.resequencer.nextSend ∉ e.resequencer.slots

variable {P : Slot → Entry Operation → Prop} {st st' : Stage} {e e' : Endpoint} {k k' : Socket}
  {due : List Slot} {ripe : Bool}

/-- The account reads three fields of the endpoint and the slots in flight. -/
theorem Accounted.congr (h : Accounted e k due ripe) (hr : e'.resequencer = e.resequencer)
    (ha : e'.aborted = e.aborted) (hd : e'.destroyed = e.destroyed)
    (hk : k'.receiving = k.receiving) : Accounted e' k' due ripe := by
  refine ⟨?_, ?_, ?_, ?_, ?_⟩
  · rw [hr]; exact h.le
  · rw [hr, ha, hk]; exact h.count
  · rw [hr, ha]; exact h.discarded
  · rw [hr, ha, hd]; exact h.finished
  · rw [hr]; exact h.unripe

theorem Accounted.mem_slots (h : Accounted e k due ripe) {t : Slot} (ht : t ∈ e.resequencer.slots) :
    e.aborted = false ∧ e.resequencer.nextSend ≤ t ∧ t < e.resequencer.nextReceive := by
  have ha : e.aborted = false := by
    by_contra hn
    rw [h.discarded (by simpa using hn)] at ht
    cases ht
  have hpos := List.count_pos_iff.2 ht
  have hc := h.count ha t
  refine ⟨ha, ?_⟩
  by_contra hn
  rw [if_neg hn] at hc
  omega

theorem Accounted.accepts (h : Accounted e k due ripe) (ha : e.aborted = false) {t : Slot}
    (ht : t ∈ due) : e.resequencer.Accepts t := by
  have hpos := List.count_pos_iff.2 ht
  have hc := h.count ha t
  by_cases hin : e.resequencer.nextSend ≤ t ∧ t < e.resequencer.nextReceive
  · refine ⟨hin.1, hin.2, fun hm => ?_⟩
    have := List.count_pos_iff.2 hm
    rw [if_pos hin] at hc
    omega
  · rw [if_neg hin] at hc
    omega

theorem Accounted.assign (h : Accounted e k due ripe) (hd : e.destroyed = false)
    (hk : k'.receiving = k.receiving ++ [e.resequencer.nextReceive]) :
    Accounted e.assign k' due ripe := by
  refine ⟨Nat.le_succ_of_le h.le, fun ha t => ?_, h.discarded,
    fun h => absurd (hd.symm.trans h) (by decide), h.unripe⟩
  have hle := h.le
  have hc := h.count ha t
  show k'.receiving.count t + e.resequencer.slots.count t + due.count t =
    if e.resequencer.nextSend ≤ t ∧ t < e.resequencer.nextReceive + 1 then 1 else 0
  rw [hk, List.count_append, List.count_singleton]
  grind

theorem Accounted.assign_due (h : Accounted e k due ripe) (hd : e.destroyed = false)
    (hk : k'.receiving = k.receiving) :
    Accounted e.assign k' (e.resequencer.nextReceive :: due) ripe := by
  refine ⟨Nat.le_succ_of_le h.le, fun ha t => ?_, h.discarded,
    fun h => absurd (hd.symm.trans h) (by decide), h.unripe⟩
  have hle := h.le
  have hc := h.count ha t
  show k'.receiving.count t + e.resequencer.slots.count t + List.count t (_ :: due) =
    if e.resequencer.nextSend ≤ t ∧ t < e.resequencer.nextReceive + 1 then 1 else 0
  rw [hk, List.count_cons]
  grind

/-- Receives came back, and their slots are owed now. -/
theorem Accounted.gaveBack {slots : List Slot} (h : Accounted e k [] ripe)
    (hp : k.receiving.Perm (slots ++ k'.receiving)) : Accounted e.finish k' slots ripe := by
  refine ⟨h.le, fun ha t => ?_, h.discarded, h.finished, h.unripe⟩
  have hc := h.count ha t
  rw [hp.count_eq, List.count_append, List.count_nil] at hc
  show k'.receiving.count t + e.resequencer.slots.count t + slots.count t =
    if e.resequencer.nextSend ≤ t ∧ t < e.resequencer.nextReceive then 1 else 0
  omega

theorem Accounted.insert {t : Slot} {x : Entry Operation} {r : Resequencer Operation}
    (h : Accounted e k (t :: due) ripe) (ha : e.aborted = false)
    (hi : e.resequencer.insert t x = .ok r) :
    Accounted { e with resequencer := r } k due true := by
  obtain ⟨-, hr⟩ := Resequencer.insert_eq_ok_iff.1 hi
  have hs : r.nextSend = e.resequencer.nextSend := by rw [hr]
  have hn : r.nextReceive = e.resequencer.nextReceive := by rw [hr]
  refine ⟨?_, fun _ u => ?_, fun h => absurd (ha.symm.trans h) (by decide), fun hd => ?_, by simp⟩
  · show r.nextSend ≤ r.nextReceive
    rw [hs, hn]
    exact h.le
  · have hc := h.count ha u
    rw [List.count_cons] at hc
    show k.receiving.count u + r.slots.count u + due.count u =
      if r.nextSend ≤ u ∧ u < r.nextReceive then 1 else 0
    rw [Resequencer.count_slots_of_insert hi, hs, hn]
    grind
  · show e.aborted ∨ r.nextReceive = r.nextSend
    rw [hs, hn]
    exact h.finished hd

/-- The slot that is next is released, so the account begins one slot later. -/
theorem Accounted.release {w : Slot × Entry Operation} {r : Resequencer Operation}
    (h : Accounted e k due ripe) (hr : e.resequencer.release? = some (w, r)) :
    Accounted { e with resequencer := r } k due ripe := by
  obtain ⟨hw, -, hs, hn⟩ := Resequencer.release?_eq_some_iff.1 hr
  have hslots := Resequencer.slots_of_release? hr
  have hm : e.resequencer.nextSend ∈ e.resequencer.slots := by
    rw [hslots, ← hw]
    exact List.mem_cons_self
  obtain ⟨ha, -, hlt⟩ := h.mem_slots hm
  refine ⟨?_, fun _ t => ?_, fun h => absurd (ha.symm.trans h) (by decide), fun hd => ?_,
    fun hripe => absurd hm (h.unripe hripe)⟩
  · show r.nextSend ≤ r.nextReceive
    rw [hs, hn, hw]
    exact hlt
  · have hc := h.count ha t
    rw [hslots, List.count_cons] at hc
    show k.receiving.count t + r.slots.count t + due.count t =
      if r.nextSend ≤ t ∧ t < r.nextReceive then 1 else 0
    rw [hs, hn, hw]
    grind
  · have hf := (h.finished hd).resolve_left (by rw [ha]; decide)
    exact absurd hlt (by rw [hf]; exact Nat.lt_irrefl _)

theorem Accounted.close {l : Link} (h : Accounted l.endpoint l.socket due ripe) (fatal : Bool) :
    Accounted (l.close fatal).endpoint (l.close fatal).socket due ripe := by
  have hk : (l.close fatal).socket.receiving = l.socket.receiving := by
    unfold Socket.receiving
    rw [inFlight_close]
  cases fatal with
  | false => exact h.congr rfl rfl rfl hk
  | true =>
    exact ⟨h.le, fun h => absurd h (by simp [endpoint_close]), fun _ => rfl, fun _ => Or.inl rfl,
      fun _ => List.not_mem_nil⟩

theorem Accounted.move (h : Move P st st')
    (hs : Accounted st.link.endpoint st.link.socket st.due st.ripe) :
    Accounted st'.link.endpoint st'.link.socket st'.due st'.ripe := by
  cases h with
  | allocate | release | equip => exact hs
  | defer => exact hs.congr rfl rfl rfl rfl
  | @receive l _ _ _ _ _ hr hp =>
    have hd : l.endpoint.destroyed = false := by simpa using fun h => hr (Or.inr h)
    exact (hs.assign hd (hp.receiving rfl)).congr rfl rfl rfl rfl
  | @receiveRefused l _ _ _ _ _ _ hr hp =>
    have hd : l.endpoint.destroyed = false := by simpa using fun h => hr (Or.inr h)
    exact hs.assign_due hd hp.receiving
  | accept _ hp => exact hs.congr rfl rfl rfl (hp.receiving_of_ne (by decide))
  | acceptRefused _ hp => exact hs.congr rfl rfl rfl hp.receiving
  | park ha _ hi => exact hs.insert ha hi
  | reject ha hn => exact absurd (hs.accepts ha List.mem_cons_self) hn
  | forget ha =>
    exact ⟨hs.le, fun h => absurd (h.symm.trans ha) (by decide), hs.discarded, hs.finished,
      hs.unripe⟩
  | pass hr | sendLost _ hr => exact hs.release hr
  | send _ hr hp => exact (hs.release hr).congr rfl rfl rfl (hp.receiving_of_ne (by decide))
  | sendRefused _ _ hr hp => exact (hs.release hr).congr rfl rfl rfl hp.receiving
  | @sendFatal l _ _ due _ ripe r _ socket _ hr hp =>
    have hk : Accounted { l.endpoint with resequencer := r } socket due ripe :=
      (hs.release hr).congr rfl rfl rfl hp.receiving
    exact Accounted.close hk true
  | rest hr =>
    exact ⟨hs.le, hs.count, hs.discarded, hs.finished,
      fun _ => Resequencer.nextSend_notMem_slots hr fun t ht => (hs.mem_slots ht).2.1⟩
  | close fatal _ => exact hs.close fatal

end Link

end OrderedEcho
