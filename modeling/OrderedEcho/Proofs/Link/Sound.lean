import OrderedEcho.Proofs.Link.Routing
import OrderedEcho.Proofs.Link.Safety
import OrderedEcho.Proofs.Link.Shipping
import OrderedEcho.Proofs.Link.Funds

/-!
# Sound links

`Sound` gathers all that holds of an endpoint and its socket, in the middle of an act too.  It is
kept by every sequence of moves (`Sound.path`), and also by what happens between acts: an operation
comes back (`Sound.gaveBack`), and an endpoint with nothing left to do is destroyed
(`Sound.destroy`).

An endpoint with nothing in flight has nothing waiting either (`Sound.isIdle`), which is why every
closing endpoint can be destroyed in the end.
-/

namespace OrderedEcho

/-- The slots that an endpoint owes entries for when the operation completes. -/
def Operation.due (op : Operation) : List Slot :=
  match op.kind with
  | .receive => op.slot.toList
  | .accept | .send => []

theorem Operation.due_of_receive {op : Operation} {t : Slot} (hk : op.kind = .receive)
    (ht : op.slot = some t) : op.due = [t] := by
  unfold due
  rw [hk, ht]
  rfl

theorem Operation.due_of_ne {op : Operation} (hk : op.kind ≠ .receive) : op.due = [] := by
  unfold due
  split
  · next he => exact absurd he hk
  · rfl
  · rfl

/-- What is known from outside about an endpoint: what may have become of its slots, how many of its
operations have completed, how many receives in each slot were among them, and which operations its
socket gave back. -/
structure Ledger where
  outcome : Slot → Entry Operation → Prop
  done : Nat
  told : Slot → Nat
  returned : Operation → Prop

/-- `b` is known as soon as `a` is, and counts the same completions. -/
structure Ledger.Extends (a b : Ledger) : Prop where
  outcome : ∀ t x, a.outcome t x → b.outcome t x
  done : b.done = a.done
  told : b.told = a.told
  returned : ∀ op, a.returned op → b.returned op

/-- `b` knows of one more completion than `a`. -/
structure Ledger.Counts (a b : Ledger) (op : Operation) : Prop where
  outcome : ∀ t x, a.outcome t x → b.outcome t x
  done : b.done = a.done + 1
  told : ∀ t, b.told t = a.told t + op.due.count t
  returned : ∀ x, a.returned x ∨ x = op → b.returned x

namespace Socket

/-- The sockets differ in what they are going to refuse only. -/
structure Same (k k' : Socket) : Prop where
  closed : k'.closed = k.closed
  history : k'.history = k.history
  lane : ∀ kind, (k'.lane kind).inFlight = (k.lane kind).inFlight

theorem same_refuse (k : Socket) (kind : OperationKind) (r : Refusals) : k.Same (k.refuse kind r) :=
  ⟨closed_setLane _ _ _, history_setLane _ _ _, fun _ => inFlight_lane_setLane _ _ _ _⟩

theorem GaveBack.receiving_perm {k k' : Socket} {kind : OperationKind} {op : Operation}
    {id : EndpointId} (h : k.GaveBack kind op k') (hop : op.RunsAs kind id) :
    k.receiving.Perm (op.due ++ k'.receiving) := by
  by_cases hk : kind = .receive
  · subst hk
    obtain ⟨t, ht⟩ := Option.isSome_iff_exists.1 (hop.slot rfl)
    rw [Operation.due_of_receive hop.kind ht]
    exact h.receiving ht
  · rw [Operation.due_of_ne (hop.kind ▸ hk), h.receiving_of_ne hk]
    exact .refl _

theorem lane_eq_nil_of_length {k : Socket} (h : k.inFlight.length = 0) (kind : OperationKind) :
    (k.lane kind).inFlight = [] := by
  rw [length_inFlight] at h
  cases kind <;> exact List.eq_nil_of_length_eq_zero (by omega)

end Socket

namespace Link

/-- All that holds of an endpoint and its socket. -/
structure Sound (L : Ledger) (e : Endpoint) (k : Socket) (due : List Slot) (ripe : Bool) :
    Prop where
  lifecycle : Lifecycle e k
  accounted : Accounted e k due ripe
  echoed : Echoed L.outcome e k
  routed : Routed e k
  numbered : Numbered e k
  tallied : Tallied L.done L.told k
  orderly : k.Orderly
  shipped : Shipped L.returned e k
  fitting : e.rejected = 0

variable {L L' : Ledger} {st st' : Stage} {e : Endpoint} {k k' : Socket} {due : List Slot}
  {ripe : Bool}

theorem Sound.move (h : Move L.outcome st st')
    (hs : Sound L st.link.endpoint st.link.socket st.due st.ripe) :
    Sound L st'.link.endpoint st'.link.socket st'.due st'.ripe :=
  ⟨.move h hs.lifecycle, .move h hs.accounted, .move h hs.accounted hs.echoed,
    .move h hs.echoed hs.routed, .move h hs.numbered, .move h hs.tallied,
    orderly_move h hs.lifecycle hs.accounted hs.orderly, .move h hs.shipped,
    (rejected_move h hs.accounted).trans hs.fitting⟩

theorem Sound.path (h : Path L.outcome st st')
    (hs : Sound L st.link.endpoint st.link.socket st.due st.ripe) :
    Sound L st'.link.endpoint st'.link.socket st'.due st'.ripe := by
  induction h with
  | refl => exact hs
  | tail _ h ih => exact .move h ih

theorem Echoed.mono {P P' : Slot → Entry Operation → Prop} (h : Echoed P e k)
    (hP : ∀ t x, P t x → P' t x) : Echoed P' e k := by
  have hj {t : Slot} {x : Entry Operation} (h : k.Justifies P e.id t x) : k.Justifies P' e.id t x :=
    ⟨h.label, h.reason.imp_left (hP t x)⟩
  refine ⟨fun w hw => hj (h.waiting w hw), h.slots, h.sorted, h.bounded, fun t ht => ?_⟩
  obtain ⟨x, hx, hsent⟩ := h.passed t ht
  exact ⟨x, hj hx, hsent⟩

theorem Sound.mono (h : Sound L e k due ripe) (hL : L.Extends L') : Sound L' e k due ripe :=
  ⟨h.lifecycle, h.accounted, h.echoed.mono hL.outcome, h.routed, h.numbered,
    hL.done ▸ hL.told ▸ h.tallied, h.orderly, h.shipped.mono hL.returned, h.fitting⟩

theorem Sound.same (h : Sound L e k due ripe) (hk : k.Same k') : Sound L e k' due ripe := by
  have hl : k'.inFlight.length = k.inFlight.length := by simp only [Socket.length_inFlight, hk.lane]
  have hr : k'.receiving = k.receiving := by
    unfold Socket.receiving
    rw [hk.lane]
  have hh := Socket.handed_congr hk.history
  refine ⟨⟨h.lifecycle.closing_of_aborted, h.lifecycle.closing_of_destroyed,
    h.lifecycle.deferred_eq_zero, h.lifecycle.graceful, hk.closed ▸ h.lifecycle.closed,
    hk.closed ▸ h.lifecycle.reason, hl ▸ h.lifecycle.outstanding, h.lifecycle.settled⟩,
    h.accounted.congr rfl rfl rfl hr,
    h.echoed.mono_history rfl rfl rfl (hh .send) (hk.history ▸ List.prefix_rfl),
    h.routed.congr hk.lane, h.numbered.congr rfl rfl (hh .receive),
    h.tallied.congr (Socket.taken_congr hk.history) (Socket.startedIn_congr hk.history) hl hr,
    h.orderly.congr hk.closed hk.history,
    h.shipped.congr rfl id (Socket.started_congr hk.history .send) (hh .send) (hk.lane .send),
    h.fitting⟩

/-! ## Beginning and end -/

/-- A new endpoint on a socket that was never used.  A stream owes the entry of slot 0. -/
theorem sound_ofInfo {info : EndpointInfo} {socket : SocketId} (hh : k.history = [])
    (ho : k.Orderly) (hl : ∀ kind, (k.lane kind).inFlight = []) (hd : L.done = 0) (ht : ∀ t, L.told t = 0) :
    Sound L (.ofInfo info socket) k (List.range info.kind.firstReceive) false := by
  have hn : k.inFlight.length = 0 := by simp only [Socket.length_inFlight, hl, List.length_nil]
  have hr : k.receiving = [] := by
    unfold Socket.receiving
    rw [hl, List.filterMap_nil]
  have hh' (kind : OperationKind) : k.handed kind = [] := by
    unfold Socket.handed
    rw [hh, List.filterMap_nil]
  have hs : k.sentSlots = [] := by
    unfold Socket.sentSlots
    rw [hh', List.filterMap_nil]
  have hstarted : k.started .send = [] := by
    unfold Socket.started
    rw [hh, List.filterMap_nil]
  have hopen := ho.closed_eq_false hh
  refine ⟨⟨nofun, nofun, fun _ => rfl, nofun, ?_, fun h => absurd (hopen.symm.trans h) (by decide),
    hn.symm, nofun⟩, ⟨Nat.zero_le _, fun _ t => ?_, nofun, nofun, fun _ => List.not_mem_nil⟩,
    ⟨nofun, ?_, ?_, ?_, nofun⟩, ?_, ⟨?_, ?_⟩, ⟨?_, fun t => ?_⟩, ho, ⟨fun _ _ => ?_, ?_⟩, rfl⟩
  · rintro (h | h) <;> cases h
  · show k.receiving.count t + 0 + (List.range info.kind.firstReceive).count t =
      if 0 ≤ t ∧ t < info.kind.firstReceive then 1 else 0
    rw [hr, List.nodup_range.count, List.count_nil, Nat.add_zero, Nat.zero_add]
    simp only [List.mem_range, Nat.zero_le, true_and]
  · rw [hs, hh']
    rfl
  · rw [hs]
    exact .nil
  · rw [hs]
    exact nofun
  · intro kind op hop
    rw [hl] at hop
    cases hop
  · rw [hh']
    rfl
  · rw [hh']
    rfl
  · rw [Socket.taken, hh, hn, hd]
    rfl
  · rw [ht, hr, Socket.startedIn, hh]
    rfl
  · rw [hstarted, hh']
  · rw [hstarted]
    exact nofun

/-- An operation of the endpoint completes.  The slot of a receive is now owed. -/
theorem Sound.gaveBack {kind : OperationKind} {op : Operation} (h : Sound L e k [] false)
    (hk : k.GaveBack kind op k') (hL : L.Counts L' op) : Sound L' e.finish k' op.due false := by
  have hp := hk.receiving_perm (h.routed kind op hk.op_mem_lane)
  have hh := Socket.handed_congr hk.history
  have htold : L'.told = fun t => L.told t + op.due.count t := funext hL.told
  refine ⟨h.lifecycle.gaveBack hk, h.accounted.gaveBack hp, ?_, ?_, ?_, ?_,
    h.orderly.congr hk.closed hk.history, h.shipped.gaveBack hk hL.returned, h.fitting⟩
  · exact (h.echoed.mono hL.outcome).mono_history rfl rfl rfl (hh .send)
      (hk.history ▸ List.prefix_rfl)
  · exact fun kind op hop => h.routed kind op (hk.mem_lane hop)
  · exact h.numbered.congr rfl rfl (hh .receive)
  · rw [hL.done, htold]
    exact h.tallied.gaveBack hk hp

/-- With no receive in flight, the next send is the next receive, unless the endpoint was aborted. -/
theorem Sound.nextSend_eq_of_receiving (h : Sound L e k [] false) (hr : k.receiving = [])
    (ha : e.aborted = false) : e.resequencer.nextReceive = e.resequencer.nextSend := by
  have hc := h.accounted.count ha e.resequencer.nextSend
  rw [hr, List.count_eq_zero.2 (h.accounted.unripe rfl)] at hc
  by_contra hne
  rw [if_pos ⟨Nat.le_refl _, Nat.lt_of_le_of_ne h.accounted.le (Ne.symm hne)⟩] at hc
  simp at hc

/-- Entries wait for receives only. -/
theorem Sound.isIdle_of_receiving (h : Sound L e k [] false) (hr : k.receiving = []) :
    e.resequencer.isIdle := by
  rw [Resequencer.isIdle_iff, ← Resequencer.slots_eq_nil_iff]
  cases ha : e.aborted with
  | true => exact h.accounted.discarded ha
  | false =>
    refine List.eq_nil_iff_forall_not_mem.2 fun t ht => ?_
    obtain ⟨-, hle, hlt⟩ := h.accounted.mem_slots ht
    exact absurd hlt (h.nextSend_eq_of_receiving hr ha ▸ Nat.not_lt.2 hle)

theorem Sound.receiving_eq_nil (h : Sound L e k [] false) (h0 : e.outstanding = 0) :
    k.receiving = [] := by
  unfold Socket.receiving
  rw [Socket.lane_eq_nil_of_length (h.lifecycle.outstanding ▸ h0), List.filterMap_nil]

theorem Sound.nextSend_eq (h : Sound L e k [] false) (h0 : e.outstanding = 0)
    (ha : e.aborted = false) : e.resequencer.nextReceive = e.resequencer.nextSend :=
  h.nextSend_eq_of_receiving (h.receiving_eq_nil h0) ha

theorem Sound.isIdle (h : Sound L e k [] false) (h0 : e.outstanding = 0) :
    e.resequencer.isIdle := h.isIdle_of_receiving (h.receiving_eq_nil h0)

theorem Sound.destroyable_iff (h : Sound L e k [] false) :
    e.Destroyable ↔ e.destroyed = false ∧ e.closing ∧ e.outstanding = 0 :=
  ⟨fun hd => ⟨hd.1, hd.2.1, hd.2.2.1⟩, fun ⟨hd, hc, h0⟩ => ⟨hd, hc, h0, h.isIdle h0⟩⟩

/-- An endpoint with nothing left to do is destroyed, and its socket is closed. -/
theorem Sound.destroy (h : Sound L e k [] false) (hd : e.Destroyable) :
    Sound L { e with destroyed := true } k.close [] false := by
  have hl := h.lifecycle
  have hlane := k.inFlight_lane_close
  refine ⟨⟨hl.closing_of_aborted, fun _ => hd.2.1, hl.deferred_eq_zero, hl.graceful, fun _ => rfl,
    fun _ => Or.inr rfl, hl.outstanding, fun _ => hd.2.2.1⟩, ⟨h.accounted.le, h.accounted.count,
    h.accounted.discarded, fun _ => ?_, h.accounted.unripe⟩, ?_, h.routed.congr hlane, ?_, ?_,
    h.orderly.close, ?_, h.fitting⟩
  · cases ha : e.aborted with
    | true => exact Or.inl rfl
    | false => exact Or.inr (h.nextSend_eq hd.2.2.1 ha)
  · exact h.echoed.mono_history rfl rfl rfl (Socket.handed_close _) (List.prefix_append _ _)
  · exact h.numbered.congr rfl rfl (Socket.handed_close _)
  · exact h.tallied.close
  · exact h.shipped.congr rfl id (Socket.started_close _) (Socket.handed_close _) (hlane .send)

end Link

end OrderedEcho
