import OrderedEcho.Proofs.Link.Accounting
import OrderedEcho.Proofs.Socket.Orderly

/-!
# What never happens on a link

An endpoint that is neither aborted nor destroyed has an open socket, and no other endpoint posts.
So nothing is asked of a socket after it was closed (`orderly_move`).  And every slot that an act
owes an entry for can be filled, so the resequencer never hands an entry back (`rejected_move`).
-/

namespace OrderedEcho

namespace Link

variable {P : Slot → Entry Operation → Prop} {st st' : Stage} {e : Endpoint} {k : Socket}
  {due : List Slot} {ripe : Bool}

/-! ## Posts on closed sockets -/

theorem Lifecycle.closed_eq_false (h : Lifecycle e k) (ha : e.aborted = false)
    (hd : e.destroyed = false) : k.closed = false := by
  rw [Bool.eq_false_iff]
  intro hc
  rcases h.reason hc with hx | hx
  · exact absurd (ha.symm.trans hx) (by decide)
  · exact absurd (hd.symm.trans hx) (by decide)

/-- An endpoint that posts receives or accepts has an open socket. -/
theorem Lifecycle.open_of_not_refuses {l : Link} (h : Lifecycle l.endpoint l.socket)
    (hr : ¬ l.Refuses) : l.socket.closed = false := by
  refine h.closed_eq_false (Bool.eq_false_iff.2 fun ha => ?_) (Bool.eq_false_iff.2 fun hd => ?_)
  · exact hr (Or.inl (h.closing_of_aborted ha))
  · exact hr (Or.inr hd)

/-- An endpoint with something to send was not aborted. -/
theorem Accounted.aborted_eq_false (h : Accounted e k due ripe) {t : Slot}
    {x : Entry Operation} {r : Resequencer Operation}
    (hr : e.resequencer.release? = some ((t, x), r)) : e.aborted = false := by
  refine (h.mem_slots (t := t) ?_).1
  rw [Resequencer.slots_of_release? hr]
  exact List.mem_cons_self

theorem orderly_close {l : Link} (h : l.socket.Orderly) (fatal : Bool) :
    (l.close fatal).socket.Orderly := by
  rw [socket_close]
  split
  · exact h.close
  · exact h

theorem orderly_move (h : Move P st st') (hl : Lifecycle st.link.endpoint st.link.socket)
    (ha : Accounted st.link.endpoint st.link.socket st.due st.ripe)
    (ho : st.link.socket.Orderly) : st'.link.socket.Orderly := by
  cases h with
  | allocate | release | equip | reject | forget | rest | park | pass | sendLost | defer => exact ho
  | receive _ hp | accept _ hp | send _ _ hp => exact ho.took hp
  | receiveRefused hr hp | acceptRefused hr hp => exact ho.refused (hl.open_of_not_refuses hr) hp
  | sendRefused hd _ hr hp =>
    exact ho.refused (hl.closed_eq_false (ha.aborted_eq_false hr) hd) hp
  | sendFatal hd hr hp =>
    have hk := ho.refused (hl.closed_eq_false (ha.aborted_eq_false hr) hd) hp
    exact orderly_close hk true
  | close fatal _ => exact orderly_close ho fatal

/-! ## Rejected entries -/

@[simp] theorem rejected_close (l : Link) (fatal : Bool) :
    (l.close fatal).endpoint.rejected = l.endpoint.rejected := by
  cases fatal <;> rfl

theorem rejected_move (h : Move P st st')
    (ha : Accounted st.link.endpoint st.link.socket st.due st.ripe) :
    st'.link.endpoint.rejected = st.link.endpoint.rejected := by
  cases h with
  | reject hna hn => exact absurd (ha.accepts hna List.mem_cons_self) hn
  | sendFatal => exact rejected_close _ true
  | close fatal => exact rejected_close _ fatal
  | _ => rfl

end Link

end OrderedEcho
