import OrderedEcho.Proofs.Server.Run

/-!
# The account of slots in a run

No slot is ever lost (`Run.slot_account`): until an endpoint is aborted, its slots from the next
send to the next receive are those of its receives in flight and those that wait, each of them once.
-/

namespace OrderedEcho

namespace Link

variable {L : Ledger} {e : Endpoint} {k : Socket}

/-- The slots between the next send and the next receive are in flight or wait. -/
theorem Sound.slots_perm (h : Sound L e k [] false) (ha : e.aborted = false) :
    (k.receiving ++ e.resequencer.slots).Perm (List.range' e.resequencer.nextSend
      (e.resequencer.nextReceive - e.resequencer.nextSend)) := by
  refine List.perm_iff_count.2 fun t => ?_
  have hc := h.accounted.count ha t
  rw [List.count_nil, Nat.add_zero] at hc
  have hn : (List.range' e.resequencer.nextSend
      (e.resequencer.nextReceive - e.resequencer.nextSend)).Nodup := List.nodup_range' 1
  rw [List.count_append, hc, hn.count]
  simp only [List.mem_range'_1, Nat.add_sub_cancel' h.accounted.le]

/-- The next slot to be sent is in flight, unless none was handed out beyond it. -/
theorem Sound.nextSend_mem (h : Sound L e k [] false) (ha : e.aborted = false) :
    e.resequencer.nextSend ∈ k.receiving ∨
      e.resequencer.nextSend = e.resequencer.nextReceive := by
  rcases Nat.eq_or_lt_of_le h.accounted.le with he | hlt
  · exact Or.inr he
  · have hm : e.resequencer.nextSend ∈ k.receiving ++ e.resequencer.slots := by
      rw [(h.slots_perm ha).mem_iff, List.mem_range'_1]
      omega
    exact Or.inl ((List.mem_append.1 hm).resolve_right (h.accounted.unripe rfl))

end Link

namespace Server

variable {s₀ s : Server} {evs : List ServerEvent} {id : EndpointId} {settings : Settings}
  {now : Int}

/-- Until an endpoint is aborted, its slots from the next send to the next receive are in flight or
wait, and the first of them does not wait.  Receives are handed to the socket in consecutive
slots. -/
theorem Run.slot_account (h0 : Server.ofSettings settings now = .ok s₀) (h : Run s₀ evs s)
    (hid : id < s.directory.nextId) :
    let e := s.endpoints.get id
    let k := s.sockets.get e.socket
    (e.aborted = false →
      (k.lane .receive).inFlight.map Operation.slot = k.receiving.map some ∧
      e.resequencer.nextSend ≤ e.resequencer.nextReceive ∧
      (k.receiving ++ e.resequencer.slots).Perm (List.range' e.resequencer.nextSend
        (e.resequencer.nextReceive - e.resequencer.nextSend)) ∧
      e.resequencer.nextSend ∉ e.resequencer.slots ∧
      (e.resequencer.nextSend ∈ k.receiving ∨
        e.resequencer.nextSend = e.resequencer.nextReceive)) ∧
    (k.handed .receive).map Operation.slot =
      (List.range' (if e.kind = .stream then 1 else 0) (k.handed .receive).length).map some := by
  intro e k
  have hl : Link.Sound (book s₀ evs e.toEndpointInfo e.socket) e k [] false :=
    (h.sound h0).endpoint hid
  refine ⟨fun ha => ⟨hl.routed.map_slot, hl.accounted.le, hl.slots_perm ha,
    hl.accounted.unripe rfl, hl.nextSend_mem ha⟩, ?_⟩
  have hfirst : (if e.kind = .stream then 1 else 0) = e.kind.firstReceive := by
    cases e.kind <;> rfl
  rw [hfirst]
  exact hl.numbered.slots

/-- After the client came, its first receive is in flight. -/
theorem slot_account_visit :
    let e := (afterVisit 2).endpoints.get 1
    let k := (afterVisit 2).sockets.get e.socket
    e.aborted = false ∧ (k.receiving ++ e.resequencer.slots).Perm [1] ∧ k.receiving = [1] := by
  have hid : 1 < (afterVisit 2).directory.nextId := by decide
  exact ⟨rfl, ((Run.slot_account ofSettings_visited (run_visit 2) hid).1 rfl).2.2.1, rfl⟩

end Server

end OrderedEcho
