import OrderedEcho.Proofs.Server.Run

/-!
# The order of echoes

The purpose of the server: whatever the order of completions, and whatever the sockets refuse, each
endpoint hands sends to its socket in the order in which their receives were posted, each of them
once, and each with the bytes and the peer of its receive (`Run.echo_order`).
-/

namespace OrderedEcho

namespace Server

/-- The send `op` echoes what came in slot `t`: in slot 0 of a stream the data of the accept, and in
any other slot what its receive delivered. -/
def Echoes (evs : List ServerEvent) (e : Endpoint) (t : Slot) (op : Operation) : Prop :=
  if e.kind = .stream ∧ t = 0 then
    ∃ c, deliveries evs e.socket = [c] ∧ op.payload = c.operation.payload
  else
    ∃ c n, receipts evs e.id t = [c] ∧ c.result = .ok n ∧ (e.kind = .stream → n ≠ 0) ∧
      op.payload = c.operation.payload.take n ∧ op.peer = c.operation.peer

/-- There is nothing to echo in slot `t`: its receive was refused, met the end of the stream, or
failed on a datagram socket; or the pool had no operation for the data of the accept. -/
def Silent (s₀ : Server) (evs : List ServerEvent) (e : Endpoint) (k : Socket) (t : Slot) : Prop :=
  if e.kind = .stream ∧ t = 0 then ∃ c, deliveries evs e.socket = [c] ∧ Unserved s₀ evs c
  else
    k.RefusedReceive t ∧ receipts evs e.id t = [] ∨ ∃ c, receipts evs e.id t = [c] ∧
      (e.kind = .stream ∧ c.result = .ok 0 ∨ e.kind = .datagram ∧ ∃ x, c.result = .error x)

variable {s₀ s : Server} {evs : List ServerEvent} {id : EndpointId} {t : Slot} {c : Completion}
  {settings : Settings} {now : Int}

theorem eq_singleton_of_mem {α : Type} {a : α} {l : List α} (h : a ∈ l) (hl : l.length ≤ 1) :
    l = [a] := by
  obtain ⟨b, rfl⟩ := List.length_eq_one_iff.1 (Nat.le_antisymm hl (List.length_pos_of_mem h))
  rw [List.mem_singleton.1 h]

/-- Only receives that the socket started complete, and there is one in each slot at most. -/
theorem Sound.length_receipts_le (h : Sound (book s₀ evs) [] 0 s) (hid : id < s.directory.nextId)
    (t : Slot) : (receipts evs (s.endpoints.get id).id t).length ≤
      (s.sockets.get (s.endpoints.get id).socket).startedIn t := by
  rw [(h.endpoint hid).tallied.told t]
  exact Nat.le_add_right _ _

/-- What completed in a slot was handed over in that slot. -/
theorem Sound.mem_handed (h : Sound (book s₀ evs) [] 0 s) (hid : id < s.directory.nextId)
    (hc : c ∈ receipts evs (s.endpoints.get id).id t) :
    some t ∈ ((s.sockets.get (s.endpoints.get id).socket).handed .receive).map Operation.slot := by
  have hle := h.length_receipts_le hid t
  have hpos := List.length_pos_of_mem hc
  have hcount := Socket.count_handed_receive (s.sockets.get (s.endpoints.get id).socket) t
  exact List.count_pos_iff.1 (by omega)

theorem Sound.receipts_eq (h : Sound (book s₀ evs) [] 0 s) (hid : id < s.directory.nextId)
    (hc : c ∈ receipts evs (s.endpoints.get id).id t) :
    receipts evs (s.endpoints.get id).id t = [c] ∧
      ¬ ((s.endpoints.get id).kind = .stream ∧ t = 0) := by
  have hn := (h.endpoint hid).numbered
  have hle := h.length_receipts_le hid t
  have hone := hn.count_le_one t
  have hcount := Socket.count_handed_receive (s.sockets.get (s.endpoints.get id).socket) t
  refine ⟨eq_singleton_of_mem hc (by omega), fun ⟨hk, h0⟩ => ?_⟩
  have hfirst := hn.firstReceive_le (h.mem_handed hid hc)
  rw [hk, h0] at hfirst
  exact absurd hfirst (by decide)

theorem Sound.receipts_eq_nil (h : Sound (book s₀ evs) [] 0 s) (hid : id < s.directory.nextId)
    (hr : (s.sockets.get (s.endpoints.get id).socket).RefusedReceive t) :
    receipts evs (s.endpoints.get id).id t = [] := by
  have hle := h.length_receipts_le hid t
  rw [hr.startedIn_eq_zero ((h.endpoint hid).numbered.count_le_one t)] at hle
  exact List.eq_nil_of_length_eq_zero (Nat.le_zero.1 hle)

/-- No receive was handed over for slot 0 of a stream. -/
theorem Sound.refusedReceive (h : Sound (book s₀ evs) [] 0 s) (hid : id < s.directory.nextId)
    (hr : (s.sockets.get (s.endpoints.get id).socket).RefusedReceive t) :
    ¬ ((s.endpoints.get id).kind = .stream ∧ t = 0) := by
  rintro ⟨hk, rfl⟩
  obtain ⟨op, x, hop, ht⟩ := hr
  have hm : op ∈ (s.sockets.get (s.endpoints.get id).socket).handed .receive :=
    List.mem_filterMap.2 ⟨_, hop, rfl⟩
  have hfirst := (h.endpoint hid).numbered.firstReceive_le (List.mem_map.2 ⟨op, hm, ht⟩)
  rw [hk] at hfirst
  exact absurd hfirst (by decide)

/-- What the book says may become of a slot, in the terms of `Echoes` and `Silent`. -/
theorem Sound.echoes_or_silent (h : Sound (book s₀ evs) [] 0 s) (hr : Run s₀ evs s)
    (h0 : Server.ofSettings settings now = .ok s₀)
    (hid : id < s.directory.nextId) {x : Entry Operation}
    (hx : (s.sockets.get (s.endpoints.get id).socket).Justifies
      (Outcome s₀ evs (s.endpoints.get id).toEndpointInfo (s.endpoints.get id).socket)
      (s.endpoints.get id).id t x) :
    match x with
    | .data op => Echoes evs (s.endpoints.get id) t op
    | .skip =>
      Silent s₀ evs (s.endpoints.get id) (s.sockets.get (s.endpoints.get id).socket) t := by
  have hone {c : Completion} {k : SocketId} (hc : c ∈ deliveries evs k) : deliveries evs k = [c] :=
    eq_singleton_of_mem hc (hr.length_deliveries_le h0 k).1
  unfold Echoes Silent
  rcases hx.reason with ho | ⟨rfl, href⟩
  · cases ho with
    | echo hc hres hn =>
      obtain ⟨he, hne⟩ := h.receipts_eq hid hc
      dsimp only
      rw [if_neg hne]
      exact ⟨_, _, he, hres, hn, rfl, rfl⟩
    | ended hc hres hk =>
      obtain ⟨he, hne⟩ := h.receipts_eq hid hc
      dsimp only
      rw [if_neg hne]
      exact Or.inr ⟨_, he, Or.inl ⟨hk, hres⟩⟩
    | failed hc hres hk =>
      obtain ⟨he, hne⟩ := h.receipts_eq hid hc
      dsimp only
      rw [if_neg hne]
      exact Or.inr ⟨_, he, Or.inr ⟨hk, _, hres⟩⟩
    | welcome hk hc hp _ =>
      dsimp only
      rw [if_pos ⟨hk, rfl⟩]
      exact ⟨_, hone hc, hp⟩
    | lost hk hc hn =>
      dsimp only
      rw [if_pos ⟨hk, rfl⟩]
      exact ⟨_, hone hc, hn⟩
  · dsimp only
    rw [if_neg (h.refusedReceive hid href)]
    exact Or.inl ⟨href, h.receipts_eq_nil hid href⟩

/-- The sends that were handed to the socket of an endpoint are in the order of their slots, all of
them before the slot that is to be sent next.  Each slot before that one was echoed once, or had
nothing to echo. -/
theorem Run.echo_order (h0 : Server.ofSettings settings now = .ok s₀) (h : Run s₀ evs s)
    (hid : id < s.directory.nextId) :
    let e := s.endpoints.get id
    let k := s.sockets.get e.socket
    (k.handed .send).map Operation.slot = k.sentSlots.map some ∧
    k.sentSlots.Pairwise (· < ·) ∧
    (∀ t ∈ k.sentSlots, t < e.resequencer.nextSend) ∧
    ∀ t < e.resequencer.nextSend,
      (∃ op, k.sentIn t = [op] ∧ Echoes evs e t op) ∨ k.sentIn t = [] ∧ Silent s₀ evs e k t := by
  intro e k
  have hs := h.sound h0
  have hl : Link.Sound (book s₀ evs e.toEndpointInfo e.socket) e k [] false := hs.endpoint hid
  refine ⟨hl.echoed.slots, hl.echoed.sorted, hl.echoed.bounded, fun t ht => ?_⟩
  obtain ⟨x, hx, hsent⟩ := hl.echoed.passed t ht
  have ho := hs.echoes_or_silent h h0 hid hx
  cases x with
  | data op => exact Or.inl ⟨op, hsent, ho⟩
  | skip => exact Or.inr ⟨hsent, ho⟩

/-- After the visit, slot 0 was echoed, and slot 1 had nothing to echo. -/
theorem echo_order_visit :
    let e := (afterVisit 4).endpoints.get 1
    let k := (afterVisit 4).sockets.get e.socket
    e.resequencer.nextSend = 2 ∧ k.sentSlots = [0] ∧ ∀ t < e.resequencer.nextSend,
      (∃ op, k.sentIn t = [op] ∧ Echoes (visit.take 4) e t op) ∨
        k.sentIn t = [] ∧ Silent visited (visit.take 4) e k t := by
  have hid : 1 < (afterVisit 4).directory.nextId := by decide
  exact ⟨rfl, rfl, (Run.echo_order ofSettings_visited (run_visit 4) hid).2.2.2⟩

end Server

end OrderedEcho
