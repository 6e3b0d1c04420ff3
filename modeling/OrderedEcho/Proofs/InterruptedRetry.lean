import OrderedEcho.Proofs.AnyUse
import OrderedEcho.Proofs.SendRuns

/-!
# An interrupted retry loses no receive

A retry stops with the first receive that cannot be posted.  Whoever is in charge of that one
depends on the reason: a receive for which the pool had no operation was deferred on the spot, one
that the socket refused is deferred when the result is settled, and the receives that were not tried
are deferred by the retry itself.  A refused receive leaves a slot behind, which is passed over, and
that may let other entries go.

`PutsInFlight` keeps the account of all this: it composes, and so the whole retry is accounted for
by its parts.
-/

namespace OrderedEcho

/-- The receive that was refused, if the event says so. -/
def SocketEvent.refusedReceive? : SocketEvent → Option Operation
  | .post .receive op (some _) => some op
  | _ => none

/-- The receives that the socket refused. -/
def Socket.refusedReceives (k : Socket) : List Operation :=
  k.history.filterMap SocketEvent.refusedReceive?

namespace Link

variable {l l' l'' l₁ : Link} {op : Operation} {t : Slot} {e : IoError}
  {receives receives' refused refused' sends sends' : List Operation}

/-- From `l` to `l'` the socket started `receives` and `sends`, which are in flight, and it refused
the receives `refused`. -/
structure PutsInFlight (receives refused sends : List Operation) (l l' : Link) : Prop where
  lane_receive : (l'.socket.lane .receive).inFlight = (l.socket.lane .receive).inFlight ++ receives
  refusedReceives : l'.socket.refusedReceives = l.socket.refusedReceives ++ refused
  lane_send : (l'.socket.lane .send).inFlight = (l.socket.lane .send).inFlight ++ sends
  outstanding : l'.endpoint.outstanding =
    l.endpoint.outstanding + receives.length + sends.length

/-! ## What the parts of a retry put in flight -/

theorem PutsInFlight.of_eq (hk : l'.socket = l.socket)
    (ho : l'.endpoint.outstanding = l.endpoint.outstanding) : PutsInFlight [] [] [] l l' := by
  constructor <;> simp [hk, ho]

theorem PutsInFlight.trans (h : PutsInFlight receives refused sends l l')
    (h' : PutsInFlight receives' refused' sends' l' l'') :
    PutsInFlight (receives ++ receives') (refused ++ refused') (sends ++ sends') l l'' := by
  refine ⟨?_, ?_, ?_, ?_⟩
  · rw [h'.lane_receive, h.lane_receive, List.append_assoc]
  · rw [h'.refusedReceives, h.refusedReceives, List.append_assoc]
  · rw [h'.lane_send, h.lane_send, List.append_assoc]
  · have ho := h.outstanding
    have ho' := h'.outstanding
    simp only [List.length_append]
    omega

/-- What puts nothing in flight may be left out. -/
theorem PutsInFlight.after (h : PutsInFlight receives refused sends l l')
    (h' : PutsInFlight [] [] [] l' l'') : PutsInFlight receives refused sends l l'' := by
  simpa using h.trans h'

theorem Gains.putsInFlight (h : Gains receives l l') : PutsInFlight receives [] [] l l' := by
  refine ⟨h.socket.lane_self, ?_, ?_, ?_⟩
  · have hnone : (SocketEvent.refusedReceive? ∘ fun op => .post .receive op none) =
        fun _ : Operation => none := rfl
    rw [Socket.refusedReceives, h.socket.history, List.filterMap_append, List.filterMap_map, hnone,
      List.filterMap_none]
    rfl
  · rw [h.socket.lane_of_ne .send (by decide), List.append_nil]
  · rw [h.endpoint]
    rfl

theorem putsInFlight_close (l : Link) (fatal : Bool) : PutsInFlight [] [] [] l (l.close fatal) := by
  refine ⟨?_, ?_, ?_, ?_⟩
  · simp
  · rw [socket_close]
    split
    · simp [Socket.refusedReceives, Socket.close, Socket.note, SocketEvent.refusedReceive?]
    · simp
  · simp
  · simp [endpoint_close]

/-- A refused send may close the endpoint, but that puts nothing in flight. -/
theorem putsInFlight_send (l : Link) (op : Operation) :
    ∃ sends, sends.length = (if (l.send op).1 then 1 else 0) ∧
      PutsInFlight [] [] sends l (l.send op).2 := by
  unfold send
  split
  · exact ⟨[], rfl, .of_eq rfl rfl⟩
  · split
    · next socket hp =>
      have hp := Socket.took_of_post hp
      refine ⟨[op], rfl, ?_, ?_, hp.lane_self, rfl⟩
      · rw [hp.lane_of_ne .receive (by decide), List.append_nil]
      · simp [Socket.refusedReceives, hp.history, SocketEvent.refusedReceive?]
    · next e socket hp =>
      have hp := Socket.refused_of_post hp
      have hrefused : PutsInFlight [] [] [] l (release { l with socket } op) := by
        refine ⟨?_, ?_, ?_, rfl⟩
        · simp [release, hp.lane]
        · simp [release, Socket.refusedReceives, hp.history, SocketEvent.refusedReceive?]
        · simp [release, hp.lane]
      refine ⟨[], rfl, ?_⟩
      dsimp only
      split
      · exact hrefused
      · exact hrefused.trans (putsInFlight_close _ true)

theorem putsInFlight_drainUpTo (n : Nat) (l : Link) :
    ∃ sends, sends.length = (l.drainUpTo n).1 ∧ PutsInFlight [] [] sends l (l.drainUpTo n).2 := by
  induction n generalizing l with
  | zero => exact ⟨[], rfl, .of_eq rfl rfl⟩
  | succ n ih =>
    rcases hr : l.endpoint.resequencer.release? with _ | ⟨⟨t, op | -⟩, r⟩
    · rw [drainUpTo_of_release? hr]
      exact ⟨[], rfl, .of_eq rfl rfl⟩
    · rw [drainUpTo_succ hr]
      have hpop : PutsInFlight [] [] [] l
        { l with endpoint := { l.endpoint with resequencer := r } } := .of_eq rfl rfl
      obtain ⟨sent, hm, hsent⟩ :=
        putsInFlight_send { l with endpoint := { l.endpoint with resequencer := r } } op
      obtain ⟨sends, hn, hs⟩ := ih
        (send { l with endpoint := { l.endpoint with resequencer := r } } op).2
      exact ⟨sent ++ sends, by rw [List.length_append, hm, hn], hpop.trans (hsent.trans hs)⟩
    · rw [drainUpTo_skip hr]
      have hpop : PutsInFlight [] [] [] l
        { l with endpoint := { l.endpoint with resequencer := r } } := .of_eq rfl rfl
      obtain ⟨sends, hn, hs⟩ := ih { l with endpoint := { l.endpoint with resequencer := r } }
      exact ⟨sends, hn, hpop.trans hs⟩

/-! ## The slot of a refused receive -/

/-- Slot `t` holds nothing back: it was passed, or it is going to be passed over, or everything that
waited was given up. -/
def Passed (l : Link) (t : Slot) : Prop :=
  t < l.endpoint.resequencer.nextSend ∨ (t, .skip) ∈ l.endpoint.resequencer.waiting.toList ∨
    l.endpoint.aborted ∧ l.endpoint.resequencer.isIdle

theorem passed_close (l : Link) (t : Slot) : (l.close true).Passed t := Or.inr (Or.inr ⟨rfl, rfl⟩)

/-- A slot that is to be passed over is passed by a drain, or it goes on waiting, or the drain fails
and gives up everything that waits. -/
theorem passed_drain (hd : l.endpoint.destroyed = false)
    (hs : ∀ u ∈ l.endpoint.resequencer.slots, l.endpoint.resequencer.nextSend ≤ u)
    (ht : (t, .skip) ∈ l.endpoint.resequencer.waiting.toList) : l.drain.2.Passed t := by
  obtain ⟨run, rest, h⟩ := Resequencer.exists_splits hs
  obtain ⟨hsends, -⟩ | ⟨-, before, u, op, after, -, -, hbreaks⟩ := drain_of_splits hd h
  · rw [hsends.waiting, List.mem_append] at ht
    rcases ht with hrun | hwait
    · have hslot : t ∈ run.map Prod.fst := List.mem_map_of_mem hrun
      rw [h.slots, List.mem_range'_1] at hslot
      left
      rw [hsends.nextSend]
      exact hslot.2
    · exact Or.inr (Or.inl hwait)
  · right
    right
    rw [hbreaks.endpoint]
    exact ⟨rfl, rfl⟩

/-- The slot of a refused receive is filled with nothing to send, and then what is next is sent. -/
theorem Skips.exists_parked (h : Skips op e l l') (ha : l.endpoint.aborted = false)
    (hr : l.endpoint.resequencer.nextSend ≤ l.endpoint.resequencer.nextReceive)
    (hs : ∀ u ∈ l.endpoint.resequencer.slots,
      l.endpoint.resequencer.nextSend ≤ u ∧ u < l.endpoint.resequencer.nextReceive) :
    ∃ l₂, PutsInFlight [] [op] [] l l₂ ∧ l' = l₂.drain.2 ∧
      l₂.endpoint = { l.endpoint with resequencer := l₂.endpoint.resequencer } ∧
      (l.endpoint.resequencer.nextReceive, .skip) ∈ l₂.endpoint.resequencer.waiting.toList ∧
      ∀ u ∈ l₂.endpoint.resequencer.slots, l₂.endpoint.resequencer.nextSend ≤ u := by
  obtain ⟨socket, pool, hp, rfl⟩ := h.filled
  have hacc : l.endpoint.assign.resequencer.Accepts l.endpoint.resequencer.nextReceive :=
    ⟨hr, Nat.lt_succ_self _, fun hm => Nat.lt_irrefl _ (hs _ hm).2⟩
  obtain ⟨r, hi⟩ : ∃ r, l.endpoint.assign.resequencer.insert l.endpoint.resequencer.nextReceive
      .skip = .ok r := ⟨_, Resequencer.insert_eq_ok_iff.2 ⟨hacc, rfl⟩⟩
  refine ⟨⟨{ l.endpoint with resequencer := r }, socket, pool⟩, ?_, ?_, rfl, ?_, ?_⟩
  · refine ⟨?_, ?_, ?_, rfl⟩
    · rw [hp.lane, List.append_nil]
    · simp [Socket.refusedReceives, hp.history, SocketEvent.refusedReceive?]
    · rw [hp.lane, List.append_nil]
  · unfold fill
    rw [park_of_insert (l := ⟨l.endpoint.assign, socket, pool⟩) ha hi]
    rfl
  · obtain rfl := (Resequencer.insert_eq_ok_iff.1 hi).2
    exact Ascending.mem_insert.2 (Or.inl rfl)
  · obtain rfl := (Resequencer.insert_eq_ok_iff.1 hi).2
    intro u hu
    rcases (Resequencer.mem_slots_of_insert hi).1 hu with rfl | hu
    · exact hr
    · exact (hs u hu).1

/-! ## Retries -/

/-- From `l` to `l'` the endpoint retried the receives that were owed to it, and the result was
settled. -/
structure Retried (receives refused sends : List Operation) (l l' : Link) : Prop where
  putsInFlight : PutsInFlight receives refused sends l l'
  slots : receives.map Operation.slot =
    (List.range' l.endpoint.resequencer.nextReceive receives.length).map some
  /-- A receive is in flight, or it is still owed, unless the endpoint was closed. -/
  owed : l'.endpoint.closing = true ∧ l'.endpoint.deferred = 0 ∨
    l'.endpoint.closing = false ∧ receives.length + l'.endpoint.deferred = l.endpoint.deferred
  /-- At most one receive was refused.  Its slot is the next one and holds nothing back, and the
  sends are those of the drain after it was filled. -/
  interrupted : refused = [] ∧ sends = [] ∨
    ∃ op e u l₂, refused = [op] ∧
      op.slot = some (l.endpoint.resequencer.nextReceive + receives.length) ∧
      PutsInFlight receives [op] [] l l₂ ∧
      (l.endpoint.resequencer.nextReceive + receives.length, .skip) ∈
        l₂.endpoint.resequencer.waiting.toList ∧
      l.resume = (.error (.refused e), l₂.drain.2.defer u) ∧ sends.length = l₂.drain.1 ∧
      l'.Passed (l.endpoint.resequencer.nextReceive + receives.length)

/-- Settling a refused receive either makes up for it or closes the endpoint. -/
theorem settle_refused (hd : l.endpoint.deferred = 0) (hc : l.endpoint.closing = false)
    (hs : Spares l l') (e : IoError) (u : Nat) :
    let l'' := (settle (.error (.refused e), l'.defer u)).2
    PutsInFlight [] [] [] l' l'' ∧
      (l''.endpoint.closing = true ∧ l''.endpoint.deferred = 0 ∨
        l''.endpoint.closing = false ∧ l''.endpoint.deferred = 1 + u) ∧
      (l'.Passed t → l''.Passed t) := by
  intro l''
  have hdefer : PutsInFlight [] [] [] l' (l'.defer u) := .of_eq rfl rfl
  by_cases hk : l'.endpoint.kind = .datagram
  · have hopen : l'.endpoint.closing = false := (hs.datagram (hs.kind ▸ hk)).trans hc
    have hl : l'' = (l'.defer u).defer 1 := by
      rw [← defer_endpoint]
      exact congrArg Prod.snd (if_pos hk)
    rw [hl]
    refine ⟨hdefer.trans (.of_eq rfl rfl), Or.inr ?_, id⟩
    rw [endpoint_defer (l := l'.defer u) hopen, endpoint_defer hopen, hs.deferred hopen, hd]
    refine ⟨hopen, ?_⟩
    show 0 + u + 1 = 1 + u
    omega
  · have hl : l'' = (l'.defer u).close true := congrArg Prod.snd (if_neg hk)
    rw [hl]
    refine ⟨hdefer.trans (putsInFlight_close _ true), Or.inl ?_, fun _ => passed_close _ t⟩
    rw [endpoint_close]
    exact ⟨rfl, rfl⟩

/-- A retry that the socket interrupts. -/
theorem retried_of_refused {u : Nat} (hc : l.endpoint.closing = false)
    (ha : l.endpoint.aborted = false) (hd : l.endpoint.destroyed = false)
    (hr : l.endpoint.resequencer.nextSend ≤ l.endpoint.resequencer.nextReceive)
    (hs : ∀ t ∈ l.endpoint.resequencer.slots,
      l.endpoint.resequencer.nextSend ≤ t ∧ t < l.endpoint.resequencer.nextReceive)
    (hn : l.endpoint.deferred = receives.length + 1 + u) (hg : Gains receives l.forgoDeferred l₁)
    (hskips : Skips op e l₁ l') (hresume : l.resume = (.error (.refused e), l'.defer u)) :
    ∃ sends, Retried receives [op] sends l (settle l.resume).2 := by
  have hnext : l₁.endpoint.resequencer = { l.endpoint.resequencer with
      nextReceive := l.endpoint.resequencer.nextReceive + receives.length } := by
    rw [hg.endpoint]
    rfl
  have hslot := hskips.slot
  obtain ⟨l₂, hrefused, rfl, hsame, hwait, hlate⟩ := hskips.exists_parked
    (by rw [hg.endpoint]; exact ha)
    (by rw [hnext]; exact Nat.le_add_right_of_le hr)
    (by rw [hnext]; exact fun t ht => ⟨(hs t ht).1, Nat.lt_add_right _ (hs t ht).2⟩)
  rw [hnext] at hslot hwait
  have hopen : l₂.endpoint.closing = false ∧ l₂.endpoint.deferred = 0 ∧
      l₂.endpoint.destroyed = false := by
    rw [hsame, hg.endpoint]
    exact ⟨hc, rfl, hd⟩
  have hbefore : PutsInFlight receives [op] [] l l₂ := by
    have hforgo : PutsInFlight [] [] [] l l.forgoDeferred := .of_eq rfl rfl
    simpa using (hforgo.trans hg.putsInFlight).trans hrefused
  obtain ⟨sends, hcount, hsends⟩ := putsInFlight_drainUpTo
    l₂.endpoint.resequencer.waiting.toList.length l₂
  obtain ⟨hnothing, howed, hpassed⟩ := settle_refused hopen.2.1 hopen.1 (spares_drain l₂) e u
    (t := l.endpoint.resequencer.nextReceive + receives.length)
  rw [hresume]
  refine ⟨sends, ?_, hg.slots, howed.imp_right fun h => ⟨h.1, ?_⟩,
    Or.inr ⟨op, e, u, l₂, rfl, hslot, hbefore, hwait, hresume, hcount, ?_⟩⟩
  · simpa using (hbefore.trans hsends).after hnothing
  · rw [hn, Nat.add_assoc]
    exact congrArg (receives.length + ·) h.2
  · exact hpassed (passed_drain hopen.2.2 hlate hwait)

/-- A retry loses no receive and posts none twice, wherever it is interrupted.  In the end the
endpoint is closed, and nothing is owed to it any more, or every receive that was owed to it is in
flight or still owed.  The receives in flight have slots in the order of posting, and a receive that
was refused holds nothing back. -/
theorem retry_loses_no_receive (hf : l.endpoint.Flags) (hc : l.endpoint.closing = false)
    (hr : l.endpoint.resequencer.nextSend ≤ l.endpoint.resequencer.nextReceive)
    (hs : ∀ t ∈ l.endpoint.resequencer.slots,
      l.endpoint.resequencer.nextSend ≤ t ∧ t < l.endpoint.resequencer.nextReceive) :
    ∃ receives refused sends, Retried receives refused sends l (settle l.resume).2 := by
  obtain ⟨ha, hd⟩ := hf.of_open hc
  have hforgo : PutsInFlight [] [] [] l l.forgoDeferred := .of_eq rfl rfl
  have ht := tried_postMany (l := l.forgoDeferred) (not_refuses hc hd) l.endpoint.deferred
  obtain ⟨l', hl, hresume⟩ | ⟨i, l', hl, hresume⟩ := resume_cases l
  · rw [hl] at ht
    cases ht with
    | @all receives l' hn hg =>
      have hopen : l'.endpoint.closing = false ∧ l'.endpoint.deferred = 0 := by
        rw [hg.endpoint]
        exact ⟨hc, rfl⟩
      rw [hresume]
      refine ⟨receives, [], [], hforgo.trans hg.putsInFlight, hg.slots, Or.inr ⟨hopen.1, ?_⟩,
        Or.inl ⟨rfl, rfl⟩⟩
      show receives.length + l'.endpoint.deferred = _
      rw [hopen.2, hn, Nat.add_zero]
  · rw [hl] at ht
    cases ht with
    | @cut receives u x l' hn hg =>
      have hopen : l'.endpoint.closing = false ∧ l'.endpoint.deferred = 0 := by
        rw [hg.endpoint]
        exact ⟨hc, rfl⟩
      rw [hresume]
      refine ⟨receives, [], [], (hforgo.trans hg.putsInFlight).after (.of_eq rfl rfl), hg.slots,
        Or.inr ⟨hopen.1, ?_⟩, Or.inl ⟨rfl, rfl⟩⟩
      show receives.length + ((l'.defer 1).defer u).endpoint.deferred = _
      rw [endpoint_defer (l := l'.defer 1) hopen.1, endpoint_defer hopen.1, hopen.2, hn]
      dsimp only
      omega
    | @refused receives op e u l₁ l' hn hg hskips =>
      exact ⟨receives, [op], retried_of_refused hc ha hd hr hs hn hg hskips hresume⟩

/-- A datagram endpoint to which three receives are owed, with an echo that can be sent.  Its socket
takes one receive and refuses the next one. -/
def overdue : Link where
  endpoint :=
    { id := 0, kind := .datagram, family := .v4, socket := 0, deferred := 3
      resequencer :=
        { nextReceive := 4
          nextSend := 3
          waiting := Ascending.insert .empty (3, .data
            { kind := .send, endpoint := some 0, buffer := ⟨[104, 105], 2⟩, capacity := 2,
              slot := some 3 }) } }
  socket := { receives := { refusals := .after 1 1 ⟨.connectionRefused, "port unreachable"⟩ } }
  pool := { bufferSize := 2, cacheSize := 0, outstanding := 1 }

/-- One receive is in flight, and the one that was refused is owed again. -/
theorem retry_loses_no_receive_overdue : ∃ receives refused sends,
    Retried receives refused sends overdue (settle overdue.resume).2 ∧ receives.length = 1 := by
  obtain ⟨receives, refused, sends, h⟩ := retry_loses_no_receive (l := overdue)
    ⟨nofun, nofun, nofun, nofun, nofun⟩ rfl (by decide) (by decide)
  have hdeferred : (settle overdue.resume).2.endpoint.deferred = 2 := by decide
  obtain ⟨-, hzero⟩ | ⟨-, howed⟩ := h.owed
  · rw [hdeferred] at hzero
    cases hzero
  · rw [hdeferred] at howed
    exact ⟨receives, refused, sends, h, Nat.add_right_cancel howed⟩

end Link

end OrderedEcho
