import OrderedEcho.Proofs.Link.Answers
import OrderedEcho.Proofs.Link.FirstPosts

/-!
# The bytes of a link

The backlog of a link is what was received and has not been sent yet: the bytes of the sends in
flight, and those that wait to be sent.  `Carries n m` says that `n` bytes came into it and `m` went
out, and that the endpoint did not give it up.

As long as its socket refuses nothing, an endpoint loses no bytes: they go from the completion into
the resequencer, and from there to the socket (`Ships.carries`).  Receives and accepts that are
started have no bytes yet (`Gains.carries`, `carries_postAccept`).
-/

namespace OrderedEcho

/-- The number of bytes in the payloads of the operations. -/
def payloadBytes (ops : List Operation) : Nat := (ops.flatMap Operation.payload).length

theorem payloadBytes_append (ops ops' : List Operation) :
    payloadBytes (ops ++ ops') = payloadBytes ops + payloadBytes ops' := by
  unfold payloadBytes
  rw [List.flatMap_append, List.length_append]

theorem payloadBytes_singleton (op : Operation) : payloadBytes [op] = op.payload.length := by
  unfold payloadBytes
  rw [List.flatMap_singleton]

theorem payloadBytes_perm {ops ops' : List Operation} (h : ops.Perm ops') :
    payloadBytes ops = payloadBytes ops' := (h.flatMap_right _).length_eq

namespace Socket

theorem TookAll.not_refusedSince {k k' : Socket} (h : k'.TookAll) : ¬ k.RefusedSince k' := by
  rintro ⟨kind, op, e, hm⟩
  exact h kind op e (List.mem_of_mem_drop hm)

end Socket

namespace Link

variable {L : Ledger} {l l' l'' : Link} {es out : List (Slot × Entry Operation)} {t : Slot}
  {kind : OperationKind} {op : Operation} {ops : List Operation} {k' : Socket} {p : Pool}
  {n m n' m' : Nat}

/-- The bytes that were received and have not been sent yet. -/
def backlog (l : Link) : Nat :=
  payloadBytes (l.socket.lane .send).inFlight + payloadBytes l.endpoint.resequencer.pending

/-- Of the backlog, `n` bytes are new and `m` bytes have been sent. -/
structure Carries (n m : Nat) (l l' : Link) : Prop where
  aborted : l'.endpoint.aborted = l.endpoint.aborted
  backlog : l'.backlog + m = l.backlog + n

theorem Carries.trans (h : Carries n m l l') (h' : Carries n' m' l' l'') :
    Carries (n + n') (m + m') l l'' := by
  have hb := h.backlog
  have hb' := h'.backlog
  exact ⟨h'.aborted.trans h.aborted, by omega⟩

/-- Nothing was carried before. -/
theorem Carries.after (h : Carries n m l' l'') (h₀ : Carries 0 0 l l') : Carries n m l l'' :=
  ⟨h.aborted.trans h₀.aborted, h.backlog.trans (congrArg (· + n) h₀.backlog)⟩

theorem carries_of_eq (ha : l'.endpoint.aborted = l.endpoint.aborted)
    (hs : (l'.socket.lane .send).inFlight = (l.socket.lane .send).inFlight)
    (hp : l'.endpoint.resequencer.pending = l.endpoint.resequencer.pending) :
    Carries 0 0 l l' := by
  refine ⟨ha, ?_⟩
  unfold Link.backlog
  rw [hs, hp]

/-! ## What happens to bytes -/

/-- A send that comes back has been sent. -/
theorem carries_gaveBack (h : l.socket.GaveBack kind op k') :
    Carries 0 (if kind = .send then op.payload.length else 0) l ⟨l.endpoint.finish, k', p⟩ := by
  split
  · next hk =>
    subst hk
    have hlane := payloadBytes_perm h.lane_self
    rw [← List.singleton_append, payloadBytes_append, payloadBytes_singleton] at hlane
    refine ⟨rfl, ?_⟩
    unfold backlog
    rw [hlane]
    show payloadBytes (k'.lane .send).inFlight + payloadBytes l.endpoint.resequencer.pending +
      op.payload.length = _
    omega
  · next hk => exact carries_of_eq rfl (h.lane_of_ne .send (Ne.symm hk)) rfl

/-- What the resequencer takes waits there or is sent. -/
theorem Ships.carries (h : Ships es out l l') : Carries (payloadBytes (contents es)) 0 l l' := by
  refine ⟨by rw [h.endpoint], ?_⟩
  have hperm : (contents (out ++ l'.endpoint.resequencer.waiting.toList)).Perm
      (contents (l.endpoint.resequencer.waiting.toList ++ es)) := h.resequences.perm.filterMap _
  have hbytes := payloadBytes_perm hperm
  rw [contents_append, contents_append, payloadBytes_append, payloadBytes_append] at hbytes
  unfold backlog
  rw [h.socket.lane_self, payloadBytes_append]
  show _ + payloadBytes (contents l'.endpoint.resequencer.waiting.toList) + 0 =
    _ + payloadBytes (contents l.endpoint.resequencer.waiting.toList) + _
  omega

theorem Gains.carries (h : Gains ops l l') : Carries 0 0 l l' := by
  refine carries_of_eq ?_ (h.socket.lane_of_ne .send (by decide)) ?_
  · rw [h.endpoint]
    rfl
  · rw [h.endpoint]
    rfl

theorem carries_catchesUp (h : l.endpoint.CatchesUp l.socket ops l'.endpoint l'.socket) :
    Carries 0 0 l l' := by
  refine carries_of_eq ?_ (h.socket.lane_of_ne .send (by decide)) ?_
  · rw [h.endpoint]
    rfl
  · rw [h.endpoint]
    rfl

theorem carries_postAccept (ht : (l.postAccept op).2.socket.TookAll) :
    Carries 0 0 l (l.postAccept op).2 := by
  unfold postAccept at ht ⊢
  split at ht
  · next hr =>
    rw [if_pos hr]
    exact carries_of_eq rfl rfl rfl
  · next hr =>
    rw [if_neg hr]
    dsimp only at ht ⊢
    split at ht
    · next socket hp =>
      exact carries_of_eq rfl ((Socket.took_of_post hp).lane_of_ne .send (by decide)) rfl
    · next e socket hp => exact absurd ht (Socket.refused_of_post hp).not_tookAll

/-- First operations of an endpoint have no bytes. -/
theorem Stocked.backlog (h : Stocked kind ops l l') (hk : kind ≠ .send) :
    l'.backlog = l.backlog := by
  unfold Link.backlog Resequencer.pending
  rw [h.inFlight, if_neg (Ne.symm hk), List.append_nil, h.waiting]

/-! ## Completions -/

theorem carries_fill (hs : Accounted l.endpoint l.socket [t] false)
    (ha : l.endpoint.aborted = false) (hd : l.endpoint.destroyed = false) (x : Entry Operation)
    (ht : (l.fill t x).socket.TookAll) : Carries (payloadBytes x.data?.toList) 0 l (l.fill t x) := by
  obtain ⟨out, ho⟩ := (ships_fill hs ha hd x).resolve_right ht.not_refusedSince
  have hc := ho.carries
  rw [contents_cons, show contents [] = [] from rfl, List.append_nil] at hc
  exact hc

/-- The end of a stream takes no bytes with it. -/
theorem carries_endOfStream (hs : Accounted l.endpoint l.socket [t] false)
    (ha : l.endpoint.aborted = false) (hd : l.endpoint.destroyed = false)
    (ht : (l.endOfStream op t).socket.TookAll) : Carries 0 0 l (l.endOfStream op t) := by
  have hclosed : Carries 0 0 l ((l.close false).release op) := carries_of_eq rfl rfl rfl
  have haccounted : Accounted ((l.close false).release op).endpoint
      ((l.close false).release op).socket [t] false := hs.congr rfl rfl rfl rfl
  exact hclosed.trans (carries_fill haccounted ha hd .skip ht)

/-- What a receive read is kept, whether it is followed by another receive or not. -/
theorem carries_echo (hs : Accounted l.endpoint l.socket [t] false)
    (ha : l.endpoint.aborted = false) (hd : l.endpoint.destroyed = false)
    (hl : l.pool.limit = none) (hn : n ≤ op.payload.length)
    (ht : (l.echo op t n).2.socket.TookAll) : Carries n 0 l (l.echo op t n).2 := by
  have hlen : payloadBytes (Entry.data (op.truncate n).becomeSend).data?.toList = n := by
    refine (payloadBytes_singleton _).trans ?_
    show ((op.truncate n).payload).length = n
    rw [Operation.payload_truncate, List.length_take, Nat.min_eq_left hn]
  have hfill := carries_fill hs ha hd (.data (op.truncate n).becomeSend)
  have hships := ships_fill hs ha hd (.data (op.truncate n).becomeSend)
  have hgrows := (spares_fill l t (.data (op.truncate n).becomeSend)).toGrows
  rw [hlen] at hfill
  unfold echo at ht ⊢
  dsimp only at ht ⊢
  generalize l.fill t (.data (op.truncate n).becomeSend) = l₁ at hfill hships hgrows ht ⊢
  split at ht
  · next hc =>
    rw [if_pos hc]
    exact hfill ht
  · next hc =>
    rw [if_neg hc]
    have hd₁ := hgrows.destroyed.trans hd
    have hpost := (posted_postNewReceive hd₁).grows.trans (grows_settle l₁.postNewReceive.1 _)
    have ht₁ := ht.earlier hpost.history
    obtain ⟨out, ho⟩ := hships.resolve_right ht₁.not_refusedSince
    obtain ⟨-, op', hg⟩ := gains_settle (gains_postNewReceive_of_limit
      (not_refuses (Bool.eq_false_iff.2 hc) hd₁) (ho.limit.trans hl)) ht.not_refusedSince
    exact (hfill ht₁).trans hg.carries

theorem carries_received (hs : Accounted l.endpoint l.socket [t] false)
    (ha : l.endpoint.aborted = false) (hd : l.endpoint.destroyed = false)
    (hl : l.pool.limit = none) (hn : n ≤ op.payload.length)
    (ht : (l.received op t (.ok n)).2.socket.TookAll) :
    Carries n 0 l (l.received op t (.ok n)).2 := by
  unfold received at ht ⊢
  split at ht
  · next h =>
    obtain rfl := Except.ok.inj h
    exact carries_endOfStream hs ha hd ht
  · next h hx =>
    obtain rfl := Except.ok.inj h
    exact carries_echo hs ha hd hl hn ht
  · next h => cases h
  · next h _ => cases h

/-- A send that succeeded is followed by others, which come from what waits. -/
theorem carries_sent (hs : Sound L l.endpoint l.socket [] false)
    (hd : l.endpoint.destroyed = false) (ht : (l.sent op (.ok n)).2.socket.TookAll) :
    Carries 0 0 l (l.sent op (.ok n)).2 := by
  have hrelease : Carries 0 0 l (l.release op) := carries_of_eq rfl rfl rfl
  have hships := ships_drainUpTo (l := l.release op) hd _ (Nat.le_refl _)
    fun u hu => (hs.accounted.mem_slots hu).2.1
  have hgrows := (spares_drainUpTo (l.release op).endpoint.resequencer.waiting.toList.length
    (l.release op)).toGrows
  unfold sent drain at ht ⊢
  dsimp only at ht ⊢
  generalize ((l.release op).drainUpTo _).2 = l₁ at hships hgrows ht ⊢
  have hd₁ := hgrows.destroyed.trans hd
  split at ht
  · next h0 =>
    rw [if_pos h0]
    obtain ⟨out, ho⟩ := hships.resolve_right ht.not_refusedSince
    exact hrelease.trans ho.carries
  · next h0 =>
    rw [if_neg h0]
    have hresume := (provides_settle_resume hd₁).grows
    obtain ⟨out, ho⟩ := hships.resolve_right (ht.earlier hresume.history).not_refusedSince
    have hopen : l₁.endpoint.closing = false := Bool.eq_false_iff.2 fun hc => h0 (by
      rw [ho.endpoint] at hc ⊢
      exact hs.lifecycle.deferred_eq_zero hc)
    obtain ⟨ops, hcatch, -⟩ := catchesUp_settle_resume hopen hd₁ ht.not_refusedSince
    exact (hrelease.trans ho.carries).trans (carries_catchesUp hcatch)

/-! ## Accepted streams -/

/-- Without a limit, the pool has an operation for the data of an accept. -/
theorem acceptEntry_of_limit (hl : l.pool.limit = none) (data : List UInt8) :
    ∃ op p, l.acceptEntry data = (.data op, { l with pool := p }) ∧ op.payload = data ∧
      p.limit = none := by
  unfold acceptEntry
  split
  · next op p ha => exact ⟨_, p, rfl, rfl, (Pool.limit_of_allocate ha).trans hl⟩
  · next e he =>
    exact absurd hl (limit_ne_none_of_exhausted (Pool.allocate_eq_error_iff.1 he))

/-- Without a limit, all receives of a batch are started unless the socket refuses one. -/
theorem carries_postMany (hr : ¬ l.Refuses) (hl : l.pool.limit = none) (n : Nat)
    (ht : (postMany postNewReceive n l).2.socket.TookAll) :
    (postMany postNewReceive n l).1 = none ∧ Carries 0 0 l (postMany postNewReceive n l).2 := by
  have htried := tried_postMany hr n
  generalize postMany postNewReceive n l = x at ht htried
  cases htried with
  | all _ hg => exact ⟨rfl, hg.carries⟩
  | cut _ _ hlimit => exact absurd hl hlimit
  | refused _ hg hs =>
    have href := hs.refusedSince.mono hg.socket.history_prefix List.prefix_rfl
    exact absurd href ht.not_refusedSince

/-- A stream begins with the bytes that came with the accept. -/
theorem carries_welcome (hs : Accounted l.endpoint l.socket [0] false)
    (ha : l.endpoint.aborted = false) (hc : l.endpoint.closing = false)
    (hd : l.endpoint.destroyed = false) (hl : l.pool.limit = none) (data : List UInt8)
    (fanOut : Nat) (ht : (welcome data fanOut l).2.socket.TookAll) :
    Carries data.length 0 l (welcome data fanOut l).2 := by
  obtain ⟨op, p, hentry, hop, hp⟩ := acceptEntry_of_limit hl data
  have hfill := carries_fill (l := { l with pool := p }) hs ha hd (.data op)
  have hships := ships_fill (l := { l with pool := p }) hs ha hd (.data op)
  have hgrows := (spares_fill { l with pool := p } 0 (.data op)).toGrows
  rw [show payloadBytes (Entry.data op).data?.toList = data.length from
    hop ▸ payloadBytes_singleton op] at hfill
  unfold welcome at ht ⊢
  rw [hentry] at ht ⊢
  dsimp only at ht ⊢
  generalize fill { l with pool := p } 0 (.data op) = l₁ at hfill hships hgrows ht ⊢
  have hd₁ := hgrows.destroyed.trans hd
  have hposts := (batch_postMany hd₁ fanOut).grows.history
  -- the batch is over when the socket is looked at for the last time
  have hbatch (h₂ : (postMany postNewReceive fanOut l₁).2.socket.TookAll) :
      (postMany postNewReceive fanOut l₁).1 = none ∧
        Carries data.length 0 l (postMany postNewReceive fanOut l₁).2 := by
    have h₁ := h₂.earlier hposts
    obtain ⟨out, ho⟩ := hships.resolve_right h₁.not_refusedSince
    have hc₁ : l₁.endpoint.closing = false := by
      rw [ho.endpoint]
      exact hc
    obtain ⟨hnone, hpost⟩ := carries_postMany (not_refuses hc₁ hd₁) (ho.limit.trans hp) fanOut h₂
    exact ⟨hnone, ((hfill h₁).trans hpost).after (carries_of_eq rfl rfl rfl)⟩
  generalize postMany postNewReceive fanOut l₁ = x at hbatch ht ⊢
  obtain ⟨_ | i, l₂⟩ := x
  · exact (hbatch ht).2
  · cases (hbatch (ht.earlier (grows_settle (.error i.error) l₂).history)).1

end Link

end OrderedEcho
