import OrderedEcho.Proofs.Link.Gains
import OrderedEcho.Proofs.Socket.Replies

/-!
# The first operations of an endpoint

A new endpoint posts a number of operations of one kind, until one of them cannot be posted.  How
far it gets is known beforehand: as far as the pool and the socket admit it (`Link.Admits`).
`Stocked` says that it got some of them into flight, and `Stocking` what trying to get `n` of them
there comes to (`stocking_postMany`).

Whatever else an endpoint could do when a post fails, it does not send, because nothing waits there
(`socket_fill_skip`).
-/

namespace OrderedEcho

theorem Pool.affords_one_iff {p : Pool} : p.Affords 1 ↔ p.exhausted? = none := by
  unfold Affords exhausted?
  cases p.limit with
  | none => simp
  | some limit =>
    simp only [Option.some.injEq, forall_eq']
    split
    · simp only [reduceCtorEq, iff_false]
      omega
    · simp only [iff_true]
      omega

namespace Link

variable {l l' l'' l₁ : Link} {kind : OperationKind} {ops ops' : List Operation} {op : Operation}
  {n : Nat} {post : Link → PostResult × Link}

/-- The pool has `n` operations to hand out, and the socket is going to take the next `n` posts of
that kind. -/
def Admits (l : Link) (kind : OperationKind) (n : Nat) : Prop :=
  l.pool.Affords n ∧ ∀ i < n, l.socket.answer kind i = none

theorem admits_zero (l : Link) (kind : OperationKind) : l.Admits kind 0 :=
  ⟨l.pool.affords_zero, nofun⟩

/-- The new operations `ops` are in flight, and nothing else happened. -/
structure Stocked (kind : OperationKind) (ops : List Operation) (l l' : Link) : Prop where
  admits : l.Admits kind ops.length
  socket : l.socket.Asked kind ops l'.socket
  outstanding : l'.pool.outstanding = l.pool.outstanding + ops.length
  limit : l'.pool.limit = l.pool.limit
  closing : l'.endpoint.closing = l.endpoint.closing
  destroyed : l'.endpoint.destroyed = l.endpoint.destroyed
  waiting : l'.endpoint.resequencer.waiting = l.endpoint.resequencer.waiting
  slots : kind = .receive → ops.map Operation.slot =
    (List.range' l.endpoint.resequencer.nextReceive ops.length).map some
  nextReceive : kind = .receive → l'.endpoint.resequencer.nextReceive =
    l.endpoint.resequencer.nextReceive + ops.length

theorem Stocked.refl (l : Link) (kind : OperationKind) : Stocked kind [] l l :=
  ⟨admits_zero l kind, .refl _ _, rfl, rfl, rfl, rfl, rfl, fun _ => rfl, fun _ => rfl⟩

/-- The operations that came first count against the pool and use up answers of the socket. -/
theorem Stocked.admits_iff (h : Stocked kind ops l l') (n : Nat) :
    l'.Admits kind n ↔ l.Admits kind (ops.length + n) := by
  have hpool : l'.pool.Affords n ↔ l.pool.Affords (ops.length + n) := by
    unfold Pool.Affords
    rw [h.limit, h.outstanding]
    refine forall₂_congr fun limit hl => ?_
    have hroom := h.admits.1 limit hl
    omega
  unfold Admits
  rw [hpool]
  refine and_congr_right fun _ => ⟨fun ha i hi => ?_, fun ha i hi => ?_⟩
  · rcases Nat.lt_or_ge i ops.length with hlt | hge
    · exact h.admits.2 i hlt
    · obtain ⟨j, rfl⟩ := Nat.exists_eq_add_of_le hge
      rw [← h.socket.answer_self]
      exact ha j (by omega)
  · rw [h.socket.answer_self]
    exact ha _ (by omega)

theorem Stocked.trans (h : Stocked kind ops l l') (h' : Stocked kind ops' l' l'') :
    Stocked kind (ops ++ ops') l l'' := by
  refine ⟨?_, h.socket.trans h'.socket, ?_, h'.limit.trans h.limit, h'.closing.trans h.closing,
    h'.destroyed.trans h.destroyed, h'.waiting.trans h.waiting, fun hk => ?_, fun hk => ?_⟩
  · rw [List.length_append]
    exact (h.admits_iff _).1 h'.admits
  · rw [h'.outstanding, h.outstanding, List.length_append, Nat.add_assoc]
  · rw [List.map_append, h.slots hk, h'.slots hk, h.nextReceive hk, List.length_append,
      ← List.map_append, List.range'_append_1]
  · rw [h'.nextReceive hk, h.nextReceive hk, List.length_append, Nat.add_assoc]

theorem Stocked.inFlight (h : Stocked kind ops l l') (k : OperationKind) :
    (l'.socket.lane k).inFlight =
      (l.socket.lane k).inFlight ++ if k = kind then ops else [] := by
  split
  · next hk =>
    rw [hk, h.socket.lane_self, Socket.accepted_replies h.admits.2]
  · next hk => rw [h.socket.lane_of_ne k hk, List.append_nil]

/-! ## One post -/

/-- What posting a new operation comes to: it gets into flight if and only if it is admitted. -/
inductive Stocks (kind : OperationKind) (l : Link) : PostResult × Link → Prop
  | started {op : Operation} {l' : Link} (h : Stocked kind [op] l l') : Stocks kind l (.ok (), l')
  | failed {e : PostError} {l' : Link} (hx : ¬ l.Admits kind 1)
      (hl : ∀ k, (l'.socket.lane k).inFlight = (l.socket.lane k).inFlight)
      (hr : l.pool.limit ≠ none ∨ ¬ l'.socket.TookAll) : Stocks kind l (.error e, l')

theorem not_admits_of_refused {e : IoError} {k' : Socket}
    (h : l.socket.post kind op = (some e, k')) : ¬ l.Admits kind 1 := by
  intro ha
  have hfst := Socket.fst_post l.socket kind op
  rw [h, ha.2 0 Nat.one_pos] at hfst
  cases hfst

theorem not_admits_of_exhausted {e : Exhausted} {k : OperationKind}
    (h : l.pool.allocate k n = .error e) : ¬ l.Admits kind 1 := by
  intro ha
  have hx := Pool.affords_one_iff.1 ha.1
  rw [Pool.allocate_eq_error_iff.1 h] at hx
  cases hx

theorem admits_of_took {k : OperationKind} {pool : Pool} {k' : Socket} {op' : Operation}
    (ha : l.pool.allocate k n = .ok (op', pool)) (h : l.socket.post kind op = (none, k')) :
    l.Admits kind 1 := by
  refine ⟨Pool.affords_one_iff.2 (Pool.exhausted?_of_allocate ha), fun i hi => ?_⟩
  obtain rfl : i = 0 := Nat.lt_one_iff.1 hi
  have hfst := Socket.fst_post l.socket kind op
  rw [h] at hfst
  exact hfst.symm

theorem stocks_postNewAccept (hr : ¬ l.Refuses) : Stocks .accept l l.postNewAccept := by
  unfold postNewAccept
  split
  · next op pool ha =>
    unfold postAccept
    rw [if_neg (show ¬ Refuses { l with pool } from hr)]
    dsimp only
    have hask := Socket.asked_post l.socket .accept (op.asAccept l.endpoint.id)
    split
    · next socket hp =>
      rw [hp] at hask
      exact .started ⟨admits_of_took ha hp, hask, Pool.outstanding_of_allocate ha,
        Pool.limit_of_allocate ha, rfl, rfl, rfl, nofun, nofun⟩
    · next e socket hp =>
      have hp' := Socket.refused_of_post hp
      exact .failed (not_admits_of_refused hp) hp'.lane (Or.inr hp'.not_tookAll)
  · next e he =>
    exact .failed (not_admits_of_exhausted he) (fun _ => rfl)
      (Or.inl (limit_ne_none_of_exhausted (Pool.allocate_eq_error_iff.1 he)))

theorem stocks_postNewReceive (hr : ¬ l.Refuses) (hw : l.endpoint.resequencer.pending = []) :
    Stocks .receive l l.postNewReceive := by
  unfold postNewReceive
  rw [if_neg fun hc => hr (Or.inl hc)]
  split
  · next op pool ha =>
    unfold postReceive
    rw [if_neg (show ¬ Refuses { l with pool } from hr)]
    dsimp only
    have hask := Socket.asked_post l.socket .receive
      ((pool.equip op).1.asReceive l.endpoint.id l.endpoint.resequencer.assign.1)
    split
    · next socket hp =>
      rw [hp] at hask
      refine .started ⟨admits_of_took ha hp, hask, ?_, ?_, rfl, rfl, rfl, fun _ => rfl,
        fun _ => rfl⟩
      · exact (Pool.outstanding_equip pool op).trans (Pool.outstanding_of_allocate ha)
      · exact (Pool.limit_equip pool op).trans (Pool.limit_of_allocate ha)
    · next e socket hp =>
      have hp' := Socket.refused_of_post hp
      refine .failed (not_admits_of_refused hp) (fun k => ?_) (Or.inr ?_)
      · rw [socket_fill_skip]
        · exact hp'.lane k
        · exact hw
      · rw [socket_fill_skip]
        · exact hp'.not_tookAll
        · exact hw
  · next e he =>
    exact .failed (not_admits_of_exhausted he) (fun _ => rfl)
      (Or.inl (limit_ne_none_of_exhausted (Pool.allocate_eq_error_iff.1 he)))

/-! ## Batches -/

/-- What trying to get `n` operations into flight comes to. -/
inductive Stocking (kind : OperationKind) (n : Nat) (l : Link) : Option Interruption × Link → Prop
  | all {ops : List Operation} {l' : Link} (hn : ops.length = n) (h : Stocked kind ops l l') :
      Stocking kind n l (none, l')
  | cut {ops : List Operation} {l₁ l' : Link} {i : Interruption} (hn : ops.length < n)
      (h : Stocked kind ops l l₁) (hx : ¬ l₁.Admits kind 1)
      (hl : ∀ k, (l'.socket.lane k).inFlight = (l₁.socket.lane k).inFlight)
      (hr : l.pool.limit ≠ none ∨ ¬ l'.socket.TookAll) : Stocking kind n l (some i, l')

/-- One more operation got into flight before. -/
theorem Stocking.cons {x : Option Interruption × Link} (h : Stocked kind [op] l l')
    (hx : Stocking kind n l' x) : Stocking kind (n + 1) l x := by
  cases hx with
  | all hn h' =>
    refine .all ?_ (h.trans h')
    rw [List.length_append, hn, List.length_singleton, Nat.add_comm]
  | cut hn h' hx hl hr =>
    refine .cut ?_ (h.trans h') hx hl (h.limit ▸ hr)
    rw [List.length_append, List.length_singleton]
    omega

theorem stocking_postMany (hpost : ∀ l : Link, ¬ l.Refuses →
      l.endpoint.resequencer.pending = [] → Stocks kind l (post l))
    (hr : ¬ l.Refuses) (hw : l.endpoint.resequencer.pending = []) (n : Nat) :
    Stocking kind n l (postMany post n l) := by
  induction n generalizing l with
  | zero => exact .all rfl (.refl l kind)
  | succ n ih =>
    have hfirst := hpost l hr hw
    unfold postMany
    split
    · next l₁ hl =>
      rw [hl] at hfirst
      cases hfirst with
      | started h =>
        refine .cons h (ih ?_ ?_)
        · unfold Refuses
          rwa [h.closing, h.destroyed]
        · unfold Resequencer.pending
          rwa [h.waiting]
    · next e l₁ hl =>
      rw [hl] at hfirst
      cases hfirst with
      | failed hx hlane ht =>
        have hn : ([] : List Operation).length < n + 1 := Nat.succ_pos n
        exact .cut hn (.refl l kind) hx hlane ht

end Link

end OrderedEcho
