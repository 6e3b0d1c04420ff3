import OrderedEcho.Proofs.Link.Provision

/-!
# Receives that an endpoint gains

As long as its socket refuses nothing, an endpoint that tries to post receives changes only by those
that are started (`Gains`): each takes the next slot and is in flight afterwards, and nothing that
waits to be echoed is touched.  A batch of new receives ends early only because the pool has a limit
and is exhausted (`Tried`).

`CatchesUp` says what this comes to for the receives that were owed to the endpoint: those that were
started are owed no longer, the others still are.
-/

namespace OrderedEcho

/-! ## Sockets -/

namespace Socket

variable {k k' k'' : Socket} {ops ops' : List Operation} {kind : OperationKind} {op : Operation}

/-- The socket refused something that was asked of it after it was `k`. -/
def RefusedSince (k k' : Socket) : Prop :=
  ∃ kind op e, .post kind op (some e) ∈ k'.history.drop k.history.length

theorem not_refusedSince (h : (k'.history.drop k.history.length).all SocketEvent.isTaken = true) :
    ¬ k.RefusedSince k' := by
  rintro ⟨kind, op, e, hm⟩
  cases List.all_eq_true.1 h _ hm

/-- Whoever looks at a longer time sees the refusal too. -/
theorem RefusedSince.mono {k₀ k₁ : Socket} (h : k.RefusedSince k') (h₀ : k₀.history <+: k.history)
    (h₁ : k'.history <+: k₁.history) : k₀.RefusedSince k₁ := by
  obtain ⟨kind, op, e, hm⟩ := h
  refine ⟨kind, op, e, ?_⟩
  have hsuffix : k'.history.drop k.history.length <:+ k'.history.drop k₀.history.length :=
    List.drop_suffix_drop_left _ h₀.length_le
  obtain ⟨later, hl⟩ := h₁
  rw [← hl, List.drop_append]
  exact List.mem_append_left _ (hsuffix.subset hm)

theorem Refused.refusedSince {e : IoError} (h : k.Refused kind op e k') : k.RefusedSince k' := by
  refine ⟨kind, op, e, ?_⟩
  rw [h.history, List.drop_left]
  exact List.mem_singleton_self _

/-- The socket started the operations `ops` of one kind, and nothing else was asked of it. -/
structure Begins (k : Socket) (kind : OperationKind) (ops : List Operation) (k' : Socket) :
    Prop where
  closed : k'.closed = k.closed
  history : k'.history = k.history ++ ops.map fun op => .post kind op none
  lane_self : (k'.lane kind).inFlight = (k.lane kind).inFlight ++ ops
  lane_of_ne : ∀ kind', kind' ≠ kind → (k'.lane kind').inFlight = (k.lane kind').inFlight

theorem Begins.refl (k : Socket) (kind : OperationKind) : k.Begins kind [] k :=
  ⟨rfl, (List.append_nil _).symm, (List.append_nil _).symm, fun _ _ => rfl⟩

theorem Begins.trans (h : k.Begins kind ops k') (h' : k'.Begins kind ops' k'') :
    k.Begins kind (ops ++ ops') k'' := by
  refine ⟨h'.closed.trans h.closed, ?_, ?_, fun kind' hk => ?_⟩
  · rw [h'.history, h.history, List.map_append, List.append_assoc]
  · rw [h'.lane_self, h.lane_self, List.append_assoc]
  · rw [h'.lane_of_ne kind' hk, h.lane_of_ne kind' hk]

theorem Took.begins (h : k.Took kind op k') : k.Begins kind [op] k' :=
  ⟨h.closed, h.history, h.lane_self, h.lane_of_ne⟩

theorem Begins.history_prefix (h : k.Begins kind ops k') : k.history <+: k'.history :=
  h.history ▸ List.prefix_append _ _

theorem Begins.length_inFlight (h : k.Begins .receive ops k') :
    k'.inFlight.length = k.inFlight.length + ops.length := by
  rw [Socket.length_inFlight, Socket.length_inFlight, h.lane_self, h.lane_of_ne .accept (by decide),
    h.lane_of_ne .send (by decide), List.length_append]
  omega

theorem Begins.handed (h : k.Begins kind ops k') : k'.handed kind = k.handed kind ++ ops := by
  have hf : (SocketEvent.posted? kind ∘ fun op => .post kind op none) = some :=
    funext fun op => if_pos rfl
  unfold Socket.handed
  rw [h.history, List.filterMap_append, List.filterMap_map, hf, List.filterMap_some]

theorem Begins.handed_of_ne (h : k.Begins kind ops k') {kind' : OperationKind}
    (hk : kind ≠ kind') : k'.handed kind' = k.handed kind' := by
  have hf : (SocketEvent.posted? kind' ∘ fun op => .post kind op none) = fun _ => none :=
    funext fun op => if_neg hk
  unfold Socket.handed
  rw [h.history, List.filterMap_append, List.filterMap_map, hf, List.filterMap_none,
    List.append_nil]

end Socket

/-! ## Endpoints -/

/-- The endpoint with `n` more receives in flight. -/
def Endpoint.gain (e : Endpoint) (n : Nat) : Endpoint :=
  { e with
    outstanding := e.outstanding + n
    resequencer := { e.resequencer with nextReceive := e.resequencer.nextReceive + n } }

/-- The endpoint caught up on the receives `ops` that were owed to it, which are now in flight in the
next slots, and changed in no other way. -/
structure Endpoint.CatchesUp (e : Endpoint) (k : Socket) (ops : List Operation) (e' : Endpoint)
    (k' : Socket) : Prop where
  le : ops.length ≤ e.deferred
  endpoint : e' = { e.gain ops.length with deferred := e.deferred - ops.length }
  slots : ops.map Operation.slot =
    (List.range' e.resequencer.nextReceive ops.length).map some
  socket : k.Begins .receive ops k'

theorem Endpoint.CatchesUp.refl (e : Endpoint) (k : Socket) : e.CatchesUp k [] e k :=
  ⟨Nat.zero_le _, rfl, rfl, .refl k .receive⟩

theorem Endpoint.CatchesUp.deferred {e e' : Endpoint} {k k' : Socket} {ops : List Operation}
    (h : e.CatchesUp k ops e' k') : e'.deferred + ops.length = e.deferred := by
  rw [h.endpoint]
  exact Nat.sub_add_cancel h.le

namespace Link

variable {l l' l'' : Link} {ops ops' : List Operation} {op : Operation} {n : Nat}

/-- The receives `ops` were started in the next slots, and nothing else happened but in the pool. -/
structure Gains (ops : List Operation) (l l' : Link) : Prop where
  endpoint : l'.endpoint = l.endpoint.gain ops.length
  slots : ops.map Operation.slot =
    (List.range' l.endpoint.resequencer.nextReceive ops.length).map some
  socket : l.socket.Begins .receive ops l'.socket
  limit : l'.pool.limit = l.pool.limit

theorem Gains.refl (l : Link) : Gains [] l l := ⟨rfl, rfl, .refl _ _, rfl⟩

theorem Gains.trans (h : Gains ops l l') (h' : Gains ops' l' l'') : Gains (ops ++ ops') l l'' := by
  refine ⟨?_, ?_, h.socket.trans h'.socket, h'.limit.trans h.limit⟩
  · rw [h'.endpoint, h.endpoint, List.length_append]
    unfold Endpoint.gain
    simp only [Nat.add_assoc]
  · have hnext : l'.endpoint.resequencer.nextReceive =
        l.endpoint.resequencer.nextReceive + ops.length := by
      rw [h.endpoint]
      rfl
    rw [List.map_append, h.slots, h'.slots, hnext, List.length_append, ← List.map_append,
      List.range'_append_1]

theorem Gains.refuses_iff (h : Gains ops l l') : l'.Refuses ↔ l.Refuses := by
  unfold Refuses
  rw [h.endpoint]
  rfl

/-! ## Posting -/

theorem not_refuses (hc : l.endpoint.closing = false) (hd : l.endpoint.destroyed = false) :
    ¬ l.Refuses := by
  unfold Refuses
  rw [hc, hd]
  decide

/-- The socket refused the receive `op` with the error `e`, and its slot was passed over. -/
structure Skips (op : Operation) (e : IoError) (l l' : Link) : Prop where
  slot : op.slot = some l.endpoint.resequencer.nextReceive
  filled : ∃ socket pool, l.socket.Refused .receive op e socket ∧
    l' = fill ⟨l.endpoint.assign, socket, pool⟩ l.endpoint.resequencer.nextReceive .skip

theorem Skips.refusedSince {e : IoError} (h : Skips op e l l') :
    l.socket.RefusedSince l'.socket := by
  obtain ⟨socket, pool, hp, rfl⟩ := h.filled
  have hfill := spares_fill ⟨l.endpoint.assign, socket, pool⟩ l.endpoint.resequencer.nextReceive
    .skip
  exact hp.refusedSince.mono List.prefix_rfl hfill.history

/-- A receive that is posted is started, or the socket refuses it. -/
theorem gains_postReceive (hr : ¬ l.Refuses) (op : Operation) :
    ((l.postReceive op).1 = .ok () ∧ ∃ op', Gains [op'] l (l.postReceive op).2) ∨
      ∃ op' e, (l.postReceive op).1 = .error (.refused e) ∧ Skips op' e l (l.postReceive op).2 := by
  unfold postReceive
  rw [if_neg hr]
  dsimp only
  split
  · next socket hp =>
    have hp := Socket.took_of_post hp
    exact Or.inl ⟨rfl, _, rfl, rfl, hp.begins, Pool.limit_equip _ _⟩
  · next e socket hp => exact Or.inr ⟨_, e, rfl, rfl, _, _, Socket.refused_of_post hp, rfl⟩

theorem limit_ne_none_of_exhausted {p : Pool} {x : Exhausted} (h : p.exhausted? = some x) :
    p.limit ≠ none := by
  obtain ⟨limit, hl, -⟩ := Pool.isSome_exhausted_iff.1 (Option.isSome_of_mem h)
  rw [hl]
  exact Option.some_ne_none limit

/-- A new receive is started, or the pool has no operation for it, or the socket refuses it. -/
theorem gains_postNewReceive (hr : ¬ l.Refuses) :
    (l.postNewReceive.1 = .ok () ∧ ∃ op, Gains [op] l l.postNewReceive.2) ∨
      (∃ x, l.postNewReceive = (.error (.noResources x), l.defer 1) ∧ l.pool.limit ≠ none) ∨
      ∃ op e, l.postNewReceive.1 = .error (.refused e) ∧ Skips op e l l.postNewReceive.2 := by
  unfold postNewReceive
  rw [if_neg fun hc => hr (Or.inl hc)]
  split
  · next op pool ha =>
    rcases gains_postReceive (l := { l with pool }) hr op with ⟨hok, op', hg⟩ | ⟨op', e, he, hs⟩
    · exact Or.inl ⟨hok, op', hg.endpoint, hg.slots, hg.socket,
        hg.limit.trans (Pool.limit_of_allocate ha)⟩
    · exact Or.inr (Or.inr ⟨op', e, he, hs.slot, hs.filled⟩)
  · next x hx =>
    rw [defer_endpoint]
    exact Or.inr (Or.inl ⟨x, rfl, limit_ne_none_of_exhausted (Pool.allocate_eq_error_iff.1 hx)⟩)

/-- What trying to post `n` new receives comes to. -/
inductive Tried (n : Nat) (l : Link) : Option Interruption × Link → Prop
  | all {ops : List Operation} {l' : Link} (hn : ops.length = n) (hg : Gains ops l l') :
      Tried n l (none, l')
  | cut {ops : List Operation} {u : Nat} {x : Exhausted} {l' : Link}
      (hn : n = ops.length + 1 + u) (hg : Gains ops l l') (hl : l.pool.limit ≠ none) :
      Tried n l (some ⟨.noResources x, u⟩, l'.defer 1)
  | refused {ops : List Operation} {op : Operation} {e : IoError} {u : Nat} {l₁ l' : Link}
      (hn : n = ops.length + 1 + u) (hg : Gains ops l l₁) (hs : Skips op e l₁ l') :
      Tried n l (some ⟨.refused e, u⟩, l')

/-- One more receive was started before. -/
theorem Tried.cons {x : Option Interruption × Link} (hg : Gains [op] l l') (h : Tried n l' x) :
    Tried (n + 1) l x := by
  cases h with
  | all hn hg' =>
    refine .all ?_ (hg.trans hg')
    rw [List.length_append, hn, List.length_singleton, Nat.add_comm]
  | cut hn hg' hl =>
    refine .cut ?_ (hg.trans hg') (hg.limit ▸ hl)
    rw [List.length_append, List.length_singleton]
    omega
  | refused hn hg' hs =>
    refine .refused ?_ (hg.trans hg') hs
    rw [List.length_append, List.length_singleton]
    omega

theorem tried_postMany (hr : ¬ l.Refuses) (n : Nat) :
    Tried n l (postMany postNewReceive n l) := by
  induction n generalizing l with
  | zero => exact .all rfl (.refl l)
  | succ n ih =>
    unfold postMany
    generalize hx : l.postNewReceive = x
    have hpost := hx ▸ gains_postNewReceive hr
    obtain ⟨r, l₁⟩ := x
    rcases hpost with ⟨hok, op, hg⟩ | ⟨x, hx, hl⟩ | ⟨op, e, he, hs⟩
    · obtain rfl : r = .ok () := hok
      exact (ih (hg.refuses_iff.not.2 hr)).cons hg
    · obtain ⟨rfl, rfl⟩ := Prod.mk.inj hx
      exact .cut (by rw [List.length_nil]; omega) (.refl l) hl
    · obtain rfl : r = .error (.refused e) := he
      exact .refused (by rw [List.length_nil]; omega) (.refl l) hs

/-! ## Catching up -/

theorem endpoint_defer (hc : l.endpoint.closing = false) (n : Nat) :
    (l.defer n).endpoint = { l.endpoint with deferred := l.endpoint.deferred + n } := by
  unfold defer
  rw [if_neg (by rw [hc]; decide)]

/-- A retry is a batch of new receives, and what the batch did not get to is owed again. -/
theorem resume_cases (l : Link) :
    (∃ l', postMany postNewReceive l.endpoint.deferred l.forgoDeferred = (none, l') ∧
      l.resume = (.ok (), l')) ∨
    ∃ i l', postMany postNewReceive l.endpoint.deferred l.forgoDeferred = (some i, l') ∧
      l.resume = (.error i.error, l'.defer i.untried) := by
  unfold resume
  split
  · next hl => exact Or.inl ⟨_, hl, rfl⟩
  · next hl => exact Or.inr ⟨_, _, hl, rfl⟩

/-- An endpoint that retries the receives that are owed to it catches up on them as far as the pool
allows, unless its socket refuses one.  It has to wait only if it did not get them all. -/
theorem catchesUp_settle_resume (hc : l.endpoint.closing = false)
    (hd : l.endpoint.destroyed = false)
    (hr : ¬ l.socket.RefusedSince (settle l.resume).2.socket) :
    ∃ ops, l.endpoint.CatchesUp l.socket ops (settle l.resume).2.endpoint
        (settle l.resume).2.socket ∧
      (l.pool.limit = none → ops.length = l.endpoint.deferred) ∧
      ((settle l.resume).1 = true → ops.length < l.endpoint.deferred) := by
  have ht := tried_postMany (l := l.forgoDeferred) (not_refuses hc hd) l.endpoint.deferred
  obtain ⟨l', hl, hresume⟩ | ⟨i, l', hl, hresume⟩ := resume_cases l
  · rw [hl] at ht
    rw [hresume] at hr ⊢
    cases ht with
    | @all ops l' hn hg =>
      refine ⟨ops, ⟨Nat.le_of_eq hn, ?_, hg.slots, hg.socket⟩, fun _ => hn, nofun⟩
      rw [hn, Nat.sub_self]
      exact hn ▸ hg.endpoint
  · rw [hl] at ht
    rw [hresume] at hr ⊢
    cases ht with
    | @cut ops u x l' hn hg hlimit =>
      refine ⟨ops, ⟨by omega, ?_, hg.slots, hg.socket⟩, fun h => absurd h hlimit, fun _ => by omega⟩
      have hc' : l'.endpoint.closing = false := by
        rw [hg.endpoint]
        exact hc
      have howed : l.endpoint.deferred - ops.length = 0 + 1 + u := by omega
      show ((l'.defer 1).defer u).endpoint = _
      rw [endpoint_defer (l := l'.defer 1) hc', endpoint_defer hc', hg.endpoint, howed]
      rfl
    | @refused ops op e u l₁ l' hn hg hs =>
      have hlater := (grows_defer l' u).trans (grows_settle (.error (.refused e)) _)
      have href := hs.refusedSince.mono hg.socket.history_prefix hlater.history
      exact absurd href hr

end Link

end OrderedEcho
