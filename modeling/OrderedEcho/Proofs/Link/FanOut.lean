import OrderedEcho.Proofs.Link.Lifecycle

/-!
# The receives of an endpoint

`Link.fanOut` counts the receives that an endpoint has in flight and those that are owed to it.
Nothing that an endpoint does with its sends changes it (`Spares`).  Posting a receive comes to one
of four results, which `Posted` lists with all that is known in each, and posting several of them to
one of two (`Batch`).  A receive that the socket refused is owed only after `settle`.

The receives of a batch that were neither started nor refused nor deferred are what the batch is
`lacking`: it is for the caller to remember them.
-/

namespace OrderedEcho

/-- The pool has `n` operations to hand out. -/
def Pool.Affords (p : Pool) (n : Nat) : Prop :=
  ∀ limit, p.limit = some limit → n ≤ limit - p.outstanding

theorem Pool.affords_zero (p : Pool) : p.Affords 0 := fun _ _ => Nat.zero_le _

/-- The socket took every post. -/
def Socket.TookAll (k : Socket) : Prop := ∀ kind op e, .post kind op (some e) ∉ k.history

theorem Socket.TookAll.earlier {k k' : Socket} (h : k'.TookAll) (hk : k.history <+: k'.history) :
    k.TookAll := fun kind op e hm => h kind op e (hk.subset hm)

theorem Socket.Refused.not_tookAll {k k' : Socket} {kind : OperationKind} {op : Operation}
    {e : IoError} (h : k.Refused kind op e k') : ¬ k'.TookAll := by
  intro ht
  refine ht kind op e ?_
  rw [h.history]
  exact List.mem_append_right _ List.mem_cons_self

namespace Link

/-- The number of receives in flight and of those that are owed. -/
def fanOut (l : Link) : Nat := (l.socket.lane .receive).inFlight.length + l.endpoint.deferred

variable {P : Slot → Entry Operation → Prop} {l l' l'' : Link} {op : Operation} {n m : Nat}
  {t : Slot} {r : PostResult}

/-! ## Acts without receives -/

/-- The endpoint neither posted a receive nor deferred one, and it did not give one up unless it
closed.  Datagram endpoints do not close by themselves. -/
structure Spares (l l' : Link) : Prop extends Grows l l' where
  lane : (l'.socket.lane .receive).inFlight = (l.socket.lane .receive).inFlight
  deferred : l'.endpoint.closing = false → l'.endpoint.deferred = l.endpoint.deferred
  datagram : l.endpoint.kind = .datagram → l'.endpoint.closing = l.endpoint.closing

theorem Grows.kind (h : Grows l l') : l'.endpoint.kind = l.endpoint.kind :=
  congrArg EndpointInfo.kind h.info

theorem Grows.open (h : Grows l l') (hc : l'.endpoint.closing = false) :
    l.endpoint.closing = false :=
  Bool.eq_false_iff.2 fun hx => absurd (hc.symm.trans (h.closing hx)) (by decide)

theorem Spares.refl (l : Link) : Spares l l := ⟨.refl l, rfl, fun _ => rfl, fun _ => rfl⟩

theorem Spares.trans (h : Spares l l') (h' : Spares l' l'') : Spares l l'' := by
  refine ⟨h.toGrows.trans h'.toGrows, h'.lane.trans h.lane, fun hc => ?_, fun hk => ?_⟩
  · exact (h'.deferred hc).trans (h.deferred (h'.open hc))
  · exact (h'.datagram (h.kind.trans hk)).trans (h.datagram hk)

theorem Spares.fanOut (h : Spares l l') (hc : l'.endpoint.closing = false) :
    l'.fanOut = l.fanOut := by
  unfold Link.fanOut
  rw [h.lane, h.deferred hc]

theorem spares_pool {pool : Pool} (h : pool.limit = l.pool.limit) : Spares l { l with pool } :=
  ⟨⟨rfl, rfl, rfl, id, id, List.prefix_rfl, h⟩, rfl, fun _ => rfl, fun _ => rfl⟩

theorem spares_release (l : Link) (op : Operation) : Spares l (l.release op) :=
  spares_pool (Pool.limit_release _ _)

theorem spares_allocate {kind : OperationKind} {size : Nat} {pool : Pool}
    (h : l.pool.allocate kind size = .ok (op, pool)) : Spares l { l with pool } :=
  spares_pool (Pool.limit_of_allocate h)

theorem spares_resequencer (l : Link) (resequencer : Resequencer Operation) :
    Spares l { l with endpoint := { l.endpoint with resequencer } } :=
  ⟨⟨rfl, rfl, rfl, id, id, List.prefix_rfl, rfl⟩, rfl, fun _ => rfl, fun _ => rfl⟩

theorem spares_took {kind : OperationKind} {socket : Socket} (h : l.socket.Took kind op socket)
    (hk : kind ≠ .receive) : Spares l { l with endpoint := l.endpoint.start, socket } :=
  ⟨⟨rfl, rfl, rfl, id, id, h.history ▸ List.prefix_append _ _, rfl⟩,
    h.lane_of_ne _ (Ne.symm hk), fun _ => rfl, fun _ => rfl⟩

theorem spares_refused {kind : OperationKind} {e : IoError} {socket : Socket}
    (h : l.socket.Refused kind op e socket) : Spares l { l with socket } :=
  ⟨⟨rfl, rfl, rfl, id, id, h.history ▸ List.prefix_append _ _, rfl⟩, h.lane _, fun _ => rfl,
    fun _ => rfl⟩

theorem spares_releaseEntry (l : Link) (e : Entry Operation) : Spares l (l.releaseEntry e) := by
  cases e with
  | data op => exact spares_release l op
  | skip => exact .refl l

theorem spares_close (hk : l.endpoint.kind ≠ .datagram) (fatal : Bool) :
    Spares l (l.close fatal) := by
  refine ⟨.close l fatal, inFlight_close l fatal .receive, fun hc => ?_, fun h => absurd h hk⟩
  rw [endpoint_close] at hc
  cases hc

theorem spares_send (l : Link) (op : Operation) : Spares l (l.send op).2 := by
  unfold send
  split
  · exact spares_release l op
  · split
    · next socket hp => exact spares_took (Socket.took_of_post hp) (by decide)
    · next e socket hp =>
      have hr := (spares_refused (Socket.refused_of_post hp)).trans (spares_release _ op)
      dsimp only
      split
      · exact hr
      · next hk => exact hr.trans (spares_close hk true)

theorem spares_drainUpTo (n : Nat) (l : Link) : Spares l (l.drainUpTo n).2 := by
  induction n generalizing l with
  | zero => exact .refl l
  | succ n ih =>
    unfold drainUpTo
    split
    · exact .refl l
    · next t e r _ =>
      have hr := spares_resequencer l r
      cases e with
      | skip => exact hr.trans (ih _)
      | data op => exact hr.trans ((spares_send _ op).trans (ih _))

theorem spares_drain (l : Link) : Spares l l.drain.2 := spares_drainUpTo _ l

theorem spares_park (l : Link) (t : Slot) (e : Entry Operation) : Spares l (l.park t e) := by
  unfold park
  split
  · exact spares_releaseEntry l e
  · split
    · exact spares_resequencer l _
    · next e' _ =>
      have hr : Spares l { l with endpoint := l.endpoint.reject } :=
        ⟨⟨rfl, rfl, rfl, id, id, List.prefix_rfl, rfl⟩, rfl, fun _ => rfl, fun _ => rfl⟩
      exact hr.trans (spares_releaseEntry _ e')

theorem spares_fill (l : Link) (t : Slot) (e : Entry Operation) : Spares l (l.fill t e) :=
  (spares_park l t e).trans (spares_drain _)

theorem spares_postAccept (l : Link) (op : Operation) : Spares l (l.postAccept op).2 := by
  unfold postAccept
  split
  · exact spares_release l op
  · dsimp only
    split
    · next socket hp => exact spares_took (Socket.took_of_post hp) (by decide)
    · next e socket hp =>
      exact (spares_refused (Socket.refused_of_post hp)).trans (spares_release _ _)

theorem spares_postNewAccept (l : Link) : Spares l l.postNewAccept.2 := by
  unfold postNewAccept
  split
  · next op pool ha => exact (spares_allocate ha).trans (spares_postAccept _ op)
  · exact .refl l

theorem spares_postMany {post : Link → PostResult × Link} (hpost : ∀ l, Spares l (post l).2)
    (n : Nat) (l : Link) : Spares l (postMany post n l).2 := by
  induction n generalizing l with
  | zero => exact .refl l
  | succ n ih =>
    have h := hpost l
    unfold postMany
    split
    · next l' hl =>
      rw [hl] at h
      exact h.trans (ih l')
    · next e l' hl =>
      rw [hl] at h
      exact h

/-! ## Deferring receives -/

/-- The link without the deferred receives, which are about to be tried. -/
def forgoDeferred (l : Link) : Link := { l with endpoint := { l.endpoint with deferred := 0 } }

/-- The link with `n` more deferred receives, unless it is closing. -/
def defer (l : Link) (n : Nat) : Link :=
  { l with endpoint := { l.endpoint with deferred :=
      if l.endpoint.closing then l.endpoint.deferred else l.endpoint.deferred + n } }

theorem grows_forgoDeferred (l : Link) : Grows l l.forgoDeferred :=
  ⟨rfl, rfl, rfl, id, id, List.prefix_rfl, rfl⟩

theorem grows_defer (l : Link) (n : Nat) : Grows l (l.defer n) :=
  ⟨rfl, rfl, rfl, id, id, List.prefix_rfl, rfl⟩

theorem fanOut_defer (hc : l.endpoint.closing = false) (n : Nat) :
    (l.defer n).fanOut = l.fanOut + n := by
  unfold Link.fanOut defer
  rw [if_neg (by rw [hc]; decide)]
  exact (Nat.add_assoc _ _ _).symm

theorem defer_endpoint (l : Link) : { l with endpoint := l.endpoint.defer } = l.defer 1 := by
  unfold Endpoint.defer defer
  split <;> rfl

/-! ## Posting receives -/

/-- The socket started `n` more receives. -/
structure Started (n : Nat) (l l' : Link) : Prop extends Grows l l' where
  closing_eq : l'.endpoint.closing = l.endpoint.closing
  deferred : l'.endpoint.deferred = l.endpoint.deferred
  lane : (l'.socket.lane .receive).inFlight.length =
    (l.socket.lane .receive).inFlight.length + n

theorem Started.refl (l : Link) : Started 0 l l := ⟨.refl l, rfl, rfl, rfl⟩

theorem Started.trans (h : Started n l l') (h' : Started m l' l'') : Started (n + m) l l'' :=
  ⟨h.toGrows.trans h'.toGrows, h'.closing_eq.trans h.closing_eq, h'.deferred.trans h.deferred,
    by rw [h'.lane, h.lane, Nat.add_assoc]⟩

theorem Started.fanOut (h : Started n l l') : l'.fanOut = l.fanOut + n := by
  unfold Link.fanOut
  rw [h.lane, h.deferred, Nat.add_right_comm]

/-- What posting a receive comes to.  The number is that of operations which it takes out of the
pool if the receive is started. -/
inductive Posted (l : Link) : Nat → PostResult × Link → Prop
  | started {n : Nat} {l' : Link} (hs : Started 1 l l')
      (hp : l'.pool.outstanding = l.pool.outstanding + n) (ha : l.pool.Affords n) :
      Posted l n (.ok (), l')
  | closing {n : Nat} {l' : Link} (hg : Grows l l') (hc : l.endpoint.closing) :
      Posted l n (.error .closing, l')
  | refused {n : Nat} {l' : Link} (e : IoError) (hs : Spares l l') (hr : ¬ l'.socket.TookAll) :
      Posted l n (.error (.refused e), l')
  | exhausted {x : Exhausted} (hc : l.endpoint.closing = false)
      (hx : l.pool.exhausted? = some x) :
      Posted l 1 (.error (.noResources x), l.defer 1)

theorem posted_postReceive (hd : l.endpoint.destroyed = false) (op : Operation) :
    Posted l 0 (l.postReceive op) := by
  unfold postReceive
  split
  · next hr =>
    refine .closing (spares_release l op).toGrows (hr.resolve_right fun hx => ?_)
    exact absurd (hd.symm.trans hx) (by decide)
  · dsimp only
    split
    · next socket hp =>
      have hp := Socket.took_of_post hp
      have hg : Grows l ⟨l.endpoint.assign.start, socket, (l.pool.equip op).2⟩ :=
        ⟨rfl, rfl, rfl, id, id, hp.history ▸ List.prefix_append _ _, Pool.limit_equip _ _⟩
      refine .started ⟨hg, rfl, rfl, ?_⟩ (Pool.outstanding_equip _ _) (Pool.affords_zero _)
      rw [hp.lane_self, List.length_append, List.length_singleton]
    · next e socket hp =>
      have hp := Socket.refused_of_post hp
      have hs : Spares l ⟨l.endpoint.assign, l.socket, (l.pool.equip op).2⟩ :=
        (spares_resequencer l _).trans (spares_pool (Pool.limit_equip _ _))
      have hk : Spares ⟨l.endpoint.assign, l.socket, (l.pool.equip op).2⟩
        ⟨l.endpoint.assign, socket, (l.pool.equip op).2⟩ := spares_refused hp
      have hr := (spares_release ⟨l.endpoint.assign, socket, (l.pool.equip op).2⟩
        ((l.pool.equip op).1.asReceive l.endpoint.id l.endpoint.resequencer.nextReceive)).trans
          (spares_fill _ l.endpoint.resequencer.nextReceive .skip)
      exact .refused e (hs.trans (hk.trans hr)) fun ht => hp.not_tookAll (ht.earlier hr.history)

/-- An operation that was allocated first makes the difference of one. -/
theorem Posted.allocate {op : Operation} {pool : Pool} {kind : OperationKind} {size : Nat}
    (ha : l.pool.allocate kind size = .ok (op, pool)) {x : PostResult × Link}
    (h : Posted { l with pool } 0 x) : Posted l 1 x := by
  have hs := spares_allocate ha
  cases h with
  | started h hp _ =>
    refine .started ⟨hs.toGrows.trans h.toGrows, h.closing_eq, h.deferred, h.lane⟩ ?_
      fun limit hl => Nat.sub_pos_of_lt (Pool.lt_limit_of_allocate ha hl)
    rw [hp]
    exact Pool.outstanding_of_allocate ha
  | closing hg hc => exact .closing (hs.toGrows.trans hg) hc
  | refused e h hr => exact .refused e (hs.trans h) hr

theorem posted_postNewReceive (hd : l.endpoint.destroyed = false) :
    Posted l 1 l.postNewReceive := by
  unfold postNewReceive
  split
  · next hc => exact .closing (.refl l) hc
  · next hc =>
    split
    · next op pool ha =>
      exact .allocate ha (posted_postReceive (l := { l with pool }) hd op)
    · next x hx =>
      rw [defer_endpoint]
      exact .exhausted (by simpa using hc) (Pool.allocate_eq_error_iff.1 hx)

theorem Posted.grows (h : Posted l n (r, l')) : Grows l l' := by
  cases h with
  | started hs => exact hs.toGrows
  | closing hg _ => exact hg
  | refused _ hs _ => exact hs.toGrows
  | exhausted => exact grows_defer l 1

theorem Posted.datagram (h : Posted l n (r, l')) (hk : l.endpoint.kind = .datagram) :
    l'.endpoint.closing = l.endpoint.closing := by
  cases h with
  | started hs => exact hs.closing_eq
  | closing hg hc => exact (hg.closing hc).trans hc.symm
  | refused _ hs _ => exact hs.datagram hk
  | exhausted => rfl

/-! ## Batches -/

/-- What posting `n` new receives comes to: the first `m` are started, and if these are not all of
them, the next one fails and `u` are not tried. -/
inductive Batch (n : Nat) (l : Link) : Option Interruption × Link → Prop
  | all {l' : Link} (hs : Started n l l') (hp : l'.pool.outstanding = l.pool.outstanding + n)
      (ha : l.pool.Affords n) : Batch n l (none, l')
  | cut {m u : Nat} {e : PostError} {l₁ l' : Link} (hn : n = m + 1 + u) (hs : Started m l l₁)
      (hp : l₁.pool.outstanding = l.pool.outstanding + m) (ha : l.pool.Affords m)
      (he : Posted l₁ 1 (.error e, l')) : Batch n l (some ⟨e, u⟩, l')

/-- One more receive was started before the batch. -/
theorem Batch.cons {x : Option Interruption × Link} (hl : Posted l 1 (.ok (), l'))
    (h : Batch n l' x) : Batch (n + 1) l x := by
  cases hl with
  | started hs hp ha =>
    have hmore {m : Nat} (hm : l'.pool.Affords m) : l.pool.Affords (1 + m) := by
      intro limit hl
      have h₁ := ha limit hl
      have h₂ := hm limit (hs.limit.trans hl)
      omega
    cases h with
    | all hs' hp' ha' =>
      rw [Nat.add_comm]
      exact .all (hs.trans hs') (by omega) (hmore ha')
    | cut hn hs' hp' ha' he =>
      exact .cut (by omega) (hs.trans hs') (by omega) (hmore ha') he

theorem batch_postMany (hd : l.endpoint.destroyed = false) (n : Nat) :
    Batch n l (postMany postNewReceive n l) := by
  induction n generalizing l with
  | zero => exact .all (.refl l) rfl (Pool.affords_zero _)
  | succ n ih =>
    have hp := posted_postNewReceive hd
    unfold postMany
    split
    · next l₁ hl =>
      rw [hl] at hp
      exact .cons hp (ih (hp.grows.destroyed.trans hd))
    · next e l₁ hl =>
      rw [hl] at hp
      exact .cut (by omega) (.refl l) rfl (Pool.affords_zero _) hp

/-! ## What is owed -/

/-- The receives that a result leaves to be deferred. -/
def owed : PostResult → Nat
  | .error (.refused _) => 1
  | .error .closing | .error (.noResources _) | .ok _ => 0

/-- The receives that a batch leaves to be deferred. -/
def lacking : Option Interruption → Nat
  | none => 0
  | some i => owed (.error i.error) + i.untried

theorem Posted.fanOut (h : Posted l n (r, l')) (hc : l'.endpoint.closing = false) :
    l'.fanOut + owed r = l.fanOut + 1 := by
  cases h with
  | started hs => exact hs.fanOut
  | closing hg hx => exact absurd (hc.symm.trans (hg.closing hx)) (by decide)
  | refused _ hs _ => exact congrArg (· + 1) (hs.fanOut hc)
  | exhausted hx _ => exact fanOut_defer hx 1

theorem Batch.fanOut {o : Option Interruption} (h : Batch n l (o, l'))
    (hc : l'.endpoint.closing = false) : l'.fanOut + lacking o = l.fanOut + n := by
  cases h with
  | all hs => exact hs.fanOut
  | @cut m u e l₁ _ hn hs hp ha he =>
    have h₁ := hs.fanOut
    have h₂ := he.fanOut hc
    show l'.fanOut + (owed (.error e) + u) = l.fanOut + n
    omega

theorem Batch.grows {o : Option Interruption} (h : Batch n l (o, l')) : Grows l l' := by
  cases h with
  | all hs => exact hs.toGrows
  | cut _ hs _ _ he => exact hs.toGrows.trans he.grows

theorem Batch.datagram {o : Option Interruption} (h : Batch n l (o, l'))
    (hk : l.endpoint.kind = .datagram) : l'.endpoint.closing = l.endpoint.closing := by
  cases h with
  | all hs => exact hs.closing_eq
  | cut _ hs _ _ he => exact (he.datagram (hs.kind.trans hk)).trans hs.closing_eq

theorem grows_settle (r : PostResult) (l : Link) : Grows l (settle (r, l)).2 := by
  have h : Path (fun _ _ => True) ⟨l, [], 0, false⟩ ⟨(settle (r, l)).2, [], 0, false⟩ :=
    path_settle r
  exact .path h

theorem datagram_settle (r : PostResult) (hk : l.endpoint.kind = .datagram) :
    (settle (r, l)).2.endpoint.closing = l.endpoint.closing := by
  match r with
  | .ok () | .error .closing | .error (.noResources _) => rfl
  | .error (.refused e) =>
    unfold settle
    dsimp only
    rw [if_pos hk, defer_endpoint]
    rfl

theorem fanOut_settle (hc : (settle (r, l)).2.endpoint.closing = false) :
    (settle (r, l)).2.fanOut = l.fanOut + owed r := by
  have hopen := (grows_settle r l).open hc
  match r with
  | .ok () | .error .closing | .error (.noResources _) => rfl
  | .error (.refused e) =>
    unfold settle at hc ⊢
    dsimp only at hc ⊢
    split at hc
    · next hk =>
      rw [if_pos hk, defer_endpoint]
      exact fanOut_defer hopen 1
    · rw [endpoint_close] at hc
      cases hc

/-- An endpoint whose receive was refused waits, or it is closed. -/
theorem waits_settle_refused (e : IoError)
    (hc : (settle (.error (.refused e), l)).2.endpoint.closing = false) :
    (settle (.error (.refused e), l)).1 = true := by
  unfold settle at hc ⊢
  dsimp only at hc ⊢
  split at hc
  · next hk => rw [if_pos hk]
  · rw [endpoint_close] at hc
    cases hc

end Link

end OrderedEcho
