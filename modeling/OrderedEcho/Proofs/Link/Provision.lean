import OrderedEcho.Proofs.Link.FanOut

/-!
# The fan-out of an endpoint

`Provides n` says of a whole act that the endpoint has `n` receives more afterwards, unless it is
closing.  A completed receive takes one away, so the act that handles it provides one; the others
provide none.  The first act of a stream is the exception: it forgets the receives that it did not
try to post, so the stream gets a `Pool.share` of its fan-out only.

`Resumed.spent` says that an endpoint whose socket takes every post is owed receives only while the
pool is exhausted.
-/

namespace OrderedEcho

/-- How many of the `n` receives that it should have a new stream gets.  It is one for each operation
that the pool has left, of which the first goes to the first echo and the last receive is deferred;
and it is never less than one. -/
def Pool.share (p : Pool) (n : Nat) : Nat :=
  match p.limit with
  | none => n
  | some limit => min n (max 1 (limit - p.outstanding))

theorem Pool.share_of_unlimited {p : Pool} (h : p.limit = none) (n : Nat) : p.share n = n := by
  unfold share
  rw [h]

/-- How many of `n` receives a stream has in flight or deferred after it tried to post them: one for
each operation that the pool has left, and the one that found none. -/
def Pool.reach (p : Pool) (n : Nat) : Nat :=
  match p.limit with
  | none => n
  | some limit => min n (limit - p.outstanding + 1)

theorem Pool.reach_of_affords {p : Pool} {n : Nat} (h : p.Affords n) : p.reach n = n := by
  unfold reach
  split
  · rfl
  · next limit hl =>
    have := h limit hl
    omega

theorem Pool.reach_add_of_limit {p : Pool} {n limit u : Nat} (hl : p.limit = some limit)
    (h : n = limit - p.outstanding + 1 + u) : p.reach n + u = n := by
  unfold reach
  rw [hl]
  dsimp only
  omega

theorem Pool.isSome_exhausted_iff {p : Pool} :
    p.exhausted?.isSome ↔ ∃ limit, p.limit = some limit ∧ limit ≤ p.outstanding := by
  unfold exhausted?
  cases p.limit with
  | none => simp
  | some limit =>
    dsimp only
    split <;> simp [*]

/-- The number of receives that an endpoint lacks when an operation of the kind has completed. -/
def OperationKind.vacancies : OperationKind → Nat
  | receive => 1
  | accept | send => 0

namespace Link

variable {l l' l'' : Link} {op : Operation} {n m : Nat} {t : Slot} {r : PostResult}

/-! ## Acts -/

/-- After the act, the endpoint has `n` receives more, or it is closing.  It waits if receives are
deferred that were not before. -/
structure Provides (n : Nat) (l : Link) (x : Bool × Link) : Prop where
  grows : Grows l x.2
  fanOut : x.2.endpoint.closing = false → x.2.fanOut = l.fanOut + n
  datagram : l.endpoint.kind = .datagram → x.2.endpoint.closing = l.endpoint.closing
  waits : x.2.endpoint.closing = false → x.2.endpoint.deferred ≠ 0 →
    x.1 = true ∨ l.endpoint.deferred ≠ 0

theorem Spares.provides (h : Spares l l') (b : Bool) : Provides 0 l (b, l') :=
  ⟨h.toGrows, h.fanOut, h.datagram, fun hc hd => Or.inr (h.deferred hc ▸ hd)⟩

theorem Spares.trans_provides {x : Bool × Link} (h : Spares l l') (h' : Provides n l' x) :
    Provides n l x := by
  refine ⟨h.toGrows.trans h'.grows, fun hc => ?_, fun hk => ?_, fun hc hd => ?_⟩
  · rw [h'.fanOut hc, h.fanOut (h'.grows.open hc)]
  · exact (h'.datagram (h.kind.trans hk)).trans (h.datagram hk)
  · exact (h'.waits hc hd).imp_right fun hx => h.deferred (h'.grows.open hc) ▸ hx

/-- How many receives an endpoint has does not matter once it is closing. -/
theorem Provides.congr {x : Bool × Link} (h : Provides n l x)
    (hn : x.2.endpoint.closing = false → n = m) : Provides m l x :=
  ⟨h.grows, fun hc => hn hc ▸ h.fanOut hc, h.datagram, h.waits⟩

/-- The act that handles a completion makes up for the receive that came back. -/
theorem Provides.gaveBack {k' : Socket} {x : Bool × Link} (hk : l.socket.GaveBack op.kind op k')
    (h : Provides op.kind.vacancies ⟨l.endpoint.finish, k', l.pool⟩ x) : Provides 0 l x := by
  have hg : Grows l ⟨l.endpoint.finish, k', l.pool⟩ :=
    ⟨rfl, rfl, rfl, id, id, hk.history ▸ List.prefix_rfl, rfl⟩
  have hfan : Link.fanOut ⟨l.endpoint.finish, k', l.pool⟩ + op.kind.vacancies = l.fanOut := by
    unfold Link.fanOut Endpoint.finish
    cases hop : op.kind with
    | receive =>
      have hlen := (hop ▸ hk.lane_self).length_eq
      rw [List.length_cons] at hlen
      show (k'.lane .receive).inFlight.length + l.endpoint.deferred + 1 = _
      omega
    | accept | send =>
      rw [hk.lane_of_ne .receive (by rw [hop]; decide)]
      rfl
  exact ⟨hg.trans h.grows, fun hc => (h.fanOut hc).trans hfan, h.datagram, h.waits⟩

theorem provides_of_closing {x : Bool × Link} (hg : Grows l x.2) (hc : x.2.endpoint.closing)
    (hk : l.endpoint.kind = .datagram → l.endpoint.closing) (n : Nat) : Provides n l x :=
  ⟨hg, fun hx => absurd (hx.symm.trans hc) (by decide), fun h => hc.trans (hk h).symm,
    fun hx => absurd (hx.symm.trans hc) (by decide)⟩

theorem Posted.provides (h : Posted l m (r, l')) : Provides 1 l (settle (r, l')) := by
  have hg := grows_settle r l'
  refine ⟨h.grows.trans hg, fun hc => ?_, fun hk => ?_, fun hc hd => ?_⟩
  · exact (fanOut_settle hc).trans (h.fanOut (hg.open hc))
  · exact (datagram_settle r (h.grows.kind.trans hk)).trans (h.datagram hk)
  · cases h with
    | started hs => exact Or.inr (hs.deferred ▸ hd)
    | closing hg' hx => exact absurd (hc.symm.trans (hg'.closing hx)) (by decide)
    | refused e => exact Or.inl (waits_settle_refused e hc)
    | exhausted => exact Or.inl rfl

theorem provides_echo (hd : l.endpoint.destroyed = false) (op : Operation) (t : Slot) (n : Nat) :
    Provides 1 l (l.echo op t n) := by
  have hs := spares_fill l t (.data (op.truncate n).becomeSend)
  unfold echo
  dsimp only
  split
  · next hc =>
    exact hs.trans_provides (provides_of_closing (x := (false, _)) (.refl _) hc (fun _ => hc) 1)
  · exact hs.trans_provides (posted_postNewReceive (hs.destroyed.trans hd)).provides

theorem provides_retry (hd : l.endpoint.destroyed = false) (op : Operation) (t : Slot) :
    Provides 1 l (l.retry op t) := by
  have hs := spares_fill l t .skip
  unfold retry
  split
  · next hc => exact provides_of_closing (spares_release l op).toGrows hc (fun _ => hc) 1
  · exact hs.trans_provides (posted_postReceive (hs.destroyed.trans hd) op).provides

theorem provides_received (hd : l.endpoint.destroyed = false) (op : Operation) (t : Slot)
    (result : Except IoError Nat) : Provides 1 l (l.received op t result) := by
  have hstream {k : EndpointKind} (hk : k ≠ .datagram) (h : k = .datagram) :
      l.endpoint.closing := absurd h hk
  unfold received
  split
  · next hk =>
    have hg : Grows l (l.endOfStream op t) :=
      (Grows.close l false).trans ((spares_release _ op).trans (spares_fill _ t .skip)).toGrows
    refine provides_of_closing hg ?_ (hk ▸ hstream (by decide)) 1
    exact ((spares_release _ op).trans (spares_fill _ t .skip)).closing rfl
  · exact provides_echo hd op t _
  · exact provides_retry hd op t
  · next hk =>
    exact provides_of_closing ((spares_release l op).toGrows.trans (.close _ true)) rfl
      (fun h => absurd h hk) 1

/-- What retrying the deferred receives comes to. -/
inductive Resumed (l : Link) : PostResult × Link → Prop
  | all {l' : Link} (hb : Batch l.endpoint.deferred l.forgoDeferred (none, l')) :
      Resumed l (.ok (), l')
  | cut {i : Interruption} {l' : Link}
      (hb : Batch l.endpoint.deferred l.forgoDeferred (some i, l')) :
      Resumed l (.error i.error, l'.defer i.untried)

theorem resumed_resume (hd : l.endpoint.destroyed = false) : Resumed l l.resume := by
  have hb := batch_postMany (l := l.forgoDeferred) hd l.endpoint.deferred
  unfold resume
  split
  · next hl => exact .all (hl ▸ hb)
  · next hl => exact .cut (hl ▸ hb)

/-- A batch that failed leaves the endpoint waiting, or closed. -/
theorem Batch.waits {i : Interruption} (h : Batch n l (some i, l')) (hg : Grows l' l'')
    (hc : (settle (.error i.error, l'')).2.endpoint.closing = false) :
    (settle (.error i.error, l'')).1 = true := by
  cases h with
  | cut _ _ _ _ he =>
    cases he with
    | closing hg' hx =>
      have hx := (grows_settle (.error .closing) l'').closing (hg.closing (hg'.closing hx))
      exact absurd (hc.symm.trans hx) (by decide)
    | refused e => exact waits_settle_refused e hc
    | exhausted => rfl

/-- The receives that were deferred are in flight or deferred again. -/
theorem Resumed.provides (h : Resumed l (r, l')) : Provides 0 l (settle (r, l')) := by
  have hf : l.forgoDeferred.fanOut + l.endpoint.deferred = l.fanOut := rfl
  cases h with
  | all hb =>
    have h0 : l'.endpoint.deferred = 0 := by
      cases hb with
      | all hs => exact hs.deferred
    exact ⟨(grows_forgoDeferred l).trans hb.grows, hb.fanOut, hb.datagram,
      fun _ hx => absurd h0 hx⟩
  | @cut i l₁ hb =>
    have hg := grows_settle (.error i.error) (l₁.defer i.untried)
    have hg₁ : Grows l (l₁.defer i.untried) :=
      (grows_forgoDeferred l).trans (hb.grows.trans (grows_defer l₁ _))
    refine ⟨hg₁.trans hg, fun hc => ?_, fun hk => ?_, fun hc _ =>
      Or.inl (hb.waits (grows_defer l₁ _) hc)⟩
    · have hopen : l₁.endpoint.closing = false := hg.open hc
      have h₁ := fanOut_settle hc
      have h₂ := fanOut_defer hopen i.untried
      have h₃ : l₁.fanOut + (owed (.error i.error) + i.untried) = _ := hb.fanOut hopen
      omega
    · exact (datagram_settle _ (hg₁.kind.trans hk)).trans (hb.datagram hk)

theorem provides_settle_resume (hd : l.endpoint.destroyed = false) :
    Provides 0 l (settle l.resume) := (resumed_resume hd).provides

/-- An endpoint to which receives are still owed waits, whether or not it did before. -/
theorem waits_settle_resume (hd : l.endpoint.destroyed = false)
    (hc : (settle l.resume).2.endpoint.closing = false)
    (h : (settle l.resume).2.endpoint.deferred ≠ 0) : (settle l.resume).1 = true := by
  have hr := resumed_resume hd
  generalize l.resume = x at hr hc h
  cases hr with
  | all hb =>
    cases hb with
    | all hs => exact absurd hs.deferred h
  | cut hb => exact hb.waits (grows_defer _ _) hc

theorem provides_sent (hd : l.endpoint.destroyed = false) (op : Operation)
    (result : Except IoError Nat) : Provides 0 l (l.sent op result) := by
  have hdrain {l₁ : Link} (hs : Spares l l₁) : Provides 0 l
      (if (l₁.release op).drain.2.endpoint.deferred = 0 then (false, (l₁.release op).drain.2)
      else settle (l₁.release op).drain.2.resume) := by
    have hs := hs.trans ((spares_release l₁ op).trans (spares_drain _))
    split
    · exact hs.provides false
    · exact hs.trans_provides (provides_settle_resume (hs.destroyed.trans hd))
  unfold sent
  dsimp only
  split
  · exact hdrain (.refl l)
  · split
    · exact hdrain (.refl l)
    · next hk => exact hdrain (spares_close hk true)

/-! ## Streams -/

theorem pool_send (hk : l.endpoint.kind ≠ .datagram) (hd : l.endpoint.destroyed = false)
    (hc : (l.send op).2.endpoint.closing = false) : (l.send op).2.pool = l.pool := by
  unfold send at hc ⊢
  rw [if_neg (by rw [hd]; decide)] at hc ⊢
  split at hc
  · rfl
  · dsimp only at hc
    split at hc
    · next h => exact absurd h hk
    · rw [endpoint_close] at hc
      cases hc

theorem pool_drainUpTo (hk : l.endpoint.kind ≠ .datagram) (hd : l.endpoint.destroyed = false)
    (hc : (l.drainUpTo n).2.endpoint.closing = false) : (l.drainUpTo n).2.pool = l.pool := by
  induction n generalizing l with
  | zero => rfl
  | succ n ih =>
    unfold drainUpTo at hc ⊢
    split at hc
    · rfl
    · next t e r _ =>
      cases e with
      | skip => exact ih hk hd hc
      | data op =>
        have hs := spares_send { l with endpoint := { l.endpoint with resequencer := r } } op
        have hc' := (spares_drainUpTo n _).open hc
        have hk' := hs.kind.symm ▸ hk
        exact (ih hk' (hs.destroyed.trans hd) hc).trans (pool_send hk hd hc')

/-- A stream neither takes an operation from the pool nor gives one back when it fills a slot, unless
it closes. -/
theorem pool_fill (hk : l.endpoint.kind ≠ .datagram) (hd : l.endpoint.destroyed = false)
    (ha : l.endpoint.aborted = false) (ht : l.endpoint.resequencer.Accepts t)
    {e : Entry Operation} (hc : (l.fill t e).endpoint.closing = false) :
    (l.fill t e).pool = l.pool := by
  unfold fill park at hc ⊢
  rw [if_neg (by rw [ha]; decide), Resequencer.insert, if_pos ht] at hc ⊢
  exact pool_drainUpTo hk hd hc

/-- Nothing is sent as long as nothing but skipped slots wait. -/
theorem socket_drainUpTo (h : l.endpoint.resequencer.pending = []) :
    (l.drainUpTo n).2.socket = l.socket := by
  induction n generalizing l with
  | zero => rfl
  | succ n ih =>
    unfold drainUpTo
    split
    · rfl
    · next t e r hr =>
      have hl := Resequencer.length_pending_of_release? hr
      rw [h, List.length_nil] at hl
      cases e with
      | skip => exact ih (List.eq_nil_of_length_eq_zero (Nat.add_eq_zero_iff.1 hl.symm).1)
      | data op => exact absurd hl (Nat.ne_of_lt (Nat.succ_pos _))

theorem socket_fill_skip (h : l.endpoint.resequencer.pending = []) (t : Slot) :
    (l.fill t .skip).socket = l.socket := by
  unfold fill park
  split
  · exact socket_drainUpTo h
  · split
    · next r hi =>
      have hl := Resequencer.length_pending_of_insert hi
      rw [h] at hl
      exact socket_drainUpTo (List.eq_nil_of_length_eq_zero hl)
    · next e he =>
      unfold Resequencer.insert at he
      split at he
      · cases he
      · obtain rfl := Except.error.inj he
        exact socket_drainUpTo h

/-- A batch that ends because the pool is exhausted started as many receives as the pool had
operations, deferred one, and did not try the others. -/
theorem Batch.of_noResources {x : Exhausted} {u : Nat}
    (h : Batch n l (some ⟨.noResources x, u⟩, l')) :
    ∃ limit, l.pool.limit = some limit ∧ n = limit - l.pool.outstanding + 1 + u := by
  cases h with
  | @cut m _ _ l₁ _ hn hs hp ha he =>
    cases he with
    | exhausted hc hx =>
      obtain ⟨limit, hl, hle⟩ := Pool.isSome_exhausted_iff.1 (Option.isSome_of_mem hx)
      have hl := hs.limit.symm.trans hl
      have hm := ha limit hl
      exact ⟨limit, hl, by omega⟩

/-- Only a datagram endpoint survives the refusal of a receive. -/
theorem closing_settle_refused (hk : l.endpoint.kind ≠ .datagram) (e : IoError) :
    (settle (.error (.refused e), l)).2.endpoint.closing := by
  unfold settle
  dsimp only
  rw [if_neg hk]
  rfl

theorem Batch.not_closing {u : Nat} (h : Batch n l (some ⟨.closing, u⟩, l'))
    (hc : l'.endpoint.closing = false) : False := by
  cases h with
  | cut _ _ _ _ he =>
    cases he with
    | closing hg hx => exact absurd (hc.symm.trans (hg.closing hx)) (by decide)

/-- The receives of a batch that was not cut short are all in flight. -/
theorem Batch.provides_all (h : Batch n l (none, l')) :
    Provides (l.pool.reach n) l (false, l') := by
  cases h with
  | all hs hp ha =>
    rw [Pool.reach_of_affords ha]
    exact ⟨hs.toGrows, fun _ => hs.fanOut, fun _ => hs.closing_eq,
      fun _ hx => Or.inr (hs.deferred ▸ hx)⟩

/-- A stream whose batch was cut short is closing, or it has deferred the receive that found no
operation, and nothing is left of those that were not tried. -/
theorem Batch.provides_cut (hk : l.endpoint.kind = .stream) {i : Interruption}
    (h : Batch n l (some i, l')) :
    Provides (l.pool.reach n) l (settle (.error i.error, l')) := by
  obtain ⟨e, u⟩ := i
  have hg := grows_settle (.error e) l'
  have hk' : l'.endpoint.kind ≠ .datagram := by
    rw [h.grows.kind, hk]
    decide
  refine ⟨h.grows.trans hg, fun hc => ?_, fun hx => absurd (hk.symm.trans hx) (by decide),
    fun hc _ => Or.inl (h.waits (.refl l') hc)⟩
  have hopen := hg.open hc
  have hfan : l'.fanOut + (owed (.error e) + u) = l.fanOut + n := h.fanOut hopen
  cases e with
  | closing => exact (h.not_closing hopen).elim
  | refused x => exact absurd (hc.symm.trans (closing_settle_refused hk' x)) (by decide)
  | noResources x =>
    obtain ⟨limit, hlim, hn⟩ := h.of_noResources
    have hreach := Pool.reach_add_of_limit hlim hn
    have h₀ : owed (.error (.noResources x)) = 0 := rfl
    show l'.fanOut = _
    omega

/-! ## The first act of a stream -/

theorem spares_acceptEntry (l : Link) (data : List UInt8) : Spares l (l.acceptEntry data).2 := by
  unfold acceptEntry
  split
  · next ha => exact spares_allocate ha
  · exact .refl l

theorem endpoint_acceptEntry (l : Link) (data : List UInt8) :
    (l.acceptEntry data).2.endpoint = l.endpoint := by
  unfold acceptEntry
  split <;> rfl

/-- The first echo takes one of the operations that are left, if there is any. -/
theorem left_acceptEntry (l : Link) (data : List UInt8) {limit : Nat}
    (hl : l.pool.limit = some limit) :
    limit - (l.acceptEntry data).2.pool.outstanding = limit - l.pool.outstanding - 1 := by
  unfold acceptEntry
  split
  · next op pool ha =>
    have := Pool.outstanding_of_allocate ha
    dsimp only
    omega
  · next x hx =>
    have hx := Pool.allocate_eq_error_iff.1 hx
    obtain ⟨limit', hl', hle⟩ := Pool.isSome_exhausted_iff.1 (Option.isSome_of_mem hx)
    obtain rfl := Option.some.inj (hl.symm.trans hl')
    dsimp only
    omega

theorem reach_acceptEntry (l : Link) (data : List UInt8) (n : Nat) :
    (l.acceptEntry data).2.pool.reach n = l.pool.share n := by
  unfold Pool.reach Pool.share
  rw [(spares_acceptEntry l data).limit]
  cases hl : l.pool.limit with
  | none => rfl
  | some limit =>
    have := left_acceptEntry l data hl
    dsimp only
    omega

/-- A new stream gets its share of receives, and only the first that could not be posted is
deferred. -/
theorem provides_welcome (hk : l.endpoint.kind = .stream) (hd : l.endpoint.destroyed = false)
    (ha : l.endpoint.aborted = false) (h0 : l.endpoint.resequencer.Accepts 0)
    (data : List UInt8) (n : Nat) : Provides (l.pool.share n) l (welcome data n l) := by
  have hs₀ := spares_acceptEntry l data
  have hreach := reach_acceptEntry l data n
  unfold welcome
  rw [← endpoint_acceptEntry l data] at hk hd ha h0
  rw [← hreach]
  generalize l.acceptEntry data = x at hs₀ hk hd ha h0
  obtain ⟨e, l₀⟩ := x
  dsimp only at hs₀ hk hd ha h0 ⊢
  refine hs₀.trans_provides ?_
  have hs := spares_fill l₀ 0 e
  have hpool (hc : (l₀.fill 0 e).endpoint.closing = false) :
      (l₀.fill 0 e).pool.reach n = l₀.pool.reach n :=
    congrArg (·.reach n) (pool_fill (by rw [hk]; decide) hd ha h0 hc)
  have hb := batch_postMany (hs.destroyed.trans hd) n
  split
  · next l' hl =>
    have hp := (hl ▸ hb).provides_all
    exact hs.trans_provides (hp.congr fun hc => hpool (hp.grows.open hc))
  · next i l' hl =>
    have hp := (hl ▸ hb).provides_cut (hs.kind.trans hk)
    exact hs.trans_provides (hp.congr fun hc => hpool (hp.grows.open hc))

/-! ## What is left in the pool -/

/-- If the socket took all receives that were tried, the pool has no operation left for those that
are still owed. -/
theorem Resumed.spent {x : PostResult × Link} (h : Resumed l x) (hc : l.endpoint.closing = false)
    (ht : (settle x).2.socket.TookAll) :
    l.pool.outstanding ≤ (settle x).2.pool.outstanding ∧
      ((settle x).2.endpoint.deferred ≠ 0 → (settle x).2.pool.exhausted?.isSome) := by
  cases h with
  | all hb =>
    cases hb with
    | all hs hp => exact ⟨hp ▸ Nat.le_add_right _ _, fun hd => absurd hs.deferred hd⟩
  | cut hb =>
    cases hb with
    | cut _ hs hp _ he =>
      cases he with
      | closing _ hx => exact absurd (hc.symm.trans (hs.closing_eq.symm.trans hx)) (by decide)
      | refused e _ hr => exact absurd (ht.earlier (grows_settle _ _).history) hr
      | exhausted _ hx => exact ⟨hp ▸ Nat.le_add_right _ _, fun _ => congrArg Option.isSome hx⟩

end Link

end OrderedEcho
