import OrderedEcho.Proofs.Link.Move

/-!
# The life of an endpoint

How the stages of closing imply each other, and how many operations are in flight.  `Lifecycle`
holds of an endpoint and its socket at every moment, also in the middle of an act.  `Grows` says
what no move undoes.
-/

namespace OrderedEcho

namespace Link

/-- The stages of closing, and the count of operations in flight. -/
structure Lifecycle (e : Endpoint) (k : Socket) : Prop where
  closing_of_aborted : e.aborted → e.closing
  closing_of_destroyed : e.destroyed → e.closing
  deferred_eq_zero : e.closing → e.deferred = 0
  /-- Only streams close while they go on echoing. -/
  graceful : e.closing → e.aborted ∨ e.kind = .stream
  closed : e.aborted ∨ e.destroyed → k.closed
  /-- A socket is closed for no other reason. -/
  reason : k.closed → e.aborted ∨ e.destroyed
  outstanding : e.outstanding = k.inFlight.length
  settled : e.destroyed → e.outstanding = 0

theorem Lifecycle.aborted_of_open {e : Endpoint} {k : Socket} (h : Lifecycle e k)
    (hc : e.closing = false) : e.aborted = false :=
  Bool.eq_false_iff.2 fun ha => absurd (hc.symm.trans (h.closing_of_aborted ha)) (by decide)

theorem Lifecycle.destroyed_of_open {e : Endpoint} {k : Socket} (h : Lifecycle e k)
    (hc : e.closing = false) : e.destroyed = false :=
  Bool.eq_false_iff.2 fun hd => absurd (hc.symm.trans (h.closing_of_destroyed hd)) (by decide)

variable {P : Slot → Entry Operation → Prop} {st st' : Stage} {l l' : Link}

theorem endpoint_close (l : Link) (fatal : Bool) :
    (l.close fatal).endpoint = { l.endpoint with
      closing := true
      deferred := 0
      aborted := fatal || l.endpoint.aborted
      resequencer :=
        if fatal then l.endpoint.resequencer.discard.2 else l.endpoint.resequencer } := by
  cases fatal <;> rfl

theorem pool_close (l : Link) (fatal : Bool) : (l.close fatal).pool =
    if fatal then l.endpoint.resequencer.pending.foldl Pool.release l.pool else l.pool := by
  cases fatal <;> rfl

@[simp] theorem limit_close (l : Link) (fatal : Bool) :
    (l.close fatal).pool.limit = l.pool.limit := by
  rw [pool_close]
  split
  · exact Pool.limit_foldl_release _ _
  · rfl

theorem socket_close (l : Link) (fatal : Bool) : (l.close fatal).socket =
    if fatal = true ∧ l.endpoint.destroyed = false then l.socket.close else l.socket := by
  cases fatal with
  | false => rfl
  | true => cases h : l.endpoint.destroyed <;> simp [close, h]

@[simp] theorem inFlight_close (l : Link) (fatal : Bool) (kind : OperationKind) :
    ((l.close fatal).socket.lane kind).inFlight = (l.socket.lane kind).inFlight := by
  rw [socket_close]
  split
  · exact Socket.inFlight_lane_close _ _
  · rfl

@[simp] theorem handed_close (l : Link) (fatal : Bool) (kind : OperationKind) :
    (l.close fatal).socket.handed kind = l.socket.handed kind := by
  rw [socket_close]
  split
  · exact Socket.handed_close _
  · rfl

@[simp] theorem started_close (l : Link) (fatal : Bool) (kind : OperationKind) :
    (l.close fatal).socket.started kind = l.socket.started kind := by
  rw [socket_close]
  split
  · exact Socket.started_close _
  · rfl

/-- A refused post changes nothing that the life of an endpoint depends on, and neither does a change
of the resequencer. -/
theorem Lifecycle.refused {e : Endpoint} {k k' : Socket} {kind : OperationKind} {op : Operation}
    {x : IoError} (h : Lifecycle e k) (hp : k.Refused kind op x k') (r : Resequencer Operation) :
    Lifecycle { e with resequencer := r } k' := by
  refine ⟨h.closing_of_aborted, h.closing_of_destroyed, h.deferred_eq_zero, h.graceful,
    fun hc => hp.closed ▸ h.closed hc, fun hc => h.reason (hp.closed ▸ hc), ?_, h.settled⟩
  rw [hp.length_inFlight]
  exact h.outstanding

theorem Lifecycle.took {e : Endpoint} {k k' : Socket} {kind : OperationKind} {op : Operation}
    (h : Lifecycle e k) (hp : k.Took kind op k') (hd : e.destroyed = false)
    (r : Resequencer Operation) : Lifecycle { e with resequencer := r }.start k' := by
  refine ⟨h.closing_of_aborted, h.closing_of_destroyed, h.deferred_eq_zero, h.graceful,
    fun hc => hp.closed ▸ h.closed hc, fun hc => h.reason (hp.closed ▸ hc), ?_,
    fun hx => absurd (hd.symm.trans hx) (by decide)⟩
  rw [hp.length_inFlight]
  exact congrArg (· + 1) h.outstanding

theorem Lifecycle.gaveBack {e : Endpoint} {k k' : Socket} {kind : OperationKind} {op : Operation}
    (h : Lifecycle e k) (hp : k.GaveBack kind op k') : Lifecycle e.finish k' := by
  refine ⟨h.closing_of_aborted, h.closing_of_destroyed, h.deferred_eq_zero, h.graceful,
    fun hc => hp.closed ▸ h.closed hc, fun hc => h.reason (hp.closed ▸ hc), ?_, fun hd => ?_⟩
  · show e.outstanding - 1 = _
    rw [h.outstanding, hp.length_inFlight, Nat.add_sub_cancel]
  · show e.outstanding - 1 = 0
    rw [h.settled hd]

theorem Lifecycle.close {fatal : Bool} (h : Lifecycle l.endpoint l.socket)
    (hk : fatal = false → l.endpoint.kind = .stream) :
    Lifecycle (l.close fatal).endpoint (l.close fatal).socket := by
  have hin : (l.close fatal).socket.inFlight.length = l.socket.inFlight.length := by
    simp only [Socket.length_inFlight, inFlight_close]
  have haborted : l.endpoint.aborted → fatal || l.endpoint.aborted := fun ha => by
    rw [ha, Bool.or_true]
  rw [endpoint_close]
  refine ⟨fun _ => rfl, fun _ => rfl, fun _ => rfl, fun _ => ?_, fun hc => ?_, fun hc => ?_, ?_,
    h.settled⟩
  · cases fatal with
    | false => exact Or.inr (hk rfl)
    | true => exact Or.inl rfl
  · rw [socket_close]
    split
    · rfl
    · next hn =>
      cases fatal with
      | false => exact h.closed hc
      | true => exact h.closed (Or.inr (by simpa using hn))
  · rw [socket_close] at hc
    split at hc
    · next hf => exact Or.inl (by rw [hf.1]; rfl)
    · exact (h.reason hc).imp_left haborted
  · rw [hin]
    exact h.outstanding

theorem Lifecycle.move (h : Move P st st')
    (hl : Lifecycle st.link.endpoint st.link.socket) :
    Lifecycle st'.link.endpoint st'.link.socket := by
  cases h with
  | allocate | release | equip | forget | rest => exact hl
  | park | pass | sendLost | reject =>
    exact ⟨hl.closing_of_aborted, hl.closing_of_destroyed, hl.deferred_eq_zero, hl.graceful,
      hl.closed, hl.reason, hl.outstanding, hl.settled⟩
  | receive hr hp | accept hr hp =>
    exact hl.took hp (by simpa using fun hd => hr (Or.inr hd)) _
  | send hd _ hp => exact hl.took hp hd _
  | receiveRefused _ hp | acceptRefused _ hp | sendRefused _ _ _ hp => exact hl.refused hp _
  | sendFatal _ _ hp => exact Lifecycle.close (hl.refused hp _) nofun
  | close fatal hk => exact hl.close hk
  | defer n hn =>
    exact ⟨hl.closing_of_aborted, hl.closing_of_destroyed,
      fun hc => Nat.le_zero.1 (hl.deferred_eq_zero hc ▸ hn hc), hl.graceful, hl.closed, hl.reason,
      hl.outstanding, hl.settled⟩

/-! ## Posts that succeed -/

theorem closing_postReceive {op : Operation} (h : (l.postReceive op).1 = .ok ()) :
    (l.postReceive op).2.endpoint.closing = l.endpoint.closing := by
  unfold postReceive at h ⊢
  split at h
  · cases h
  · next hr =>
    rw [if_neg hr]
    dsimp only at h ⊢
    split at h
    · rfl
    · cases h

theorem closing_postNewReceive (h : l.postNewReceive.1 = .ok ()) :
    l.postNewReceive.2.endpoint.closing = l.endpoint.closing := by
  unfold postNewReceive at h ⊢
  split at h
  · cases h
  · next hc =>
    rw [if_neg hc]
    split at h
    · exact closing_postReceive h
    · cases h

theorem closing_postAccept {op : Operation} (h : (l.postAccept op).1 = .ok ()) :
    (l.postAccept op).2.endpoint.closing = l.endpoint.closing := by
  unfold postAccept at h ⊢
  split at h
  · cases h
  · next hr =>
    rw [if_neg hr]
    dsimp only at h ⊢
    split at h
    · rfl
    · cases h

theorem closing_postNewAccept (h : l.postNewAccept.1 = .ok ()) :
    l.postNewAccept.2.endpoint.closing = l.endpoint.closing := by
  unfold postNewAccept at h ⊢
  split at h
  · exact closing_postAccept h
  · cases h

theorem closing_postMany {post : Link → PostResult × Link}
    (hpost : ∀ l, (post l).1 = .ok () → (post l).2.endpoint.closing = l.endpoint.closing)
    {n : Nat} (h : postMany post n l = (none, l')) : l'.endpoint.closing = l.endpoint.closing := by
  induction n generalizing l with
  | zero =>
    obtain ⟨-, rfl⟩ := Prod.mk.inj h
    rfl
  | succ n ih =>
    have hl := hpost l
    unfold postMany at h
    split at h
    · next l₁ hp =>
      rw [hp] at hl
      exact (ih h).trans (hl rfl)
    · cases h

/-! ## What no move undoes -/

/-- `l'` is a later state of `l`, and the endpoint was not destroyed in between. -/
structure Grows (l l' : Link) : Prop where
  info : l'.endpoint.toEndpointInfo = l.endpoint.toEndpointInfo
  socket : l'.endpoint.socket = l.endpoint.socket
  destroyed : l'.endpoint.destroyed = l.endpoint.destroyed
  closing : l.endpoint.closing → l'.endpoint.closing
  aborted : l.endpoint.aborted → l'.endpoint.aborted
  history : l.socket.history <+: l'.socket.history
  limit : l'.pool.limit = l.pool.limit

theorem Grows.refl (l : Link) : Grows l l := ⟨rfl, rfl, rfl, id, id, List.prefix_rfl, rfl⟩

theorem Grows.trans {l'' : Link} (h : Grows l l') (h' : Grows l' l'') : Grows l l'' :=
  ⟨h'.info.trans h.info, h'.socket.trans h.socket, h'.destroyed.trans h.destroyed,
    h'.closing ∘ h.closing, h'.aborted ∘ h.aborted, h.history.trans h'.history,
    h'.limit.trans h.limit⟩

theorem Grows.close (l : Link) (fatal : Bool) : Grows l (l.close fatal) := by
  refine ⟨?_, ?_, ?_, fun _ => ?_, fun h => ?_, ?_, ?_⟩
  all_goals try simp only [endpoint_close]
  · rw [h, Bool.or_true]
  · rw [socket_close]
    split
    · exact List.prefix_append _ _
    · exact List.prefix_rfl
  · exact limit_close l fatal

theorem Grows.move (h : Move P st st') : Grows st.link st'.link := by
  cases h with
  | reject | forget | rest | park | pass | sendLost | defer =>
    exact ⟨rfl, rfl, rfl, id, id, List.prefix_rfl, rfl⟩
  | allocate h => exact ⟨rfl, rfl, rfl, id, id, List.prefix_rfl, Pool.limit_of_allocate h⟩
  | release => exact ⟨rfl, rfl, rfl, id, id, List.prefix_rfl, Pool.limit_release _ _⟩
  | equip => exact ⟨rfl, rfl, rfl, id, id, List.prefix_rfl, Pool.limit_equip _ _⟩
  | receive _ hp | accept _ hp | send _ _ hp =>
    exact ⟨rfl, rfl, rfl, id, id, hp.history ▸ List.prefix_append _ _, rfl⟩
  | receiveRefused _ hp | acceptRefused _ hp | sendRefused _ _ _ hp =>
    exact ⟨rfl, rfl, rfl, id, id, hp.history ▸ List.prefix_append _ _, rfl⟩
  | @sendFatal l _ op _ _ _ r _ socket _ _ hp =>
    have hr : Grows l
        (release { l with endpoint := { l.endpoint with resequencer := r }, socket } op) :=
      ⟨rfl, rfl, rfl, id, id, hp.history ▸ List.prefix_append _ _, Pool.limit_release _ _⟩
    exact hr.trans (.close _ true)
  | close fatal _ => exact .close _ fatal

theorem Grows.path (h : Path P st st') : Grows st.link st'.link := by
  induction h with
  | refl => exact .refl _
  | tail _ h ih => exact ih.trans (.move h)

/-- A failed send is fatal, except on a datagram socket. -/
theorem aborted_sent {l : Link} (hk : l.endpoint.kind ≠ .datagram) (op : Operation) (x : IoError) :
    (l.sent op (.error x)).2.endpoint.aborted := by
  have hs : l.sent op (.error x) = (l.close true).sent op (.ok 0) := by
    unfold sent
    dsimp only
    rw [if_neg hk]
  have hp : Path (fun _ _ => True) ⟨l.close true, [], 1, false⟩
      ⟨((l.close true).sent op (.ok 0)).2, [], 0, false⟩ := path_sent op (.ok 0)
  rw [hs]
  exact (Grows.path hp).aborted rfl

end Link

end OrderedEcho
