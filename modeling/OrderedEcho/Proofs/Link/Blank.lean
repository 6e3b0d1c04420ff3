import OrderedEcho.Proofs.Link.Provision

/-!
# Blank receives

An operation passes through many uses: its buffer comes from the pool, where an earlier operation
left it, a failed receive is posted again, and a completed one turns into a send.  A receive that is
posted is `Blank` all the same, whatever the operation was used for before.

`PostsBlank` says that of everything that was posted between two states of a link.  It is all that
each function on links does to the receives in flight (`postsBlank_received` and the others).  The
one thing that it takes is that no socket gives a receive back with more capacity than a regular
buffer has.
-/

namespace OrderedEcho

/-- Nothing is left in the operation of an earlier use, and it has exactly the given capacity. -/
structure Operation.Blank (op : Operation) (size : Nat) : Prop where
  peer : op.peer = none
  payload : op.payload = []
  capacity : op.capacity = size

/-- A blank operation shows zeros to whoever opens its buffer. -/
theorem Operation.Blank.payload_openBuffer {op : Operation} {size : Nat} (h : op.Blank size) :
    op.openBuffer.payload = List.replicate size 0 := by
  have hbytes : op.buffer.bytes = [] := h.payload
  unfold openBuffer Operation.payload Buffer.resize Buffer.fill
  rw [hbytes, h.capacity, List.take_nil, List.nil_append, List.length_nil, Nat.sub_zero]

namespace Pool

variable {p p' : Pool} {op : Operation} {kind : OperationKind} {n : Nat}

@[simp] theorem bufferSize_release (p : Pool) (op : Operation) :
    (p.release op).bufferSize = p.bufferSize := by
  unfold release keepBuffer
  split <;> rfl

theorem bufferSize_foldl_release (ops : List Operation) (p : Pool) :
    (ops.foldl release p).bufferSize = p.bufferSize := by
  induction ops generalizing p with
  | nil => rfl
  | cons op ops ih => rw [List.foldl_cons, ih, bufferSize_release]

@[simp] theorem bufferSize_equip (p : Pool) (op : Operation) :
    (p.equip op).2.bufferSize = p.bufferSize := by
  unfold equip
  split
  · exact bufferSize_takeBuffer p p.bufferSize
  · rfl

theorem bufferSize_of_allocate (h : p.allocate kind n = .ok (op, p')) :
    p'.bufferSize = p.bufferSize := by
  unfold allocate at h
  split at h
  · cases h
  · obtain ⟨-, rfl⟩ := Prod.mk.inj (Except.ok.inj h)
    exact bufferSize_takeBuffer p n

theorem capacity_of_allocate (h : p.allocate kind n = .ok (op, p')) : op.capacity = n := by
  unfold allocate at h
  split at h
  · cases h
  · obtain ⟨rfl, -⟩ := Prod.mk.inj (Except.ok.inj h)
    rfl

/-- An operation gets the capacity of a regular buffer, unless it has more. -/
theorem capacity_equip (h : op.capacity ≤ p.bufferSize) :
    (p.equip op).1.capacity = p.bufferSize := by
  unfold equip
  split
  · exact bufferSize_takeBuffer p p.bufferSize
  · next hge => exact Nat.le_antisymm h (Nat.not_lt.1 hge)

/-- A receive is posted blank. -/
theorem blank_equip (h : op.capacity ≤ p.bufferSize) (id : EndpointId) (t : Slot) :
    ((p.equip op).1.asReceive id t).Blank p.bufferSize :=
  ⟨rfl, rfl, capacity_equip h⟩

end Pool

namespace Link

variable {l l' l'' : Link} {op : Operation} {n : Nat} {t : Slot}

/-! ## The size of regular buffers -/

@[simp] theorem bufferSize_close (l : Link) (fatal : Bool) :
    (l.close fatal).pool.bufferSize = l.pool.bufferSize := by
  rw [pool_close]
  split
  · exact Pool.bufferSize_foldl_release _ _
  · rfl

@[simp] theorem bufferSize_releaseEntry (l : Link) (e : Entry Operation) :
    (l.releaseEntry e).pool.bufferSize = l.pool.bufferSize := by
  cases e with
  | data op => exact Pool.bufferSize_release _ _
  | skip => rfl

@[simp] theorem bufferSize_send (l : Link) (op : Operation) :
    (l.send op).2.pool.bufferSize = l.pool.bufferSize := by
  unfold send
  split
  · exact Pool.bufferSize_release _ _
  · split
    · rfl
    · dsimp only
      split
      · exact Pool.bufferSize_release _ _
      · exact (bufferSize_close _ true).trans (Pool.bufferSize_release _ _)

@[simp] theorem bufferSize_drainUpTo (n : Nat) (l : Link) :
    (l.drainUpTo n).2.pool.bufferSize = l.pool.bufferSize := by
  induction n generalizing l with
  | zero => rfl
  | succ n ih =>
    unfold drainUpTo
    split
    · rfl
    · next t e r _ =>
      cases e with
      | skip => exact ih _
      | data op => exact (ih _).trans (bufferSize_send _ op)

@[simp] theorem bufferSize_drain (l : Link) : l.drain.2.pool.bufferSize = l.pool.bufferSize :=
  bufferSize_drainUpTo _ l

@[simp] theorem bufferSize_fill (l : Link) (t : Slot) (e : Entry Operation) :
    (l.fill t e).pool.bufferSize = l.pool.bufferSize := by
  unfold fill park
  rw [bufferSize_drain]
  split
  · exact bufferSize_releaseEntry l e
  · split
    · rfl
    · exact bufferSize_releaseEntry _ _

@[simp] theorem bufferSize_postAccept (l : Link) (op : Operation) :
    (l.postAccept op).2.pool.bufferSize = l.pool.bufferSize := by
  unfold postAccept
  split
  · exact Pool.bufferSize_release _ _
  · dsimp only
    split
    · rfl
    · exact Pool.bufferSize_release _ _

@[simp] theorem bufferSize_postNewAccept (l : Link) :
    l.postNewAccept.2.pool.bufferSize = l.pool.bufferSize := by
  unfold postNewAccept
  split
  · next ha => exact (bufferSize_postAccept _ _).trans (Pool.bufferSize_of_allocate ha)
  · rfl

/-! ## Posting -/

/-- Receives that were not in flight before are blank. -/
structure PostsBlank (l l' : Link) : Prop where
  socket : l'.endpoint.socket = l.endpoint.socket
  bufferSize : l'.pool.bufferSize = l.pool.bufferSize
  receives : ∀ op ∈ (l'.socket.lane .receive).inFlight,
    op ∈ (l.socket.lane .receive).inFlight ∨ op.Blank l.pool.bufferSize

theorem PostsBlank.refl (l : Link) : PostsBlank l l := ⟨rfl, rfl, fun _ => Or.inl⟩

theorem PostsBlank.trans (h : PostsBlank l l') (h' : PostsBlank l' l'') : PostsBlank l l'' := by
  refine ⟨h'.socket.trans h.socket, h'.bufferSize.trans h.bufferSize, fun op hop => ?_⟩
  rcases h'.receives op hop with hop | hblank
  · exact h.receives op hop
  · exact Or.inr (h.bufferSize ▸ hblank)

/-- An act without receives. -/
theorem Spares.postsBlank (h : Spares l l') (hp : l'.pool.bufferSize = l.pool.bufferSize) :
    PostsBlank l l' := ⟨h.socket, hp, fun _ hop => Or.inl (h.lane ▸ hop)⟩

theorem postsBlank_release (l : Link) (op : Operation) : PostsBlank l (l.release op) :=
  (spares_release l op).postsBlank (Pool.bufferSize_release _ _)

theorem postsBlank_close (l : Link) (fatal : Bool) : PostsBlank l (l.close fatal) :=
  ⟨(Grows.close l fatal).socket, bufferSize_close l fatal,
    fun _ hop => Or.inl (inFlight_close l fatal .receive ▸ hop)⟩

theorem postsBlank_fill (l : Link) (t : Slot) (e : Entry Operation) : PostsBlank l (l.fill t e) :=
  (spares_fill l t e).postsBlank (bufferSize_fill l t e)

theorem postsBlank_drain (l : Link) : PostsBlank l l.drain.2 :=
  (spares_drain l).postsBlank (bufferSize_drain l)

theorem postsBlank_postAccept (l : Link) (op : Operation) : PostsBlank l (l.postAccept op).2 :=
  (spares_postAccept l op).postsBlank (bufferSize_postAccept l op)

theorem postsBlank_postNewAccept (l : Link) : PostsBlank l l.postNewAccept.2 :=
  (spares_postNewAccept l).postsBlank (bufferSize_postNewAccept l)

theorem postsBlank_defer (l : Link) (n : Nat) : PostsBlank l (l.defer n) :=
  ⟨rfl, rfl, fun _ => Or.inl⟩

theorem postsBlank_postReceive (h : op.capacity ≤ l.pool.bufferSize) :
    PostsBlank l (l.postReceive op).2 := by
  unfold postReceive
  split
  · exact postsBlank_release l op
  · dsimp only
    split
    · next socket hp =>
      refine ⟨rfl, Pool.bufferSize_equip _ _, fun x hx => ?_⟩
      refine ((Socket.took_of_post hp).mem_lane hx).imp_right fun hx => ?_
      rw [hx.2]
      exact Pool.blank_equip h _ _
    · next e socket hp =>
      have hr : PostsBlank l ⟨l.endpoint.assign, socket, (l.pool.equip op).2⟩ :=
        ⟨rfl, Pool.bufferSize_equip _ _, fun x hx =>
          Or.inl ((Socket.refused_of_post hp).lane .receive ▸ hx)⟩
      exact hr.trans ((postsBlank_release _ _).trans (postsBlank_fill _ _ _))

theorem postsBlank_postNewReceive (l : Link) : PostsBlank l l.postNewReceive.2 := by
  unfold postNewReceive
  split
  · exact .refl l
  · split
    · next op pool ha =>
      have hs := Pool.bufferSize_of_allocate ha
      have hp : PostsBlank { l with pool } (postReceive { l with pool } op).2 :=
        postsBlank_postReceive (Nat.le_of_eq ((Pool.capacity_of_allocate ha).trans hs.symm))
      exact ((spares_allocate ha).postsBlank hs).trans hp
    · rw [defer_endpoint]
      exact postsBlank_defer l 1

theorem postsBlank_postMany {post : Link → PostResult × Link}
    (hpost : ∀ l, PostsBlank l (post l).2) (n : Nat) (l : Link) :
    PostsBlank l (postMany post n l).2 := by
  induction n generalizing l with
  | zero => exact .refl l
  | succ n ih =>
    have h := hpost l
    unfold postMany
    split
    · next l' hl =>
      rw [hl] at h
      exact h.trans (ih l')
    · next e l' hl =>
      rw [hl] at h
      exact h

theorem postsBlank_resume (l : Link) : PostsBlank l l.resume.2 := by
  have h := postsBlank_postMany postsBlank_postNewReceive l.endpoint.deferred
    { l with endpoint := { l.endpoint with deferred := 0 } }
  unfold resume
  split
  · next hl =>
    rw [hl] at h
    exact ⟨h.socket, h.bufferSize, h.receives⟩
  · next hl =>
    rw [hl] at h
    exact ⟨h.socket, h.bufferSize, h.receives⟩

theorem postsBlank_settle (r : PostResult) (l : Link) : PostsBlank l (settle (r, l)).2 := by
  match r with
  | .ok () | .error .closing | .error (.noResources _) => exact .refl l
  | .error (.refused e) =>
    unfold settle
    dsimp only
    split
    · rw [defer_endpoint]
      exact postsBlank_defer l 1
    · exact postsBlank_close l true

/-! ## Completions -/

theorem postsBlank_settle_resume (l : Link) : PostsBlank l (settle l.resume).2 :=
  (postsBlank_resume l).trans (postsBlank_settle _ _)

theorem postsBlank_acceptEntry (l : Link) (data : List UInt8) :
    PostsBlank l (l.acceptEntry data).2 := by
  refine (spares_acceptEntry l data).postsBlank ?_
  unfold acceptEntry
  split
  · next ha => exact Pool.bufferSize_of_allocate ha
  · rfl

theorem postsBlank_welcome (data : List UInt8) (n : Nat) (l : Link) :
    PostsBlank l (welcome data n l).2 := by
  have h := (postsBlank_acceptEntry l data).trans ((postsBlank_fill _ 0 (l.acceptEntry data).1).trans
    (postsBlank_postMany postsBlank_postNewReceive n _))
  unfold welcome
  dsimp only
  split
  · next hl =>
    rw [hl] at h
    exact h
  · next hl =>
    rw [hl] at h
    exact h.trans (postsBlank_settle _ _)

/-- Only a receive that failed is posted again as it came back. -/
theorem postsBlank_received (h : op.capacity ≤ l.pool.bufferSize) (t : Slot)
    (result : Except IoError Nat) : PostsBlank l (l.received op t result).2 := by
  unfold received
  split
  · exact (postsBlank_close l false).trans ((postsBlank_release _ op).trans (postsBlank_fill _ t .skip))
  · next n _ =>
    have hf := postsBlank_fill l t (.data (op.truncate n).becomeSend)
    unfold echo
    dsimp only
    split
    · exact hf
    · exact hf.trans ((postsBlank_postNewReceive _).trans (postsBlank_settle _ _))
  · unfold retry
    split
    · exact postsBlank_release l op
    · have hsize : op.capacity ≤ (l.fill t .skip).pool.bufferSize := by rwa [bufferSize_fill]
      have hp := postsBlank_postReceive hsize
      exact (postsBlank_fill l t .skip).trans (hp.trans (postsBlank_settle _ _))
  · exact (postsBlank_release l op).trans (postsBlank_close _ true)

theorem postsBlank_sent (op : Operation) (result : Except IoError Nat) (l : Link) :
    PostsBlank l (l.sent op result).2 := by
  have hdrain (l₁ : Link) (h : PostsBlank l l₁) : PostsBlank l
      (if (l₁.release op).drain.2.endpoint.deferred = 0 then (false, (l₁.release op).drain.2)
      else settle (l₁.release op).drain.2.resume).2 := by
    have h := h.trans ((postsBlank_release l₁ op).trans (postsBlank_drain _))
    split
    · exact h
    · exact h.trans (postsBlank_settle_resume _)
  unfold sent
  dsimp only
  split
  · exact hdrain l (.refl l)
  · split
    · exact hdrain l (.refl l)
    · exact hdrain _ (postsBlank_close l true)

end Link

end OrderedEcho
