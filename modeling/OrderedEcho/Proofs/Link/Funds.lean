import OrderedEcho.Proofs.Link.Lifecycle

/-!
# The account of operations

The pool counts every operation that is alive.  Seen from one link, an operation that is alive is in
flight on its socket, waits to be sent, or is held by the act that is going on; the `rest` is on
other links.  `Funded` says that nothing else is counted, and that the count is within the limit.
-/

namespace OrderedEcho

namespace Link

/-- The number of operations on the link: those in flight, and those that wait to be sent. -/
def load (l : Link) : Nat := l.socket.inFlight.length + l.endpoint.resequencer.pending.length

/-- The pool counts what is on the link, what the act holds, and `rest` others. -/
structure Funded (rest : Nat) (l : Link) (held : Nat) : Prop where
  outstanding : l.pool.outstanding = l.load + held + rest
  within : ∀ n, l.pool.limit = some n → l.pool.outstanding ≤ n

variable {P : Slot → Entry Operation → Prop} {st st' : Stage} {rest held held' : Nat} {l l' : Link}

/-- An operation goes from the act to the link or back. -/
theorem Funded.shift (h : Funded rest l held) (hp : l'.pool = l.pool)
    (hl : l'.load + held' = l.load + held) : Funded rest l' held' := by
  refine ⟨?_, ?_⟩
  · rw [hp, h.outstanding, hl]
  · rw [hp]
    exact h.within

/-- Operations go back to the pool. -/
theorem Funded.returned (h : Funded rest l held) (hlim : l'.pool.limit = l.pool.limit) {n : Nat}
    (ho : l'.pool.outstanding = l.pool.outstanding - n)
    (hl : l'.load + held' + n = l.load + held) : Funded rest l' held' := by
  have := h.outstanding
  refine ⟨?_, fun m hm => ?_⟩
  · omega
  · have := h.within m (hlim ▸ hm)
    omega

theorem Funded.allocate (h : Funded rest l held) {kind : OperationKind} {n : Nat} {op : Operation}
    {pool : Pool} (ha : l.pool.allocate kind n = .ok (op, pool)) :
    Funded rest { l with pool } (held + 1) := by
  have ho := h.outstanding
  refine ⟨?_, fun m hm => ?_⟩
  · show pool.outstanding = l.load + (held + 1) + rest
    rw [Pool.outstanding_of_allocate ha]
    omega
  · show pool.outstanding ≤ m
    rw [Pool.outstanding_of_allocate ha]
    exact Pool.lt_limit_of_allocate ha ((Pool.limit_of_allocate ha).symm.trans hm)

theorem Funded.release (h : Funded rest l (held + 1)) (op : Operation) :
    Funded rest (l.release op) held :=
  h.returned (Pool.limit_release _ _) (Pool.outstanding_release _ _) rfl

/-- A fatal close gives back what waits to be sent. -/
theorem Funded.close (h : Funded rest l held) (fatal : Bool) : Funded rest (l.close fatal) held := by
  have hin : (l.close fatal).socket.inFlight.length = l.socket.inFlight.length := by
    simp only [Socket.length_inFlight, inFlight_close]
  cases fatal with
  | false => exact h.shift rfl rfl
  | true =>
    refine h.returned (limit_close l true) (n := l.endpoint.resequencer.pending.length) ?_ ?_
    · rw [pool_close, if_pos rfl]
      exact Pool.outstanding_foldl_release _ _
    · unfold load
      rw [hin]
      exact Nat.add_right_comm _ _ _

section Post

variable {kind : OperationKind} {op : Operation} {x : IoError} {e : Endpoint} {socket : Socket}

theorem Funded.took (h : Funded rest l held) (hp : l.socket.Took kind op socket)
    (hr : e.resequencer.pending.length + held' + 1 =
      l.endpoint.resequencer.pending.length + held) : Funded rest ⟨e, socket, l.pool⟩ held' := by
  refine h.shift rfl ?_
  unfold load
  dsimp only
  rw [hp.length_inFlight]
  omega

theorem Funded.refused (h : Funded rest l held) (hp : l.socket.Refused kind op x socket)
    (hr : e.resequencer.pending.length + held' =
      l.endpoint.resequencer.pending.length + held) : Funded rest ⟨e, socket, l.pool⟩ held' := by
  refine h.shift rfl ?_
  unfold load
  dsimp only
  rw [hp.length_inFlight]
  omega

end Post

/-- An entry goes from the act to the resequencer or back. -/
theorem Funded.resequenced {r : Resequencer Operation} (h : Funded rest l held)
    (hr : r.pending.length + held' = l.endpoint.resequencer.pending.length + held) :
    Funded rest { l with endpoint := { l.endpoint with resequencer := r } } held' := by
  refine h.shift rfl ?_
  unfold load
  dsimp only
  omega

theorem Funded.move (h : Move P st st') (hf : Funded rest st.link st.held) :
    Funded rest st'.link st'.held := by
  cases h with
  | reject | forget | rest | defer => exact hf.shift rfl rfl
  | allocate h => exact hf.allocate h
  | release op => exact hf.release op
  | equip op => exact hf.returned (Pool.limit_equip _ _) (n := 0) (Pool.outstanding_equip _ _) rfl
  | receive _ hp | accept _ hp => exact hf.took hp rfl
  | receiveRefused _ hp | acceptRefused _ hp => exact hf.refused hp rfl
  | park _ _ hi =>
    have hl := Resequencer.length_pending_of_insert hi
    exact hf.resequenced (by dsimp only; omega)
  | pass hr =>
    have hl := Resequencer.length_pending_of_release? hr
    exact hf.resequenced (by rw [hl]; rfl)
  | sendLost _ hr =>
    have hl := Resequencer.length_pending_of_data hr
    exact hf.resequenced (by dsimp only; omega)
  | send _ hr hp =>
    have hl := Resequencer.length_pending_of_data hr
    exact hf.took hp (by dsimp only [Endpoint.start]; omega)
  | sendRefused _ _ hr hp =>
    have hl := Resequencer.length_pending_of_data hr
    exact hf.refused hp (by dsimp only; omega)
  | @sendFatal l _ op _ held _ r _ socket _ hr hp =>
    -- the refused send goes back to the pool first, and the close gives back what waits
    have hl := Resequencer.length_pending_of_data hr
    have hs : Funded rest ⟨{ l.endpoint with resequencer := r }, socket, l.pool⟩ (held + 1) :=
      hf.refused hp (by dsimp only; omega)
    exact (hs.release op).close true
  | close fatal _ => exact hf.close fatal

theorem Funded.path (h : Path P st st') (hf : Funded rest st.link st.held) :
    Funded rest st'.link st'.held := by
  induction h with
  | refl => exact hf
  | tail _ h ih => exact .move h ih

end Link

end OrderedEcho
