import OrderedEcho.Proofs.OperationAccount
import OrderedEcho.Proofs.Server.Shutdown
import OrderedEcho.Proofs.SocketAccount

/-!
# The end of servers

After a server was shut down, it does nothing but wait for the operations in flight to complete
(`Run.shutdown_drains`).  Nothing is posted and no endpoint is registered, so each completion brings
it nearer to the end, and in the end no endpoint is left and the pool is whole.
-/

namespace OrderedEcho

namespace Server

variable {s₀ s s' : Server} {evs evs' : List ServerEvent} {id : EndpointId} {B B' : Book}
  {busy : List EndpointId} {held : Nat} {k : SocketId} {settings : Settings} {now : Int}

/-! ## Counting completions -/

/-- Every completion is one of a registered endpoint. -/
theorem Run.sum_completed (h0 : Server.ofSettings settings now = .ok s₀) (h : Run s₀ evs s)
    {n : Nat} (hn : s.directory.nextId ≤ n) :
    ∑ i ∈ Finset.range n, completed evs i = (completions evs).length := by
  induction h with
  | start => exact Finset.sum_eq_zero fun _ _ => rfl
  | @snoc evs s ev hr hp ih =>
    have hs := hr.sound h0
    have hle := Nat.le_trans (hr.step hs hp).1.grows.nextId hn
    have hsame (hc : completions [ev] = []) :
        ∑ i ∈ Finset.range n, completed (evs ++ [ev]) i = (completions (evs ++ [ev])).length := by
      unfold completed
      rw [completions_append, hc, List.append_nil]
      exact ih hle
    cases ev with
    | listen | bind | shutdown | refuse => exact hsame rfl
    | complete socket i c order =>
      obtain ⟨⟨op, k', ht, hret⟩, -⟩ := hp
      obtain ⟨id, ha⟩ := hs.arrives hr ht hret order
      have hid : id ∈ Finset.range n :=
        Finset.mem_range.2 (Nat.lt_of_lt_of_le (hs.lt_nextId ha.registered) hle)
      simp only [completed_append_complete hret ha.runs, Finset.sum_add_distrib,
        Finset.sum_ite_eq', if_pos hid]
      rw [ih hle, completions_append, List.length_append]
      rfl

/-- What the sockets of all endpoints took is in flight or has completed. -/
theorem Run.sum_taken (h0 : Server.ofSettings settings now = .ok s₀) (h : Run s₀ evs s) :
    ∑ᶠ k, (s.sockets.get k).inFlight.length + (completions evs).length =
      ∑ i ∈ Finset.range s.directory.nextId, (s.sockets.get (s.endpoints.get i).socket).taken := by
  have hs := h.sound h0
  rw [hs.sum_inFlight, ← h.sum_completed h0 (Nat.le_refl _), ← Finset.sum_add_distrib]
  refine Finset.sum_congr rfl fun i hi => ?_
  have hi := Finset.mem_range.1 hi
  have hdone : ((book s₀ evs).of (s.endpoints.get i)).done = completed evs i :=
    congrArg (completed evs) (hs.id_eq i hi)
  rw [(hs.endpoint hi).tallied.taken, hdone]

/-! ## Nothing is posted -/

theorem Down.closed (h : Down s) (hs : Sound B busy held s) (hk : Owned s k) :
    (s.sockets.get k).closed := by
  obtain ⟨i, hi, rfl⟩ := hk
  exact (hs.endpoint hi).lifecycle.closed (h.ended i hi)

theorem Drains.closes (hd : Drains s s') (h : Down s) (hs : Sound B busy held s)
    (hs' : Sound B' busy held s') (k : SocketId) :
    ∃ n, (s'.sockets.get k).history = (s.sockets.get k).history ++ List.replicate n .close := by
  by_cases ho : Owned s k
  · exact (hs'.orderly_all k).closes ((hs.orderly_all k).closed_iff.1 (h.closed hs ho))
      (hd.history k)
  · exact hd.unowned k ho

theorem Drains.ids_subset (hd : Drains s s') (hs : Sound B busy held s)
    (hs' : Sound B' busy held s') : s'.directory.ids ⊆ s.directory.ids := by
  intro i hi
  obtain ⟨hlt, hopen⟩ := (hs'.mem_ids i).1 hi
  have hlt : i < s.directory.nextId := hd.nextId_eq ▸ hlt
  refine (hs.mem_ids i).2 ⟨hlt, Bool.eq_false_iff.2 fun hx => ?_⟩
  exact absurd (hopen.symm.trans ((hd.endpoint i hlt).destroyed hx)) (by decide)

/-- Since nothing is posted, every completion leaves one operation less in flight. -/
theorem Run.sum_inFlight_drains (h0 : Server.ofSettings settings now = .ok s₀) (h : Run s₀ evs s)
    (hdown : Down s) (h' : Run s evs' s') (hd : Drains s s') :
    ∑ᶠ k, (s'.sockets.get k).inFlight.length + (completions evs').length =
      ∑ᶠ k, (s.sockets.get k).inFlight.length := by
  have hs := h.sound h0
  have hs' := (h.trans h').sound h0
  have htaken : ∑ i ∈ Finset.range s'.directory.nextId,
        (s'.sockets.get (s'.endpoints.get i).socket).taken =
      ∑ i ∈ Finset.range s.directory.nextId,
        (s.sockets.get (s.endpoints.get i).socket).taken := by
    rw [hd.nextId_eq]
    refine Finset.sum_congr rfl fun i hi => ?_
    rw [(hd.endpoint i (Finset.mem_range.1 hi)).socket]
    obtain ⟨n, hn⟩ := hd.closes hdown hs hs' (s.endpoints.get i).socket
    exact Socket.taken_closes hn
  have hbefore := h.sum_taken h0
  have hafter := (h.trans h').sum_taken h0
  rw [completions_append, List.length_append, htaken] at hafter
  omega

/-! ## The end -/

/-- When a server is shut down, every registered endpoint has something in flight, on a closed
socket, and nothing else left to do. -/
theorem Down.ending (h : Down s) (hs : Sound B [] held s) (hid : id ∈ s.directory.ids) :
    let e := s.endpoints.get id
    let k := s.sockets.get e.socket
    e.closing ∧ k.closed ∧ e.resequencer.isIdle ∧ k.inFlight ≠ [] := by
  intro e k
  obtain ⟨hlt, hopen⟩ := (hs.mem_ids id).1 hid
  have hl : Link.Sound (B.of e) e k [] false := hs.endpoint hlt
  have ha : e.aborted := (h.ended id hlt).resolve_right fun hx =>
    absurd (hopen.symm.trans hx) (by decide)
  have hc := h.closing hs hlt
  refine ⟨hc, hl.lifecycle.closed (Or.inl ha), ?_, fun hn => ?_⟩
  · rw [Resequencer.isIdle_iff, ← Resequencer.slots_eq_nil_iff]
    exact hl.accounted.discarded ha
  · have hpos : 0 < e.outstanding := hs.live id hlt List.not_mem_nil hc hopen
    rw [hl.lifecycle.outstanding, hn] at hpos
    exact absurd hpos (by decide)

/-- With nothing in flight, nothing is left. -/
theorem Down.ended_of_quiet (h : Down s) (hs : Sound B [] 0 s)
    (hn : ∀ k, (s.sockets.get k).inFlight = []) :
    s.directory.ids = [] ∧ s.pool.outstanding = 0 := by
  have hids : s.directory.ids = [] := List.eq_nil_iff_forall_not_mem.2 fun i hi =>
    (h.ending hs hi).2.2.2 (hn _)
  refine ⟨hids, ?_⟩
  rw [hs.funds.outstanding, hs.load_eq_sums, hids]
  simp [hn]

/-- When a server is shut down, its registered endpoints have operations in flight on closed sockets
and nothing else left to do.  From then on nothing is posted, nobody is registered, whoever connects
is turned away, and every completion leaves one operation less in flight.  When none is left, no
endpoint is registered and the pool is whole. -/
theorem Run.shutdown_drains (h0 : Server.ofSettings settings now = .ok s₀) (h : Run s₀ evs s)
    (order : VisitingOrder) :
    let s₁ := s.shutdown order
    (∀ id ∈ s₁.directory.ids,
      let e := s₁.endpoints.get id
      let k := s₁.sockets.get e.socket
      e.closing ∧ k.closed ∧ e.resequencer.isIdle ∧ k.inFlight ≠ []) ∧
    ∀ evs' s', Run s₁ evs' s' →
      (∀ k family, .listen k family ∉ evs' ∧ .bind k family ∉ evs') →
      (∀ k, ∃ n, (s'.sockets.get k).history =
        (s₁.sockets.get k).history ++ List.replicate n .close) ∧
      s'.directory.nextId = s₁.directory.nextId ∧ s'.directory.ids ⊆ s₁.directory.ids ∧
      (∀ k, Brought evs' k → (s'.sockets.get k).closed) ∧
      (Function.support fun k => (s'.sockets.get k).inFlight.length).Finite ∧
      ∑ᶠ k, (s'.sockets.get k).inFlight.length + (completions evs').length =
        ∑ᶠ k, (s₁.sockets.get k).inFlight.length ∧
      ((∀ k, (s'.sockets.get k).inFlight = []) →
        s'.directory.ids = [] ∧ s'.pool.outstanding = 0) := by
  intro s₁
  have h₁ : Run s₀ (evs ++ [.shutdown order]) s₁ := h.snoc (.shutdown order) trivial
  have hs₁ := h₁.sound h0
  have hdown : Down s₁ := down_shutdown (h.sound h0) order
  refine ⟨fun id hid => hdown.ending hs₁ hid, fun evs' s' h' hn => ?_⟩
  have hr := h₁.trans h'
  have hs' := hr.sound h0
  have hd := h₁.drains h0 hdown.shuttingDown h' hn
  have hdown' := hdown.of_drains hd
  refine ⟨hd.closes hdown hs₁ hs', hd.nextId_eq, hd.ids_subset hs₁ hs', fun k hk => ?_,
    s'.inUse.finite_toSet.subset hs'.support_subset, h₁.sum_inFlight_drains h0 hdown h' hd,
    hdown'.ended_of_quiet hs'⟩
  obtain ⟨ev, hev, hb⟩ := hk
  rcases hr.owned_or_turnedAway h0 ⟨ev, List.mem_append_right _ hev, hb⟩ with ho | ⟨-, hc⟩
  · exact hdown'.closed hs' ho
  · exact (hs'.orderly_all k).closed_iff.2 hc

/-- The visit is cut short by a shutdown.  Another client comes, and then the operations of the first
one are given back. -/
def farewell : List ServerEvent := [
  .complete 0 0 {
    operation := { kind := .accept, endpoint := some 0, buffer := ⟨[], 0⟩, capacity := 0 }
    result := .ok 0
    accepted := some ⟨2, ⟨.v4 0x7f000001, 4001, 0⟩⟩ } .listed,
  .complete 1 0 {
    operation := {
      kind := .send, endpoint := some 1, buffer := ⟨[104, 105], 2⟩, capacity := 2, slot := some 0 }
    result := .error .abandoned } .listed,
  .complete 1 0 {
    operation := {
      kind := .receive, endpoint := some 1, buffer := ⟨[], 4096⟩, capacity := 4096, slot := some 1 }
    result := .error .abandoned } .listed]

/-- The server that is shut down during the visit, the last endpoint first. -/
def leaving : Server := (afterVisit 2).shutdown .reversed

/-- The server after the first `n` events of the farewell. -/
def afterFarewell (n : Nat) : Server := (farewell.take n).foldl step leaving

theorem run_farewell : Run leaving farewell (afterFarewell 3) := by
  have h1 : Run leaving (farewell.take 1) (afterFarewell 1) := by
    refine .snoc _ .start ⟨⟨_, _, rfl, ⟨rfl, rfl, rfl⟩⟩, fun a ha => ?_⟩
    obtain rfl := Option.some.inj ha
    exact ⟨by decide, rfl⟩
  have h2 : Run leaving (farewell.take 2) (afterFarewell 2) :=
    .snoc _ h1 ⟨⟨_, _, rfl, ⟨rfl, rfl, rfl⟩⟩, nofun⟩
  exact .snoc _ h2 ⟨⟨_, _, rfl, ⟨rfl, rfl, rfl⟩⟩, nofun⟩

/-- Of the three operations in flight none is left, the second client was turned away, and so the
server has come to its end. -/
theorem shutdown_drains_farewell :
    let s := afterFarewell 3
    ∑ᶠ k, (leaving.sockets.get k).inFlight.length =
      ∑ᶠ k, (s.sockets.get k).inFlight.length + 3 ∧
    (s.sockets.get 2).closed ∧ s.directory.ids = [] ∧ s.pool.outstanding = 0 := by
  intro s
  have hquiet : ∀ k, (s.sockets.get k).inFlight = []
    | 0 | 1 | 2 => rfl
    | _ + 3 => rfl
  obtain ⟨-, hdrains⟩ := Run.shutdown_drains ofSettings_visited (run_visit 2) .reversed
  obtain ⟨-, -, -, hclosed, -, hsum, hend⟩ := hdrains farewell s run_farewell
    fun k family => ⟨by simp [farewell], by simp [farewell]⟩
  exact ⟨hsum.symm, hclosed 2 ⟨_, List.mem_cons_self, rfl⟩, hend hquiet⟩

end Server

end OrderedEcho
