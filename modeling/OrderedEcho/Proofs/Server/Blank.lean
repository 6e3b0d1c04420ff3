import OrderedEcho.Proofs.Link.Blank
import OrderedEcho.Proofs.Server.Run

/-!
# Blank receives on all sockets

`PostsBlank s s'` says that the receives which were posted between `s` and `s'`, on any socket, are
blank.  Each function of the server is made of acts of which that is known (`postsBlank_setLink`), so
it holds of the whole of what the server does with an event (`postsBlank_step`), and in the end of
every receive in flight (`Run.blank`).
-/

namespace OrderedEcho

namespace Server

variable {s s' s'' s₀ : Server} {i : EndpointId} {l : Link} {socket : SocketId} {op : Operation}
  {c : Completion} {evs : List ServerEvent} {settings : Settings} {now : Int}

/-- Receives that were not in flight before are blank. -/
structure PostsBlank (s s' : Server) : Prop where
  bufferSize : s'.pool.bufferSize = s.pool.bufferSize
  receives : ∀ k, ∀ op ∈ ((s'.sockets.get k).lane .receive).inFlight,
    op ∈ ((s.sockets.get k).lane .receive).inFlight ∨ op.Blank s.pool.bufferSize

theorem PostsBlank.refl (s : Server) : PostsBlank s s := ⟨rfl, fun _ _ => Or.inl⟩

theorem PostsBlank.trans (h : PostsBlank s s') (h' : PostsBlank s' s'') : PostsBlank s s'' := by
  refine ⟨h'.bufferSize.trans h.bufferSize, fun k op hop => ?_⟩
  rcases h'.receives k op hop with hop | hblank
  · exact h.receives k op hop
  · exact Or.inr (h.bufferSize ▸ hblank)

theorem PostsBlank.of_eq (hk : s'.sockets = s.sockets)
    (hp : s'.pool.bufferSize = s.pool.bufferSize) : PostsBlank s s' :=
  ⟨hp, fun _ _ hop => Or.inl (hk ▸ hop)⟩

/-! ## Acts -/

theorem postsBlank_setLink (h : Link.PostsBlank (s.link i) l) : PostsBlank s (s.setLink i l) := by
  refine ⟨h.bufferSize, fun k op hop => ?_⟩
  have hsocket : l.endpoint.socket = (s.endpoints.get i).socket := h.socket
  unfold setLink at hop
  rw [Table.get_set] at hop
  split at hop
  · next hk =>
    rw [← hk, hsocket]
    exact h.receives op hop
  · exact Or.inl hop

theorem postsBlank_act {f : Link → Bool × Link}
    (h : Link.PostsBlank (s.link i) (f (s.link i)).2) : PostsBlank s (s.act i f) := by
  unfold act
  dsimp only
  split
  · exact (postsBlank_setLink h).trans (.of_eq rfl rfl)
  · exact postsBlank_setLink h

theorem postsBlank_modifyLink {f : Link → Link} (h : Link.PostsBlank (s.link i) (f (s.link i))) :
    PostsBlank s (s.modifyLink i f) := postsBlank_setLink h

theorem postsBlank_modifySocket {f : Socket → Socket}
    (hf : ((f (s.sockets.get socket)).lane .receive).inFlight ⊆
      ((s.sockets.get socket).lane .receive).inFlight) :
    PostsBlank s (s.modifySocket socket f) := by
  refine ⟨rfl, fun k op hop => Or.inl ?_⟩
  unfold modifySocket at hop
  rw [Table.get_set] at hop
  split at hop
  · next hk => exact hk ▸ hf hop
  · exact hop

theorem postsBlank_closeSocket (s : Server) (socket : SocketId) :
    PostsBlank s (s.modifySocket socket .close) :=
  postsBlank_modifySocket (List.Perm.of_eq (Socket.inFlight_lane_close _ .receive)).subset

theorem postsBlank_retire (s : Server) (i : EndpointId) : PostsBlank s (s.retire i).2 := by
  unfold retire
  split
  · exact .refl s
  · next endpoint _ => exact ⟨rfl, (postsBlank_closeSocket s endpoint.socket).receives⟩

theorem postsBlank_release (s : Server) (op : Operation) : PostsBlank s (s.release op) :=
  .of_eq rfl (Pool.bufferSize_release _ _)

/-! ## Endpoints -/

theorem postsBlank_addEndpoint {post : Link → PostResult × Link}
    (hpost : ∀ l, Link.PostsBlank l (post l).2) (kind : EndpointKind) (family : AddressFamily)
    (socket : SocketId) : PostsBlank s (s.addEndpoint kind family socket post).2 := by
  have hr : PostsBlank s (s.registered kind family none socket) := .of_eq rfl rfl
  have hmany := Link.postsBlank_postMany hpost s.settings.fanOut
    ((s.registered kind family none socket).link s.directory.nextId)
  unfold addEndpoint
  rw [register_eq]
  dsimp only
  split
  · next l hl =>
    have hl : Link.PostsBlank _ l := congrArg Prod.snd hl ▸ hmany
    exact hr.trans (postsBlank_setLink hl)
  · next x l hl =>
    have hl : Link.PostsBlank _ l := congrArg Prod.snd hl ▸ hmany
    exact hr.trans ((postsBlank_setLink (hl.trans (Link.postsBlank_close l true))).trans
      (postsBlank_retire _ _))

theorem postsBlank_abort (s : Server) (i : EndpointId) : PostsBlank s (s.abort i) :=
  (postsBlank_modifyLink (Link.postsBlank_close _ true)).trans (postsBlank_retire _ i)

theorem postsBlank_foldl {f : Server → EndpointId → Server} (hf : ∀ s i, PostsBlank s (f s i))
    (ids : List EndpointId) (s : Server) : PostsBlank s (ids.foldl f s) := by
  induction ids generalizing s with
  | nil => exact .refl s
  | cons i ids ih => exact (hf s i).trans (ih _)

theorem postsBlank_shutdown (s : Server) (order : VisitingOrder) :
    PostsBlank s (s.shutdown order) := by
  have hdown : PostsBlank s { s with shuttingDown := true } := .of_eq rfl rfl
  exact hdown.trans (postsBlank_foldl postsBlank_abort _ _)

/-! ## Completions -/

theorem postsBlank_openStream (s : Server) (a : Accepted) (data : List UInt8) :
    PostsBlank s (s.openStream a data).2 := by
  have hwelcome (s : Server) (id : EndpointId) :
      PostsBlank s ((s.act id (Link.welcome data s.settings.fanOut)).retire id).2 :=
    (postsBlank_act (Link.postsBlank_welcome _ _ _)).trans (postsBlank_retire _ id)
  have hr : PostsBlank s (s.registered .stream a.peer.family (some a.peer) a.socket) :=
    .of_eq rfl rfl
  unfold openStream
  rw [register_eq]
  dsimp only
  split
  · exact hr.trans ((postsBlank_modifyLink (Link.postsBlank_close _ true)).trans (hwelcome _ _))
  · exact hr.trans (hwelcome _ _)

theorem postsBlank_repostAccept (s : Server) (i : EndpointId) (op : Operation) :
    PostsBlank s (s.repostAccept i op) :=
  (postsBlank_modifyLink (Link.postsBlank_postAccept _ op)).trans (postsBlank_retire _ i)

theorem postsBlank_dropAccept (s : Server) (i : EndpointId) (op : Operation) :
    PostsBlank s (s.dropAccept i op) :=
  (postsBlank_release s op).trans (postsBlank_retire _ i)

theorem postsBlank_finish (s : Server) (i : EndpointId) :
    PostsBlank s (s.modifyLink i Link.finish) :=
  postsBlank_modifyLink ⟨rfl, rfl, fun _ => Or.inl⟩

theorem postsBlank_acceptCompleted (s : Server) (i : EndpointId) (c : Completion) :
    PostsBlank s (s.acceptCompleted i c) := by
  refine (postsBlank_finish s i).trans ?_
  unfold acceptCompleted
  generalize s.modifyLink i Link.finish = s
  dsimp only
  split
  · next n a _ _ =>
    split
    · exact (postsBlank_closeSocket s a.socket).trans (postsBlank_dropAccept _ i _)
    · have hm : PostsBlank s { s with meter := s.meter.addRead n } := .of_eq rfl rfl
      exact hm.trans ((postsBlank_openStream _ a _).trans (postsBlank_repostAccept _ i _))
  · exact postsBlank_repostAccept s i _
  · split
    · exact postsBlank_repostAccept s i _
    · exact postsBlank_dropAccept s i _

theorem postsBlank_receiveCompleted (h : op.capacity ≤ s.pool.bufferSize) (i : EndpointId)
    (result : Except IoError Nat) : PostsBlank s (s.receiveCompleted i op result) := by
  have hfinish := postsBlank_finish s i
  refine hfinish.trans ?_
  rw [← hfinish.bufferSize] at h
  unfold receiveCompleted
  generalize s.modifyLink i Link.finish = s at h
  dsimp only
  split
  · exact postsBlank_dropAccept s i op
  · next t _ =>
    have hact (meter : Meter) : PostsBlank s
        ((act { s with meter } i (Link.received op t result)).retire i).2 := by
      have hm : PostsBlank s { s with meter } := .of_eq rfl rfl
      exact hm.trans ((postsBlank_act (Link.postsBlank_received h t result)).trans
        (postsBlank_retire _ i))
    split
    · exact hact _
    · exact hact s.meter

theorem postsBlank_sendCompleted (s : Server) (i : EndpointId) (op : Operation)
    (result : Except IoError Nat) : PostsBlank s (s.sendCompleted i op result) := by
  refine (postsBlank_finish s i).trans ?_
  unfold sendCompleted
  generalize s.modifyLink i Link.finish = s
  dsimp only
  have hact (meter : Meter) : PostsBlank s
      ((act { s with meter } i (Link.sent op result)).retire i).2 := by
    have hm : PostsBlank s { s with meter } := .of_eq rfl rfl
    exact hm.trans ((postsBlank_act (Link.postsBlank_sent op result _)).trans
      (postsBlank_retire _ i))
  split
  · exact hact _
  · exact hact s.meter

theorem postsBlank_resume (s : Server) (i : EndpointId) : PostsBlank s (s.resume i) := by
  unfold resume
  split
  · exact (postsBlank_act (Link.postsBlank_settle_resume _)).trans (postsBlank_retire _ i)
  · exact .refl s

theorem postsBlank_resumeStarved (s : Server) (order : VisitingOrder) :
    PostsBlank s (s.resumeStarved order) := by
  have h0 : PostsBlank s { s with starved := .empty } := .of_eq rfl rfl
  exact h0.trans (postsBlank_foldl postsBlank_resume _ _)

theorem postsBlank_handle
    (h : c.operation.kind = .receive → c.operation.capacity ≤ s.pool.bufferSize)
    (order : VisitingOrder) : PostsBlank s (s.handle c order) := by
  unfold handle
  split
  · next i _ =>
    refine PostsBlank.trans ?_ (postsBlank_resumeStarved _ order)
    unfold complete
    split
    · exact postsBlank_acceptCompleted s i c
    · next hk => exact postsBlank_receiveCompleted (h hk) i c.result
    · exact postsBlank_sendCompleted s i c.operation c.result
  · exact postsBlank_release s c.operation

/-! ## Runs -/

theorem postsBlank_step {ev : ServerEvent} (h : ∀ c ∈ completions [ev],
    c.operation.kind = .receive → c.operation.capacity ≤ s.pool.bufferSize) :
    PostsBlank s (s.step ev) := by
  cases ev with
  | listen socket family => exact postsBlank_addEndpoint Link.postsBlank_postNewAccept _ _ _
  | bind socket family => exact postsBlank_addEndpoint Link.postsBlank_postNewReceive _ _ _
  | shutdown order => exact postsBlank_shutdown s order
  | refuse socket kind r =>
    exact postsBlank_modifySocket (f := (·.refuse kind r))
      (List.Perm.of_eq ((Socket.same_refuse _ kind r).lane .receive)).subset
  | complete socket i c order =>
    unfold step
    dsimp only
    split
    · next op k' ht =>
      have hback : PostsBlank s (s.modifySocket socket fun _ => k') :=
        postsBlank_modifySocket fun _ hx => (Socket.gaveBack_of_take? ht).mem_lane hx
      refine hback.trans (postsBlank_handle ?_ order)
      exact h c (List.mem_singleton_self c)
    · exact .refl s

theorem bufferSize_of_ofSettings (h : Server.ofSettings settings now = .ok s₀) :
    s₀.pool.bufferSize = settings.bufferSize := by
  have hc := check_of_ofSettings h
  unfold Server.ofSettings at h
  rw [hc] at h
  obtain rfl := Except.ok.inj h
  rfl

/-- The event gives an operation back with more capacity than it had when it was posted. -/
def Enlarges (s : Server) (ev : ServerEvent) : Prop :=
  ∃ socket i c order op k', ev = .complete socket i c order ∧
    (s.sockets.get socket).take? c.operation.kind i = some (op, k') ∧
    op.capacity < c.operation.capacity

/-- A receive that was posted blank comes back with no more capacity than a regular buffer has, unless
it was enlarged. -/
theorem Possible.capacity_le {ev : ServerEvent} {size : Nat} (hp : s.Possible ev)
    (hn : ¬ Enlarges s ev)
    (hb : ∀ k, ∀ op ∈ ((s.sockets.get k).lane .receive).inFlight, op.Blank size) :
    ∀ c ∈ completions [ev], c.operation.kind = .receive → c.operation.capacity ≤ size := by
  intro c hc hk
  cases ev with
  | complete socket i c' order =>
    obtain rfl := List.mem_singleton.1 hc
    obtain ⟨⟨op, k', ht, -⟩, -⟩ := hp
    have hop := (Socket.gaveBack_of_take? ht).op_mem_lane
    rw [hk] at hop
    rw [← (hb socket op hop).capacity]
    exact Nat.not_lt.1 fun hlt => hn ⟨socket, i, c, order, op, k', rfl, ht, hlt⟩
  | listen | bind | shutdown | refuse => cases hc

/-- Every receive in flight is blank, as long as no operation came back enlarged. -/
theorem Run.blank (h0 : Server.ofSettings settings now = .ok s₀) (h : Run s₀ evs s)
    (hn : ¬ Once s₀ evs Enlarges) : s.pool.bufferSize = settings.bufferSize ∧
      ∀ k, ∀ op ∈ ((s.sockets.get k).lane .receive).inFlight, op.Blank settings.bufferSize := by
  induction h with
  | start =>
    refine ⟨bufferSize_of_ofSettings h0, fun k op hop => ?_⟩
    rw [(eq_of_ofSettings h0).2.1, Table.get_blank] at hop
    cases hop
  | @snoc evs s ev hr hp ih =>
    obtain ⟨hsize, hblank⟩ := ih fun ho => hn (ho.append [ev])
    have hstep : PostsBlank s (s.step ev) :=
      postsBlank_step (hsize ▸ hp.capacity_le (fun he => hn (hr.once he)) hblank)
    refine ⟨hstep.bufferSize.trans hsize, fun k op hop => ?_⟩
    rcases hstep.receives k op hop with hold | hnew
    · exact hblank k op hold
    · exact hsize ▸ hnew

end Server

end OrderedEcho
