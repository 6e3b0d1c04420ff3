import OrderedEcho.Proofs.Link.Provision
import OrderedEcho.Proofs.Server.Completion

/-!
# What the acts of the server come to

The server handles a completion between `Link.finish` and `Server.retire`.  What it does there is
one of three things, which `Handles` lists: the endpoint acts, a connection is turned away, or a
stream is opened.  `handles_complete` follows the functions of the server through their branches, so
that whatever a completion keeps can be shown for these three.

`Acts` is what is known of the first: nothing but the endpoint and its socket changed, the endpoint
made up for the receive that came back, and it is starved if it has to wait for receives.

In the same way, `Joins` says what adding an endpoint comes to.
-/

namespace OrderedEcho

namespace Server

variable {B B' : Book} {busy : List EndpointId} {held n : Nat} {s s' : Server} {i : EndpointId}
  {socket : SocketId} {op : Operation} {k' : Socket} {c : Completion} {waits : Bool}
  {info : EndpointInfo} {post : Link → PostResult × Link}

/-- The endpoint `i` acted, and has `n` receives more unless it is closing. -/
structure Acts (i : EndpointId) (n : Nat) (waits : Bool) (s s' : Server) : Prop
    extends Touches i s s' where
  provides : Link.Provides n (s.link i) (waits, s'.link i)
  starved : s'.starved = if waits then s.starved.insert i else s.starved
  settings : s'.settings = s.settings
  shuttingDown : s'.shuttingDown = s.shuttingDown

theorem Acts.refl (i : EndpointId) (s : Server) : Acts i 0 false s s :=
  ⟨.refl i s, (Link.Spares.refl _).provides false, rfl, rfl, rfl⟩

/-- The endpoint acts after the meter has counted. -/
theorem acts_act {f : Link → Bool × Link} (meter : Meter)
    (h : Link.Provides n (s.link i) (f (s.link i))) :
    Acts i n (f (s.link i)).1 s (act { s with meter } i f) := by
  have ht : Touches i { s with meter } (act { s with meter } i f) := touches_act h.grows
  refine ⟨⟨ht.directory, ht.endpoint, ht.sockets, ht.link⟩, ?_, ?_, ?_, ?_⟩
  · rw [link_act]
    exact h
  all_goals
    unfold act
    dsimp only
    split <;> first | rfl | exact (if_pos ‹_›).symm | exact (if_neg ‹_›).symm

theorem acts_modifyLink {f : Link → Link} (h : Link.Spares (s.link i) (f (s.link i))) :
    Acts i 0 false s (s.modifyLink i f) := by
  refine ⟨touches_modifyLink h.toGrows, ?_, rfl, rfl, rfl⟩
  rw [link_modifyLink]
  exact h.provides false

theorem acts_release (i : EndpointId) (s : Server) (op : Operation) :
    Acts i 0 false s (s.release op) :=
  ⟨.of_eq rfl rfl rfl (Pool.limit_release _ _), (Link.spares_release _ op).provides false, rfl, rfl,
    rfl⟩

theorem acts_resume (hd : (s.endpoints.get i).destroyed = false) :
    Acts i 0 (Link.settle (s.link i).resume).1 s (s.act i fun l => Link.settle l.resume) :=
  acts_act (f := fun l => Link.settle l.resume) s.meter (Link.provides_settle_resume hd)

/-- Retrying the receives of an endpoint does nothing, unless it is registered and receives are owed
to it. -/
theorem Sound.resume_cases (hs : Sound B busy held s) (i : EndpointId) :
    (¬ (i ∈ s.directory.ids ∧ (s.endpoints.get i).deferred ≠ 0) ∧ s.resume i = s) ∨
    ∃ s', i ∈ s.directory.ids ∧ (s.endpoints.get i).deferred ≠ 0 ∧
      Acts i 0 (Link.settle (s.link i).resume).1 s s' ∧
      s'.link i = (Link.settle (s.link i).resume).2 ∧ s.resume i = (s'.retire i).2 := by
  unfold resume
  by_cases hc : s.directory.contains i ∧ (s.endpoints.get i).deferred ≠ 0
  · have hi := Directory.contains_iff.1 hc.1
    rw [if_pos hc]
    refine Or.inr ⟨_, hi, hc.2, acts_resume ((hs.mem_ids i).1 hi).2, ?_, rfl⟩
    exact link_act s i fun l => Link.settle l.resume
  · rw [if_neg hc]
    exact Or.inl ⟨fun hn => hc ⟨Directory.contains_iff.2 hn.1, hn.2⟩, rfl⟩

@[simp] theorem Sound.nextId_resume (hs : Sound B busy held s) (i : EndpointId) :
    (s.resume i).directory.nextId = s.directory.nextId := by
  obtain ⟨-, h⟩ | ⟨s', -, -, ha, -, h⟩ := hs.resume_cases i
  · rw [h]
  · rw [h, nextId_retire, ha.directory]

theorem Sound.nextId_foldl_resume (hs : Sound B [] held s) (ids : List EndpointId) :
    (ids.foldl resume s).directory.nextId = s.directory.nextId :=
  hs.foldl_resume (P := fun s' => s'.directory.nextId = s.directory.nextId) rfl
    (fun _ i hs' h => (hs'.nextId_resume i).trans h) ids

theorem tookAll_of_retire (ht : ∀ k, ((s.retire i).2.sockets.get k).TookAll) (j : EndpointId) :
    (s.link j).socket.TookAll := (ht _).earlier ((grows_retire s i).history _)

/-- The other endpoints and their sockets are left alone. -/
theorem Sound.resume_of_ne (hs : Sound B busy held s) (hj : j < s.directory.nextId) (hji : j ≠ i) :
    (s.resume i).endpoints.get j = s.endpoints.get j ∧
      (s.resume i).sockets.get (s.endpoints.get j).socket =
        s.sockets.get (s.endpoints.get j).socket := by
  obtain ⟨-, h⟩ | ⟨s', hi, -, ha, -, h⟩ := hs.resume_cases i
  · rw [h]
    exact ⟨rfl, rfl⟩
  · have hne := hs.socket_ne (hs.lt_nextId hi) hj hji
    rw [h, endpoint_retire_of_ne s' hji, socket_retire_of_ne s' (ha.socket_eq.symm ▸ hne)]
    exact ⟨ha.endpoint j hji, ha.sockets _ hne⟩

/-- What handling the completion comes to before the endpoint is retired. -/
inductive Handles (s : Server) (i : EndpointId) (c : Completion) : Server → Prop
  | acts {waits : Bool} {s' : Server} (h : Acts i c.operation.kind.vacancies waits s s') :
      Handles s i c s'
  | turnsAway {a : Accepted} (ha : c.delivered? = some a)
      (hc : (s.endpoints.get i).closing ∨ s.shuttingDown) :
      Handles s i c ((s.modifySocket a.socket .close).release c.operation)
  | opens {a : Accepted} (meter : Meter) (ha : c.delivered? = some a)
      (ho : ¬ ((s.endpoints.get i).closing ∨ s.shuttingDown)) :
      Handles s i c ((openStream { s with meter } a c.operation.payload).2.modifyLink i
        fun l => (l.postAccept c.operation).2)

theorem handles_acceptCompleted (hk : c.operation.kind = .accept) :
    ∃ s', Handles (s.modifyLink i Link.finish) i c s' ∧
      s.acceptCompleted i c = (s'.retire i).2 := by
  have hv : c.operation.kind.vacancies = 0 := by rw [hk]; rfl
  have hrepost : Handles (s.modifyLink i Link.finish) i c ((s.modifyLink i Link.finish).modifyLink i
      fun l => (l.postAccept c.operation).2) :=
    .acts (hv ▸ acts_modifyLink (Link.spares_postAccept _ _))
  unfold acceptCompleted
  dsimp only
  split
  · next n a hr ha =>
    have ha : c.delivered? = some a := (delivered?_of_ok hk hr).trans ha
    split
    · next hc => exact ⟨_, .turnsAway ha hc, rfl⟩
    · next ho => exact ⟨_, .opens _ ha ho, rfl⟩
  · exact ⟨_, hrepost, rfl⟩
  · split
    · exact ⟨_, hrepost, rfl⟩
    · exact ⟨_, .acts (hv ▸ acts_release i _ c.operation), rfl⟩

/-- Every receive has a slot, so a completed one is answered. -/
theorem handles_receiveCompleted (hd : (s.endpoints.get i).destroyed = false)
    (hk : c.operation.kind = .receive) (ht : c.operation.slot.isSome) :
    ∃ s', Handles (s.modifyLink i Link.finish) i c s' ∧
      s.receiveCompleted i c.operation c.result = (s'.retire i).2 := by
  obtain ⟨t, ht⟩ := Option.isSome_iff_exists.1 ht
  have hact (meter : Meter) := acts_act (f := Link.received c.operation t c.result) meter
    (Link.provides_received (l := (s.modifyLink i Link.finish).link i)
      (by rw [link_modifyLink]; exact hd) c.operation t c.result)
  have hv : c.operation.kind.vacancies = 1 := by rw [hk]; rfl
  unfold receiveCompleted
  dsimp only
  rw [ht]
  dsimp only
  split
  · exact ⟨_, .acts (hv ▸ hact _), rfl⟩
  · exact ⟨_, .acts (hv ▸ hact _), rfl⟩

theorem handles_sendCompleted (hd : (s.endpoints.get i).destroyed = false)
    (hk : c.operation.kind = .send) :
    ∃ s', Handles (s.modifyLink i Link.finish) i c s' ∧
      s.sendCompleted i c.operation c.result = (s'.retire i).2 := by
  have hact (meter : Meter) := acts_act (f := Link.sent c.operation c.result) meter
    (Link.provides_sent (l := (s.modifyLink i Link.finish).link i)
      (by rw [link_modifyLink]; exact hd) c.operation c.result)
  have hv : c.operation.kind.vacancies = 0 := by rw [hk]; rfl
  unfold sendCompleted
  dsimp only
  split
  · exact ⟨_, .acts (hv ▸ hact _), rfl⟩
  · exact ⟨_, .acts (hv ▸ hact _), rfl⟩

theorem handles_complete (hd : (s.endpoints.get i).destroyed = false)
    (ht : c.operation.kind = .receive → c.operation.slot.isSome) :
    ∃ s', Handles (s.modifyLink i Link.finish) i c s' ∧ s.complete i c = (s'.retire i).2 := by
  unfold complete
  split
  · next hk => exact handles_acceptCompleted hk
  · next hk => exact handles_receiveCompleted hd hk (ht hk)
  · next hk => exact handles_sendCompleted hd hk

theorem Arrives.handles (h : Arrives B B' s socket i op k' c) (hs : Sound B busy held s) :
    ∃ s', Handles (s.finishing socket k' i) i c s' ∧
      (s.modifySocket socket fun _ => k').complete i c = (s'.retire i).2 := by
  refine handles_complete ((hs.mem_ids i).1 h.registered).2 fun hk => ?_
  rw [h.returns.slot]
  exact h.runs.slot (h.returns.kind.symm.trans hk)

/-- An operation came back, and the act of its endpoint made up for it. -/
theorem Arrives.acts (h : Arrives B B' s socket i op k' c)
    (ha : Acts i op.kind.vacancies waits (s.finishing socket k' i) s') : Acts i 0 waits s s' := by
  refine ⟨h.touches.trans ha.toTouches, ?_, ha.starved, ha.settings, ha.shuttingDown⟩
  have hp := ha.provides
  obtain rfl := h.owner
  rw [link_finishing] at hp
  exact hp.gaveBack h.back

/-! ## New endpoints -/

/-- The first act of a stream gives it its share of receives. -/
theorem acts_welcome (s : Server) (a : Accepted) (data : List UInt8) :
    let s₁ := s.registered .stream a.peer.family (some a.peer) a.socket
    let f := Link.welcome data s.settings.fanOut
    Acts s.directory.nextId (s.pool.share s.settings.fanOut) (f (s₁.link s.directory.nextId)).1 s₁
      (s₁.act s.directory.nextId f) := by
  intro s₁ f
  have hlink : s₁.link s.directory.nextId = _ := link_registered s _ _ (some a.peer) a.socket
  have hp := Link.provides_welcome (l := s₁.link s.directory.nextId) (by rw [hlink]; rfl)
    (by rw [hlink]; rfl) (by rw [hlink]; rfl)
    (by rw [hlink]; exact ⟨Nat.le_refl 0, Nat.one_pos, nofun⟩) data s.settings.fanOut
  exact acts_act s₁.meter hp

/-- A new endpoint was registered by itself. -/
structure Enrolls (info : EndpointInfo) (socket : SocketId) (s s' : Server) : Prop
    extends Adds info socket s s' where
  starved : s'.starved = s.starved
  settings : s'.settings = s.settings

/-- What adding an endpoint comes to: it posted all its first operations, or it was closed again. -/
inductive Joins (s : Server) (info : EndpointInfo) (socket : SocketId)
    (post : Link → PostResult × Link) : Except PostError EndpointId × Server → Prop
  | joined {s' : Server} (ha : Enrolls info socket s s')
      (hl : Link.postMany post s.settings.fanOut
        ⟨.ofInfo info socket, s.sockets.get socket, s.pool⟩ = (none, s'.link info.id)) :
      Joins s info socket post (.ok info.id, s')
  | failed {s' : Server} (e : PostError) (ha : Enrolls info socket s s')
      (hc : (s'.endpoints.get info.id).closing)
      (hl : ∃ i l, Link.postMany post s.settings.fanOut
        ⟨.ofInfo info socket, s.sockets.get socket, s.pool⟩ = (some i, l) ∧
          s'.link info.id = l.close true) :
      Joins s info socket post (.error e, (s'.retire info.id).2)

theorem joins_addEndpoint (hpost : ∀ l : Link, l.endpoint.destroyed = false →
      Link.Grows l (Link.postMany post s.settings.fanOut l).2)
    (kind : EndpointKind) (family : AddressFamily) (socket : SocketId) :
    Joins s ⟨s.directory.nextId, kind, family, none⟩ socket post
      (s.addEndpoint kind family socket post) := by
  have hlink := link_registered s kind family none socket
  have hg := hpost ((s.registered kind family none socket).link s.directory.nextId)
    (by rw [hlink]; rfl)
  have henrolls {l : Link} (hl : Link.Grows
      ((s.registered kind family none socket).link s.directory.nextId) l) :
      Enrolls ⟨s.directory.nextId, kind, family, none⟩ socket s
        ((s.registered kind family none socket).setLink s.directory.nextId l) :=
    ⟨(adds_registered s kind family none socket).trans (touches_setLink hl), rfl, rfl⟩
  unfold addEndpoint
  rw [register_eq]
  dsimp only
  rw [show (s.registered kind family none socket).settings = s.settings from rfl]
  split
  · next l hl =>
    rw [hl] at hg
    refine .joined (henrolls hg) ?_
    rw [link_setLink, ← hlink]
    exact hl
  · next x l hl =>
    rw [hl] at hg
    refine .failed _ (henrolls (hg.trans (.close l true))) ?_ ⟨x, l, ?_, link_setLink _ _ _⟩
    · exact congrArg (·.endpoint.closing) (link_setLink _ _ (l.close true))
    · rw [← hlink]
      exact hl

theorem joins_addListener (s : Server) (socket : SocketId) (family : AddressFamily) :
    Joins s ⟨s.directory.nextId, .listener, family, none⟩ socket Link.postNewAccept
      (s.addListener socket family) :=
  joins_addEndpoint (fun l _ => (Link.spares_postMany Link.spares_postNewAccept _ l).toGrows) _ _ _

theorem joins_addDatagram (s : Server) (socket : SocketId) (family : AddressFamily) :
    Joins s ⟨s.directory.nextId, .datagram, family, none⟩ socket Link.postNewReceive
      (s.addDatagram socket family) :=
  joins_addEndpoint (fun _ hd => (Link.batch_postMany hd _).grows) _ _ _

variable {x : Except PostError EndpointId × Server}

theorem Joins.grows (hj : Joins s info socket post x) (hid : info.id = s.directory.nextId) :
    Grows s x.2 := by
  cases hj with
  | joined ha => exact ha.toAdds.grows hid
  | failed e ha => exact (ha.toAdds.grows hid).trans (grows_retire _ _)

theorem Joins.nextId (hj : Joins s info socket post x) :
    x.2.directory.nextId = s.directory.nextId + 1 := by
  cases hj with
  | joined ha => exact ha.nextId
  | failed e ha => exact (nextId_retire _ _).trans ha.nextId

theorem Joins.endpoint_of_ne (hj : Joins s info socket post x) {j : EndpointId}
    (hne : j ≠ info.id) : x.2.endpoints.get j = s.endpoints.get j := by
  cases hj with
  | joined ha => exact ha.endpoint j hne
  | failed e ha => exact (endpoint_retire_of_ne _ hne).trans (ha.endpoint j hne)

theorem Joins.socket_of_ne (hj : Joins s info socket post x) {k : SocketId} (hne : k ≠ socket) :
    x.2.sockets.get k = s.sockets.get k := by
  cases hj with
  | joined ha => exact ha.sockets k hne
  | @failed s' e ha =>
    have hsock : (s'.endpoints.get info.id).socket = socket := ha.link.socket
    exact (socket_retire_of_ne _ (hsock.symm ▸ hne)).trans (ha.sockets k hne)

/-- Nobody has to wait because of a new endpoint. -/
theorem Joins.starved_subset (hj : Joins s info socket post x) :
    x.2.starved.toList ⊆ s.starved.toList := by
  cases hj with
  | joined ha => exact ha.starved ▸ List.Subset.refl _
  | @failed s' e ha =>
    rw [← ha.starved]
    exact starved_retire_subset s' info.id

end Server

end OrderedEcho
