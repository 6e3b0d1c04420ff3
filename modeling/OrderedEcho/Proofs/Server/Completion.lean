import OrderedEcho.Proofs.Server.Acts

/-!
# Completions

An operation in flight belongs to a registered endpoint (`Sound.owner`), so its completion is
handled by that endpoint.  `Arrives` says which operation came back and how the book counts it, and
`Informs` what it tells.  `handled_handle` says that the server is sound again in the end.
-/

namespace OrderedEcho

/-- The operation as it comes back with its completion: the socket may have changed the buffer and
the peer. -/
structure Operation.ReturnsAs (op op' : Operation) : Prop where
  kind : op'.kind = op.kind
  endpoint : op'.endpoint = op.endpoint
  slot : op'.slot = op.slot

/-- What a completed receive says about its slot. -/
structure Ledger.Explains (L : Ledger) (kind : EndpointKind) (t : Slot) (c : Completion) :
    Prop where
  data : ∀ n, c.result = .ok n → (kind = .stream → n ≠ 0) →
    L.outcome t (.data (c.operation.truncate n).becomeSend)
  ended : c.result = .ok 0 → kind = .stream → L.outcome t .skip
  failed : ∀ e, c.result = .error e → kind = .datagram → L.outcome t .skip

/-- What an accept says about slot 0 of the connection that it delivers. -/
structure Ledger.Opens (L : Ledger) (p : Pool) (data : List UInt8) : Prop where
  data : ∀ op : Operation, op.payload = data → p.exhausted? = none → L.outcome 0 (.data op)
  lost : p.exhausted?.isSome → L.outcome 0 .skip

/-- The connection that a completion delivers. -/
def Completion.delivered? (c : Completion) : Option Accepted :=
  match c.operation.kind, c.result with
  | .accept, .ok _ => c.accepted
  | _, _ => none

namespace Server

variable {B B' : Book} {busy : List EndpointId} {held : Nat} {s s' : Server} {i : EndpointId}
  {socket : SocketId} {kind : OperationKind} {op : Operation} {k' : Socket} {c : Completion}

theorem Sound.outstanding_pos (h : Sound B busy held s) (hi : i < s.directory.nextId)
    (hop : op ∈ ((s.sockets.get (s.endpoints.get i).socket).lane kind).inFlight) :
    0 < (s.endpoints.get i).outstanding := by
  refine Nat.pos_of_ne_zero fun h0 => ?_
  rw [(h.endpoint hi).lifecycle.outstanding] at h0
  rw [Socket.lane_eq_nil_of_length h0] at hop
  cases hop

theorem Sound.owner (h : Sound B busy held s) (hop : op ∈ ((s.sockets.get socket).lane kind).inFlight) :
    ∃ i, i ∈ s.directory.ids ∧ (s.endpoints.get i).socket = socket ∧ op.RunsAs kind i := by
  by_cases ho : ∀ i < s.directory.nextId, (s.endpoints.get i).socket ≠ socket
  · rw [h.unowned socket ho] at hop
    cases hop
  · push Not at ho
    obtain ⟨i, hi, rfl⟩ := ho
    have hl := h.endpoint hi
    refine ⟨i, (h.mem_ids i).2 ⟨hi, ?_⟩, rfl, h.id_eq i hi ▸ hl.routed kind op hop⟩
    by_contra hd
    have h0 := hl.lifecycle.settled (by simpa using hd)
    exact absurd h0 (Nat.ne_of_gt (h.outstanding_pos hi hop))

/-- The operation `op` of endpoint `i` comes back with the completion `c`. -/
structure Arrives (B B' : Book) (s : Server) (socket : SocketId) (i : EndpointId) (op : Operation)
    (k' : Socket) (c : Completion) : Prop where
  back : (s.sockets.get socket).GaveBack op.kind op k'
  returns : op.ReturnsAs c.operation
  registered : i ∈ s.directory.ids
  owner : (s.endpoints.get i).socket = socket
  runs : op.RunsAs op.kind i
  other : ∀ info k, info.id ≠ i → (B info k).Extends (B' info k)
  own : ∀ info, info.id = i → (B info socket).Counts (B' info socket) op

/-- The server when the completion is about to be handled. -/
def finishing (s : Server) (socket : SocketId) (k' : Socket) (i : EndpointId) : Server :=
  (s.modifySocket socket fun _ => k').modifyLink i Link.finish

theorem link_finishing (s : Server) (k' : Socket) (i : EndpointId) :
    (s.finishing (s.endpoints.get i).socket k' i).link i =
      ⟨(s.endpoints.get i).finish, k', s.pool⟩ := by
  unfold finishing
  rw [link_modifyLink]
  unfold link modifySocket
  dsimp only
  rw [Table.get_set_self]
  rfl

theorem Arrives.touches (h : Arrives B B' s socket i op k' c) :
    Touches i s (s.finishing socket k' i) := by
  obtain rfl := h.owner
  have ht : Touches i s (s.modifySocket (s.endpoints.get i).socket fun _ => k') := by
    refine ⟨rfl, fun _ _ => rfl, fun k hk => Table.get_set_of_ne _ _ (Ne.symm hk), ?_⟩
    unfold link modifySocket
    dsimp only
    rw [Table.get_set_self]
    exact ⟨rfl, rfl, rfl, id, id, h.back.history ▸ List.prefix_rfl, rfl⟩
  exact ht.trans (touches_modifyLink ⟨rfl, rfl, rfl, id, id, List.prefix_rfl, rfl⟩)

theorem Arrives.sound (h : Arrives B B' s socket i op k' c) (hs : Sound B [] held s) :
    Link.Sound (B'.of (s.endpoints.get i)) (s.endpoints.get i).finish k' op.due false := by
  have hi := hs.lt_nextId h.registered
  have hown := h.own (s.endpoints.get i).toEndpointInfo (hs.id_eq i hi)
  obtain rfl := h.owner
  exact (hs.endpoint hi).gaveBack h.back hown

/-- The operation is no longer in flight, so the act that handles its completion holds it. -/
theorem Arrives.funded (h : Arrives B B' s socket i op k' c) (hs : Sound B [] held s) :
    Link.Funded (s.loadBut i) ⟨(s.endpoints.get i).finish, k', s.pool⟩ (held + 1) := by
  have hf := hs.funds.link (hs.lt_nextId h.registered)
  obtain rfl := h.owner
  refine hf.shift rfl ?_
  unfold link Link.load
  dsimp only [Endpoint.finish]
  rw [h.back.length_inFlight]
  omega

/-- A completed accept or send owes no slot. -/
theorem Arrives.sound_finishing (h : Arrives B B' s socket i op k' c) (hs : Sound B [] held s)
    (hk : op.kind ≠ .receive) : Sound B' [i] (held + 1) (s.finishing socket k' i) := by
  have hl := h.sound hs
  have hf := h.funded hs
  rw [Operation.due_of_ne hk] at hl
  refine (hs.weaken i).touch h.touches (hs.lt_nextId h.registered) h.other ?_ ?_
  all_goals
    obtain rfl := h.owner
    rw [link_finishing]
  · exact hl
  · exact hf

theorem Arrives.lt_nextId (h : Arrives B B' s socket i op k' c) (hs : Sound B [] held s) :
    i < (s.finishing socket k' i).directory.nextId := by
  rw [h.touches.directory]
  exact hs.lt_nextId h.registered

/-! ## Sends and receives -/

theorem later_sendCompleted (h : Arrives B B' s socket i op k' c) (hs : Sound B [] held s)
    (hk : op.kind = .send) (result : Except IoError Nat) :
    Later B' [] held s
      ((s.modifySocket socket fun _ => k').sendCompleted i c.operation result) := by
  have hf := h.sound_finishing hs (by rw [hk]; decide)
  have hi := h.lt_nextId hs
  have hg := h.touches.grows
  cases result with
  | ok n =>
    have hm : Later B' [i] (held + 1) _ { s.finishing socket k' i with
        meter := (s.finishing socket k' i).meter.addSent n } := later_of_eq hf rfl rfl rfl rfl
    exact .trans (hg.trans hm.grows)
      (later_act hm.sound hi (Link.path_sent c.operation (.ok n)))
  | error e => exact .trans hg (later_act hf hi (Link.path_sent c.operation (.error e)))

/-- The act of receiving begins with the slot of the receive owed, and fills it. -/
theorem Arrives.path_received (h : Arrives B B' s socket i op k' c) (hs : Sound B [] held s)
    {t : Slot} (ht : op.slot = some t)
    (hx : (B'.of (s.endpoints.get i)).Explains (s.endpoints.get i).kind t c) :
    Link.Path (B'.of (s.endpoints.get i)).outcome
      ⟨⟨(s.endpoints.get i).finish, k', s.pool⟩, [t], held + 1, false⟩
      ⟨(Link.received c.operation t c.result ⟨(s.endpoints.get i).finish, k', s.pool⟩).2, [], held,
        false⟩ := by
  have hid : (s.endpoints.get i).id = i := hs.id_eq i (hs.lt_nextId h.registered)
  have hsends (n : Nat) :
      (c.operation.truncate n).becomeSend.SendsFor (s.endpoints.get i).id t := by
    rw [hid]
    exact ⟨rfl, h.returns.endpoint.trans h.runs.endpoint, h.returns.slot.trans ht⟩
  refine Link.path_received (fun n hr hn => ⟨fun op' ho => ?_, Or.inl (hx.data n hr hn)⟩)
    (fun hr hn => ⟨nofun, Or.inl (hx.ended hr hn)⟩)
    (fun e hr hn => ⟨nofun, Or.inl (hx.failed e hr hn)⟩) (h.sound hs).lifecycle.graceful
  obtain rfl := Entry.data.inj ho
  exact hsends n

theorem later_receiveCompleted (h : Arrives B B' s socket i op k' c) (hs : Sound B [] held s)
    {t : Slot} (hk : op.kind = .receive) (ht : op.slot = some t)
    (hx : (B'.of (s.endpoints.get i)).Explains (s.endpoints.get i).kind t c) :
    Later B' [] held s
      ((s.modifySocket socket fun _ => k').receiveCompleted i c.operation c.result) := by
  have hact (s₁ : Server) (hg : Touches i s s₁)
      (hlink : s₁.link i = ⟨(s.endpoints.get i).finish, k', s.pool⟩) :
      Later B' [] held s ((s₁.act i (Link.received c.operation t c.result)).retire i).2 := by
    have hp := hlink ▸ h.path_received hs ht hx
    have hg := hg.trans (touches_act (.path hp))
    have hf := hlink ▸ h.funded hs
    refine later_touch (hs.weaken i) hg (hs.lt_nextId h.registered) h.other ?_ ?_
    · rw [LinkSound, B'.of_grows hg.link, link_act]
      refine Link.Sound.path hp ?_
      rw [hlink, ← Operation.due_of_receive hk ht]
      exact h.sound hs
    · rw [link_act]
      exact .path hp hf
  have hlink : (s.finishing socket k' i).link i = ⟨(s.endpoints.get i).finish, k', s.pool⟩ :=
    h.owner ▸ link_finishing s k' i
  unfold receiveCompleted
  dsimp only
  rw [h.returns.slot.trans ht]
  dsimp only
  split
  · exact hact _ (h.touches.trans (.of_eq rfl rfl rfl rfl)) hlink
  · exact hact _ h.touches hlink

/-! ## Accepts -/

theorem Fresh.of_touches (hf : Fresh s socket) (ht : Touches i s s') (hi : i < s.directory.nextId) :
    Fresh s' socket := by
  refine ⟨fun j hj => ?_, ?_⟩
  · rw [ht.directory] at hj
    rw [(ht.lift ht.link.endpoint .refl j).socket]
    exact hf.1 j hj
  · rw [ht.sockets socket (Ne.symm (hf.1 i hi))]
    exact hf.2

theorem Grows.not_fresh (h : Grows s s') (hf : ¬ Fresh s socket) : ¬ Fresh s' socket := by
  refine fun hf' => hf ⟨fun j hj => ?_, ?_⟩
  · rw [← (h.endpoint j hj).socket]
    exact hf'.1 j (Nat.lt_of_lt_of_le hj h.nextId)
  · exact List.prefix_nil.1 (hf'.2 ▸ h.history socket)

/-- Closing a socket without an endpoint changes nothing for the endpoints. -/
theorem later_closeFresh (h : Sound B busy held s) (hf : Fresh s socket) :
    Later B busy held s (s.modifySocket socket .close) ∧
      .close ∈ ((s.modifySocket socket .close).sockets.get socket).history := by
  have hlane (kind : OperationKind) := lift_modifySocket
    (motive := fun k k' => (k'.lane kind).inFlight = (k.lane kind).inFlight) (f := Socket.close)
    (fun k => k.inFlight_lane_close kind) (fun _ => rfl) s socket
  have hhist := lift_modifySocket (motive := fun k k' => k.history <+: k'.history)
    (f := Socket.close) (fun _ => List.prefix_append _ _) (fun _ => List.prefix_rfl) s socket
  have horderly := lift_modifySocket (motive := fun k k' => k.Orderly → k'.Orderly)
    (f := Socket.close) (fun _ => Socket.Orderly.close) (fun _ => id) s socket
  refine ⟨⟨h.congr rfl rfl rfl (fun j hj => ?_) (fun k kind => hlane kind k) horderly,
    Nat.le_refl _, fun _ _ => .refl _, hhist, rfl⟩, ?_⟩
  · rw [modifySocket, Table.get_set_of_ne _ _ (Ne.symm (hf.1 j hj))]
    exact ⟨rfl, rfl, fun _ => rfl⟩
  · rw [modifySocket, Table.get_set_self]
    exact List.mem_append_right _ List.mem_cons_self

theorem later_dropAccept (h : Sound B (i :: busy) (held + 1) s) (hi : i < s.directory.nextId)
    (op : Operation) : Later B busy held s (s.dropAccept i op) := by
  have hr := later_release h op
  exact .trans hr.grows (later_retire hr.sound hi)

theorem later_repostAccept (h : Sound B (i :: busy) (held + 1) s) (hi : i < s.directory.nextId)
    (op : Operation) : Later B busy held s (s.repostAccept i op) :=
  later_modifyLink h hi (Link.path_postAccept op)

/-- The entry of slot 0 carries the data of the accept, unless no operation is left. -/
theorem justifies_acceptEntry {l : Link} {L : Ledger} {data : List UInt8}
    (h : L.Opens l.pool data) :
    (l.acceptEntry data).2.Justifies L.outcome 0 (l.acceptEntry data).1 := by
  unfold Link.acceptEntry
  split
  · next op pool ha =>
    refine ⟨fun op' ho => ?_, Or.inl (h.data _ rfl (Pool.exhausted?_of_allocate ha))⟩
    obtain rfl := Entry.data.inj ho
    have hk : op.kind = .send := Pool.kind_of_allocate ha
    exact ⟨hk, rfl, rfl⟩
  · next e ha =>
    refine ⟨nofun, Or.inl (h.lost ?_)⟩
    rw [Pool.allocate_eq_error_iff.1 ha]
    rfl

/-- A stream is registered, acts for the first time, and is retired at once if it has closed. -/
theorem openStream_eq (hs : s.shuttingDown = false) (a : Accepted) (data : List UInt8) :
    (s.openStream a data).2 = (((s.registered .stream a.peer.family (some a.peer) a.socket).act
      s.directory.nextId (Link.welcome data s.settings.fanOut)).retire s.directory.nextId).2 := by
  have hdown : (s.registered .stream a.peer.family (some a.peer) a.socket).shuttingDown = false := hs
  unfold openStream
  rw [register_eq]
  dsimp only
  rw [hdown]
  rfl

theorem later_openStream (h : Sound B busy held s) {a : Accepted} (hf : Fresh s a.socket)
    (hs : s.shuttingDown = false) {data : List UInt8}
    (ho : (B ⟨s.directory.nextId, .stream, a.peer.family, some a.peer⟩ a.socket).Opens s.pool
      data) :
    Later B busy held s (s.openStream a data).2 ∧ Owned (s.openStream a data).2 a.socket := by
  obtain ⟨s₁, hs₁⟩ : ∃ s₁, s.registered .stream a.peer.family (some a.peer) a.socket = s₁ :=
    ⟨_, rfl⟩
  have hpool : (s₁.link s.directory.nextId).pool = s.pool := by rw [← hs₁, link_registered]
  have hj := justifies_acceptEntry (hpool ▸ ho)
  have hp : Link.Path _ ⟨s₁.link s.directory.nextId, [0], held, false⟩ ⟨_, [], held, false⟩ :=
    Link.path_welcome hj s.settings.fanOut
  have ht : Touches s.directory.nextId (s.registered .stream a.peer.family (some a.peer) a.socket)
      (s₁.act s.directory.nextId (Link.welcome data s.settings.fanOut)) := by
    rw [hs₁]
    exact touches_act (.path hp)
  have ha := (adds_registered s .stream a.peer.family (some a.peer) a.socket).trans ht
  obtain ⟨hl, howned⟩ := later_register h hf ht (by rw [hs₁, link_act]; exact hp)
  have hr := later_retire hl.sound (ha.nextId ▸ Nat.lt_succ_self _)
  rw [openStream_eq hs, hs₁]
  exact ⟨.trans hl.grows hr, hr.grows.owned howned⟩

/-- An accepted connection gets a socket of its own, and slot 0 for the data of the accept. -/
structure Delivers (B : Book) (s : Server) (c : Completion) (a : Accepted) : Prop where
  fresh : Fresh s a.socket
  opens : (B ⟨s.directory.nextId, .stream, a.peer.family, some a.peer⟩ a.socket).Opens s.pool
    c.operation.payload

/-- The completion was handled.  The socket of a connection that it delivered has got an endpoint, or
it was closed because the listener or the server was closing. -/
structure Handled (B : Book) (held : Nat) (s : Server) (i : EndpointId) (c : Completion)
    (s' : Server) : Prop extends Later B [] held s s' where
  placed : ∀ a, c.delivered? = some a → Owned s' a.socket ∨
    ((s.endpoints.get i).closing ∨ s.shuttingDown) ∧ .close ∈ (s'.sockets.get a.socket).history

theorem delivered?_of_ok {n : Nat} (hk : c.operation.kind = .accept) (hr : c.result = .ok n) :
    c.delivered? = c.accepted := by
  unfold Completion.delivered?
  rw [hk, hr]

theorem delivered?_of_error {e : IoError} (hr : c.result = .error e) : c.delivered? = none := by
  unfold Completion.delivered?
  rw [hr]
  cases c.operation.kind <;> rfl

theorem delivered?_of_ne (h : c.operation.kind ≠ .accept) : c.delivered? = none := by
  unfold Completion.delivered?
  split
  · next hk _ => exact absurd hk h
  · rfl

theorem handled_acceptCompleted (h : Arrives B B' s socket i op k' c) (hs : Sound B [] held s)
    (hk : op.kind = .accept) (hd : ∀ a, c.delivered? = some a → Delivers B' s c a) :
    Handled B' held s i c ((s.modifySocket socket fun _ => k').acceptCompleted i c) := by
  have hf := h.sound_finishing hs (by rw [hk]; decide)
  have hi := h.lt_nextId hs
  have hg := h.touches.grows
  have hkind : c.operation.kind = .accept := h.returns.kind.trans hk
  have hclosing : ((s.finishing socket k' i).endpoints.get i).closing =
      (s.endpoints.get i).closing := by
    obtain rfl := h.owner
    exact congrArg (·.endpoint.closing) (link_finishing s k' i)
  unfold acceptCompleted
  dsimp only
  split
  · next n a hr ha =>
    have ha : c.delivered? = some a := (delivered?_of_ok hkind hr).trans ha
    have hfresh := (hd a ha).fresh.of_touches h.touches (hs.lt_nextId h.registered)
    have hone {b : Accepted} (hb : c.delivered? = some b) : b = a :=
      Option.some.inj (hb.symm.trans ha)
    split
    · next hclosed =>
      obtain ⟨hc, hm⟩ := later_closeFresh hf hfresh
      have hl := later_dropAccept hc.sound hi c.operation
      refine ⟨.trans (hg.trans hc.grows) hl, fun b hb => Or.inr ⟨hclosing ▸ hclosed, ?_⟩⟩
      rw [hone hb]
      exact (hl.grows.history a.socket).subset hm
    · next hopen =>
      have hm : Later B' [i] (held + 1) _ { s.finishing socket k' i with
          meter := (s.finishing socket k' i).meter.addRead n } := later_of_eq hf rfl rfl rfl rfl
      have hdown : (s.finishing socket k' i).shuttingDown = false :=
        Bool.eq_false_iff.2 fun hd => hopen (Or.inr hd)
      obtain ⟨ho, howned⟩ := later_openStream hm.sound hfresh hdown (hd a ha).opens
      have hl := later_repostAccept ho.sound (Nat.lt_of_lt_of_le hi ho.grows.nextId) c.operation
      refine ⟨.trans (hg.trans (hm.grows.trans ho.grows)) hl, fun b hb => Or.inl ?_⟩
      rw [hone hb]
      exact hl.grows.owned howned
  · next hr ha =>
    have hnone : c.delivered? = none := (delivered?_of_ok hkind hr).trans ha
    exact ⟨.trans hg (later_repostAccept hf hi c.operation), by rw [hnone]; exact nofun⟩
  · next e hr =>
    have hnone := delivered?_of_error hr
    split
    · exact ⟨.trans hg (later_repostAccept hf hi c.operation), by rw [hnone]; exact nofun⟩
    · exact ⟨.trans hg (later_dropAccept hf hi c.operation), by rw [hnone]; exact nofun⟩

/-! ## Handling -/

/-- What the completion of `op` tells, by the kind of the operation. -/
structure Informs (B : Book) (s : Server) (i : EndpointId) (op : Operation) (c : Completion) :
    Prop where
  receive : op.kind = .receive → ∀ t, op.slot = some t →
    (B.of (s.endpoints.get i)).Explains (s.endpoints.get i).kind t c
  accept : ∀ a, c.delivered? = some a → Delivers B s c a

theorem handled_complete (h : Arrives B B' s socket i op k' c) (hs : Sound B [] held s)
    (hc : Informs B' s i op c) :
    Handled B' held s i c ((s.modifySocket socket fun _ => k').complete i c) := by
  have hnone (hk : op.kind ≠ .accept) (a : Accepted) : c.delivered? ≠ some a := by
    rw [delivered?_of_ne (h.returns.kind ▸ hk)]
    exact nofun
  unfold complete
  rw [h.returns.kind]
  split
  · next hk => exact handled_acceptCompleted h hs hk hc.accept
  · next hk =>
    obtain ⟨t, ht⟩ := Option.isSome_iff_exists.1 (h.runs.slot hk)
    exact ⟨later_receiveCompleted h hs hk ht (hc.receive hk t ht),
      fun a ha => absurd ha (hnone (by rw [hk]; decide) a)⟩
  · next hk =>
    exact ⟨later_sendCompleted h hs hk c.result,
      fun a ha => absurd ha (hnone (by rw [hk]; decide) a)⟩

/-- The completion finds its endpoint. -/
theorem Arrives.endpoint_filter (h : Arrives B B' s socket i op k' c) :
    c.operation.endpoint.filter s.directory.contains = some i := by
  rw [h.returns.endpoint, h.runs.endpoint]
  exact Option.filter_eq_some_iff.2 ⟨rfl, Directory.contains_iff.2 h.registered⟩

/-- The endpoint handles the completion, and afterwards the starved endpoints try again. -/
theorem Arrives.handle_eq (h : Arrives B B' s socket i op k' c) (order : VisitingOrder) :
    (s.modifySocket socket fun _ => k').handle c order =
      ((s.modifySocket socket fun _ => k').complete i c).resumeStarved order := by
  have hi : c.operation.endpoint.filter
      (s.modifySocket socket fun _ => k').directory.contains = some i := h.endpoint_filter
  unfold handle
  rw [hi]

theorem handled_handle (h : Arrives B B' s socket i op k' c) (hs : Sound B [] held s)
    (hc : Informs B' s i op c) (order : VisitingOrder) :
    Handled B' held s i c ((s.modifySocket socket fun _ => k').handle c order) := by
  rw [h.handle_eq]
  have hl := handled_complete h hs hc
  have hr := later_resumeStarved hl.sound order
  refine ⟨.trans hl.grows hr, fun a ha => ?_⟩
  exact (hl.placed a ha).imp hr.grows.owned fun hx => ⟨hx.1, (hr.grows.history _).subset hx.2⟩

/-- A failed send is fatal for its endpoint, except on a datagram socket. -/
theorem Arrives.aborted (h : Arrives B B' s socket i op k' c) (hs : Sound B [] held s)
    (hk : op.kind = .send) (hkind : (s.endpoints.get i).kind ≠ .datagram) {x : IoError}
    (hx : c.result = .error x) (order : VisitingOrder) :
    (((s.modifySocket socket fun _ => k').handle c order).endpoints.get i).aborted := by
  obtain ⟨s₁, hs₁⟩ : ∃ s₁, (s.finishing socket k' i).act i (Link.sent c.operation (.error x)) = s₁ :=
    ⟨_, rfl⟩
  have hcomplete : (s.modifySocket socket fun _ => k').complete i c = (s₁.retire i).2 := by
    unfold complete
    rw [h.returns.kind, hk, hx, ← hs₁]
    rfl
  have haborted : (s₁.link i).endpoint.aborted := by
    have he : ((s.finishing socket k' i).link i).endpoint.kind ≠ .datagram := by
      obtain rfl := h.owner
      rwa [link_finishing]
    rw [← hs₁, link_act]
    exact Link.aborted_sent he c.operation x
  have hi : i < s₁.directory.nextId := by
    rw [← hs₁, directory_act]
    exact h.lt_nextId hs
  have hg := grows_retire s₁ i
  have hl : Later B' [] held s (s₁.retire i).2 := hs₁ ▸ later_sendCompleted h hs hk (.error x)
  rw [h.handle_eq, hcomplete]
  exact ((hg.trans (later_resumeStarved hl.sound order).grows).endpoint i hi).aborted haborted

end Server

end OrderedEcho
