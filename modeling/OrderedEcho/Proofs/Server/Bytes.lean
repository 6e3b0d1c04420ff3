import OrderedEcho.Proofs.CompletionOrder
import OrderedEcho.Proofs.Link.Bytes
import OrderedEcho.Proofs.Server.Failing

/-!
# The bytes of a server

The meter counts a byte when it is received, and again when it has been sent.  In between it is in
the backlog of its endpoint.  `Carries n m s s'` says that `n` bytes came into the backlogs and `m`
went out, and `Passes n m s s'` that the meter counted just these.

Bytes come with the completion of a receive or with a new stream, and they go with the completion of
a send (`Arrives.passes`).  Nothing else that happens moves any.
-/

namespace OrderedEcho

/-- The completion of `op` succeeded with `n` bytes.  Those of an accept or a receive are in its
payload, and a send has sent all that it had. -/
structure Completion.Moves (c : Completion) (op : Operation) (n : Nat) : Prop where
  result : c.result = .ok n
  accept : op.kind = .accept → c.accepted.isSome → n = c.operation.payload.length
  receive : op.kind = .receive → n ≤ c.operation.payload.length
  send : op.kind = .send → n = op.payload.length

namespace Server

variable {B B' : Book} {busy : List EndpointId} {held : Nat} {s s' s'' : Server} {i j : EndpointId}
  {socket : SocketId} {op : Operation} {k' : Socket} {c : Completion} {n m n' m' : Nat}
  {a : Accepted} {info : EndpointInfo} {post : Link → PostResult × Link}
  {x : Except PostError EndpointId × Server}

/-- The bytes that were received and have not been sent yet. -/
def backlog (s : Server) : Nat := ∑ i ∈ Finset.range s.directory.nextId, (s.link i).backlog

/-- No endpoint gave up. -/
def Unaborted (s : Server) : Prop := ∀ j < s.directory.nextId, (s.endpoints.get j).aborted = false

/-- No endpoint gave up, and of the bytes in the backlogs `n` are new and `m` have been sent. -/
structure Carries (n m : Nat) (s s' : Server) : Prop where
  unaborted : s'.Unaborted
  backlog : s'.backlog + m = s.backlog + n

theorem Carries.trans (h : Carries n m s s') (h' : Carries n' m' s' s'') :
    Carries (n + n') (m + m') s s'' := by
  have hb := h.backlog
  have hb' := h'.backlog
  exact ⟨h'.unaborted, by omega⟩

/-- Nothing was carried before. -/
theorem Carries.after (h : Carries n m s' s'') (h₀ : Carries 0 0 s s') : Carries n m s s'' :=
  ⟨h.unaborted, h.backlog.trans (congrArg (· + n) h₀.backlog)⟩

/-- The meter counted the bytes that came into the backlogs and those that went out. -/
structure Passes (n m : Nat) (s s' : Server) : Prop extends Carries n m s s' where
  read : s'.meter.read = s.meter.read + .ofNat n
  sent : s'.meter.sent = s.meter.sent + .ofNat m

theorem Passes.trans (h : Passes n m s s') (h' : Passes n' m' s' s'') :
    Passes (n + n') (m + m') s s'' := by
  refine ⟨h.toCarries.trans h'.toCarries, ?_, ?_⟩
  · rw [h'.read, h.read, UInt64.ofNat_add, UInt64.add_assoc]
  · rw [h'.sent, h.sent, UInt64.ofNat_add, UInt64.add_assoc]

theorem Carries.passes_of_addRead (h : Carries n 0 s s') (hm : s'.meter = s.meter.addRead n) :
    Passes n 0 s s' :=
  ⟨h, congrArg Meter.read hm, (congrArg Meter.sent hm).trans (UInt64.add_zero _).symm⟩

theorem Carries.passes_of_addSent (h : Carries 0 m s s') (hm : s'.meter = s.meter.addSent m) :
    Passes 0 m s s' :=
  ⟨h, (congrArg Meter.read hm).trans (UInt64.add_zero _).symm, congrArg Meter.sent hm⟩

theorem Carries.passes_of_meter (h : Carries 0 0 s s') (hm : s'.meter = s.meter) :
    Passes 0 0 s s' :=
  ⟨h, (congrArg Meter.read hm).trans (UInt64.add_zero _).symm,
    (congrArg Meter.sent hm).trans (UInt64.add_zero _).symm⟩

/-! ## Endpoints -/

theorem Keeps.carries (h : Keeps j s s') : Link.Carries 0 0 (s.link j) (s'.link j) := by
  unfold link
  dsimp only
  rw [h.endpoint, h.socket]
  exact Link.carries_of_eq rfl rfl rfl

theorem CatchesUp.carries {ops : List Operation} (h : CatchesUp j ops s s') :
    Link.Carries 0 0 (s.link j) (s'.link j) := by
  have hsocket : s'.sockets.get (s.endpoints.get j).socket = (s'.link j).socket := by
    rw [← h.socket_eq]
    rfl
  have hl : (s.link j).endpoint.CatchesUp (s.link j).socket ops (s'.link j).endpoint
      (s'.link j).socket := hsocket ▸ h.link
  exact Link.carries_catchesUp hl

theorem carries_retire (s : Server) (i j : EndpointId) :
    Link.Carries 0 0 (s.link j) ((s.retire i).2.link j) := by
  have hsocket := lift_retire (motive := fun e e' => e'.socket = e.socket) (fun _ => rfl)
    (fun _ => rfl) s i j
  have haborted := lift_retire (motive := fun e e' => e'.aborted = e.aborted) (fun _ => rfl)
    (fun _ => rfl) s i j
  have hpending := lift_retire (motive := fun e e' => e'.resequencer = e.resequencer)
    (fun _ => rfl) (fun _ => rfl) s i j
  refine Link.carries_of_eq haborted ?_ (congrArg Resequencer.pending hpending)
  show (((s.retire i).2.sockets.get _).lane .send).inFlight = _
  rw [hsocket, inFlight_retire]
  rfl

/-- The backlogs change by what each endpoint carries. -/
theorem sum_backlog {a b : EndpointId → Nat}
    (hc : ∀ j < s.directory.nextId, Link.Carries (a j) (b j) (s.link j) (s'.link j)) :
    ∑ j ∈ Finset.range s.directory.nextId, (s'.link j).backlog +
        ∑ j ∈ Finset.range s.directory.nextId, b j =
      s.backlog + ∑ j ∈ Finset.range s.directory.nextId, a j := by
  unfold backlog
  rw [← Finset.sum_add_distrib, ← Finset.sum_add_distrib]
  exact Finset.sum_congr rfl fun j hj => (hc j (Finset.mem_range.1 hj)).backlog

/-- One endpoint carries bytes. -/
theorem carries_of_link (hu : s.Unaborted) (hi : i < s.directory.nextId)
    (hn : s'.directory.nextId = s.directory.nextId)
    (hc : Link.Carries n m (s.link i) (s'.link i))
    (hk : ∀ j < s.directory.nextId, j ≠ i → Keeps j s s') : Carries n m s s' := by
  have hall : ∀ j < s.directory.nextId,
      Link.Carries (if j = i then n else 0) (if j = i then m else 0) (s.link j) (s'.link j) := by
    intro j hj
    split
    · next hji => exact hji ▸ hc
    · next hji => exact (hk j hj hji).carries
  refine ⟨fun j hj => (hall j (hn ▸ hj)).aborted.trans (hu j (hn ▸ hj)), ?_⟩
  have hsum := sum_backlog hall
  rw [Finset.sum_ite_eq', Finset.sum_ite_eq', if_pos (Finset.mem_range.2 hi),
    if_pos (Finset.mem_range.2 hi), ← hn] at hsum
  exact hsum

/-- No endpoint carries bytes. -/
theorem carries_of_links (hu : s.Unaborted) (hn : s'.directory.nextId = s.directory.nextId)
    (hc : ∀ j < s.directory.nextId, Link.Carries 0 0 (s.link j) (s'.link j)) :
    Carries 0 0 s s' := by
  refine ⟨fun j hj => (hc j (hn ▸ hj)).aborted.trans (hu j (hn ▸ hj)), ?_⟩
  have hsum := sum_backlog hc
  rw [Finset.sum_const_zero, ← hn] at hsum
  exact hsum

/-- A new endpoint begins with `n` bytes. -/
theorem carries_of_new (hu : s.Unaborted) (hn : s'.directory.nextId = s.directory.nextId + 1)
    (hk : ∀ j < s.directory.nextId, Keeps j s s')
    (ha : (s'.endpoints.get s.directory.nextId).aborted = false)
    (hb : (s'.link s.directory.nextId).backlog = n) : Carries n 0 s s' := by
  refine ⟨fun j hj => ?_, ?_⟩
  · rcases Nat.lt_succ_iff_lt_or_eq.1 (hn ▸ hj) with hlt | rfl
    · exact (hk j hlt).carries.aborted.trans (hu j hlt)
    · exact ha
  · have hsum := sum_backlog fun j hj => (hk j hj).carries
    rw [Finset.sum_const_zero] at hsum
    unfold backlog at hsum ⊢
    rw [hn, Finset.sum_range_succ, hb]
    omega

/-! ## Receives and sends -/

/-- A send that comes back has been sent. -/
theorem Arrives.carries_back (h : Arrives B B' s socket i op k' c) :
    Link.Carries 0 (if op.kind = .send then op.payload.length else 0) (s.link i)
      ((s.finishing socket k' i).link i) := by
  obtain rfl := h.owner
  rw [link_finishing]
  exact Link.carries_gaveBack h.back

/-- A receive brings its bytes. -/
theorem Arrives.carries_received (h : Arrives B B' s socket i op k' c) (hs : Sound B [] 0 s)
    (hk : op.kind = .receive) (hl : s.pool.limit = none) (ha : (s.endpoints.get i).aborted = false)
    (hm : c.Moves op n)
    (ht : ∀ k, (((s.modifySocket socket fun _ => k').complete i c).sockets.get k).TookAll) :
    Link.Carries n 0 (s.link i) (((s.modifySocket socket fun _ => k').complete i c).link i) ∧
      ((s.modifySocket socket fun _ => k').complete i c).meter = s.meter.addRead n := by
  obtain ⟨t, hslot⟩ := Option.isSome_iff_exists.1 (h.runs.slot hk)
  have hsound := h.sound hs
  have hback := h.carries_back
  have hd := ((hs.mem_ids i).1 h.registered).2
  obtain ⟨s', -, hlink, hmeter, hcomplete⟩ := h.received hs hk hslot
  rw [Operation.due_of_receive hk hslot] at hsound
  rw [hm.result] at hlink hmeter
  rw [if_neg (by rw [hk]; decide)] at hback
  rw [hcomplete] at ht ⊢
  obtain rfl := h.owner
  rw [link_finishing] at hback
  have hact := Link.carries_received hsound.accounted ha hd hl (hm.receive hk)
    (hlink ▸ tookAll_of_retire ht i)
  rw [← hlink] at hact
  refine ⟨(hact.after hback).trans (carries_retire s' i i), ?_⟩
  rw [meter_retire, hmeter]
  rfl

/-- A send that comes back takes its bytes with it. -/
theorem Arrives.carries_sent (h : Arrives B B' s socket i op k' c) (hs : Sound B [] 0 s)
    (hk : op.kind = .send) (hm : c.Moves op n)
    (ht : ∀ k, (((s.modifySocket socket fun _ => k').complete i c).sockets.get k).TookAll) :
    Link.Carries 0 n (s.link i) (((s.modifySocket socket fun _ => k').complete i c).link i) ∧
      ((s.modifySocket socket fun _ => k').complete i c).meter = s.meter.addSent n := by
  have hsound := h.sound hs
  have hback := h.carries_back
  have hd := ((hs.mem_ids i).1 h.registered).2
  obtain ⟨s', hs'⟩ : ∃ s', act { s.finishing socket k' i with meter := s.meter.addSent n } i
      (Link.sent c.operation (.ok n)) = s' := ⟨_, rfl⟩
  have hcomplete : (s.modifySocket socket fun _ => k').complete i c = (s'.retire i).2 := by
    unfold complete sendCompleted
    rw [h.returns.kind, hk, hm.result, ← hs']
    rfl
  rw [Operation.due_of_ne (by rw [hk]; decide)] at hsound
  rw [if_pos hk, ← hm.send hk] at hback
  rw [hcomplete] at ht ⊢
  obtain rfl := h.owner
  have hlink : s'.link i =
      (Link.sent c.operation (.ok n) ⟨(s.endpoints.get i).finish, k', s.pool⟩).2 := by
    rw [← hs', link_act]
    exact congrArg (fun l => (Link.sent c.operation (.ok n) l).2) (link_finishing s k' i)
  rw [link_finishing] at hback
  have hact := Link.carries_sent hsound hd (hlink ▸ tookAll_of_retire ht i)
  rw [← hlink] at hact
  refine ⟨(hback.trans hact).trans (carries_retire s' i i), ?_⟩
  rw [meter_retire, ← hs', meter_act]

/-! ## Accepts -/

/-- An accept that comes back has no bytes in the backlog. -/
theorem Arrives.carries_finishing (h : Arrives B B' s socket i op k' c) (hs : Sound B [] held s)
    (hk : op.kind = .accept) (hu : s.Unaborted) : Carries 0 0 s (s.finishing socket k' i) := by
  have hback := h.carries_back
  have hi := hs.lt_nextId h.registered
  rw [if_neg (by rw [hk]; decide)] at hback
  exact carries_of_link hu hi (by rw [h.touches.directory]) hback fun j hj hji =>
    h.touches.keeps hji (hs.socket_ne hi hj hji)

/-- An accept that is posted again has no bytes. -/
theorem carries_repostAccept (hs : Sound B busy held s) (hu : s.Unaborted)
    (hi : i < s.directory.nextId) (ht : ∀ k, ((s.repostAccept i op).sockets.get k).TookAll) :
    Carries 0 0 s (s.repostAccept i op) := by
  unfold repostAccept at ht ⊢
  have htouches : Touches i s (s.modifyLink i fun l => (l.postAccept op).2) :=
    touches_modifyLink (Link.spares_postAccept _ _).toGrows
  have htook := tookAll_of_retire ht i
  rw [link_modifyLink] at htook
  have hpost := Link.carries_postAccept htook
  rw [← link_modifyLink s i fun l => (l.postAccept op).2] at hpost
  exact carries_of_link hu hi (nextId_retire _ _) (hpost.trans (carries_retire _ i i))
    fun j hj hji => htouches.keeps_retire hji (hs.socket_ne hi hj hji)

/-- A connection that is turned away brings no bytes. -/
theorem carries_turnAway (hs : Sound B busy held s) (hu : s.Unaborted)
    (hi : i < s.directory.nextId) (hf : Fresh s socket) (op : Operation) :
    Carries 0 0 s ((s.modifySocket socket .close).dropAccept i op) := by
  have hkeep (j : EndpointId) (hj : j < s.directory.nextId) :
      Keeps j s ((s.modifySocket socket .close).release op) :=
    (keeps_modifySocket (hf.1 j hj) .close).trans (.of_eq rfl rfl rfl)
  refine carries_of_link hu hi (nextId_retire _ _)
    ((hkeep i hi).carries.trans (carries_retire _ i i)) fun j hj hji =>
      (hkeep j hj).trans (keeps_retire hji (hs.socket_ne hi hj hji))

/-- A stream that is opened begins with the data of the accept. -/
theorem carries_openStream (hs : Sound B busy held s) (hu : s.Unaborted) (hf : Fresh s a.socket)
    (hdown : s.shuttingDown = false) (hl : s.pool.limit = none) (data : List UInt8)
    (ht : ∀ k, ((s.openStream a data).2.sockets.get k).TookAll) :
    Carries data.length 0 s (s.openStream a data).2 := by
  have hsound := hs.link_registered hf .stream a.peer.family (some a.peer)
  have hkeep (j : EndpointId) (hj : j < s.directory.nextId) := keeps_openStream hdown hj hf data
  rw [openStream_eq hdown] at ht hkeep ⊢
  have hnew := tookAll_of_retire ht s.directory.nextId
  rw [link_act] at hnew
  have hwelcome := Link.carries_welcome hsound.accounted (by rw [link_registered]; rfl)
    (by rw [link_registered]; rfl) (by rw [link_registered]; rfl) (by rw [link_registered]; exact hl)
    data s.settings.fanOut hnew
  rw [← link_act] at hwelcome
  have hall := hwelcome.trans (carries_retire _ s.directory.nextId s.directory.nextId)
  refine carries_of_new hu ?_ hkeep (hall.aborted.trans (by rw [link_registered]; rfl)) ?_
  · rw [nextId_retire, directory_act]
    exact (adds_registered s .stream a.peer.family (some a.peer) a.socket).nextId
  · have hempty : ((s.sockets.get a.socket).lane .send).inFlight = [] :=
      hs.unowned a.socket hf.1 _
    refine hall.backlog.trans ?_
    rw [link_registered]
    unfold Link.backlog
    rw [hempty]
    exact Nat.zero_add _

/-- What a successful accept comes to: it is posted again, and the connection that came with it is
opened or turned away. -/
theorem Arrives.accept_cases (h : Arrives B B' s socket i op k' c) (hk : op.kind = .accept)
    (hr : c.result = .ok n) :
    let f := s.finishing socket k' i
    let s₂ := (s.modifySocket socket fun _ => k').complete i c
    (c.accepted = none ∧ s₂ = f.repostAccept i c.operation) ∨
    (∃ a, c.accepted = some a ∧
      s₂ = (f.modifySocket a.socket .close).dropAccept i c.operation) ∨
    ∃ a, c.accepted = some a ∧ f.shuttingDown = false ∧
      s₂ = (openStream { f with meter := f.meter.addRead n } a c.operation.payload).2.repostAccept i
        c.operation := by
  intro f s₂
  have hs₂ : s₂ = (s.modifySocket socket fun _ => k').acceptCompleted i c := by
    show complete _ _ _ = _
    unfold complete
    rw [h.returns.kind, hk]
  rw [hs₂]
  unfold acceptCompleted
  dsimp only
  rw [hr]
  cases c.accepted with
  | none => exact Or.inl ⟨rfl, rfl⟩
  | some a =>
    dsimp only
    split
    · exact Or.inr (Or.inl ⟨a, rfl, rfl⟩)
    · next ho =>
      exact Or.inr (Or.inr ⟨a, rfl, Bool.eq_false_iff.2 fun hd => ho (Or.inr hd), rfl⟩)

theorem meter_repostAccept (s : Server) (i : EndpointId) (op : Operation) :
    (s.repostAccept i op).meter = s.meter := meter_retire _ _

theorem grows_repostAccept (s : Server) (i : EndpointId) (op : Operation) :
    Grows s (s.repostAccept i op) :=
  (touches_modifyLink (Link.spares_postAccept _ _).toGrows).grows.trans (grows_retire _ i)

theorem meter_openStream (hdown : s.shuttingDown = false) (a : Accepted) (data : List UInt8) :
    (s.openStream a data).2.meter = s.meter := by
  rw [openStream_eq hdown, meter_retire, meter_act]
  rfl

/-- A connection that is opened, while its accept is posted again, brings the data of the accept. -/
theorem carries_takeIn {data : List UInt8} (hs : Sound B busy held s) (hu : s.Unaborted)
    (hi : i < s.directory.nextId) (hf : Fresh s a.socket) (hdown : s.shuttingDown = false)
    (hl : s.pool.limit = none)
    (ho : (B ⟨s.directory.nextId, .stream, a.peer.family, some a.peer⟩ a.socket).Opens s.pool data)
    (ht : ∀ k, (((s.openStream a data).2.repostAccept i op).sockets.get k).TookAll) :
    Carries data.length 0 s ((s.openStream a data).2.repostAccept i op) ∧
      ((s.openStream a data).2.repostAccept i op).meter = s.meter := by
  have hlater := (later_openStream hs hf hdown ho).1
  have hopen := carries_openStream hs hu hf hdown hl data fun k =>
    (ht k).earlier ((grows_repostAccept _ i op).history k)
  have hpost := carries_repostAccept hlater.sound hopen.unaborted
    (Nat.lt_of_lt_of_le hi hlater.grows.nextId) ht
  exact ⟨hopen.trans hpost, (meter_repostAccept _ i op).trans (meter_openStream hdown a data)⟩

/-- An accept brings a stream with its bytes, or nothing that counts. -/
theorem Arrives.passes_accept (h : Arrives B B' s socket i op k' c) (hs : Sound B [] 0 s)
    (hinf : Informs B' s i op c) (hk : op.kind = .accept) (hl : s.pool.limit = none)
    (hu : s.Unaborted) (hm : c.Moves op n)
    (ht : ∀ k, (((s.modifySocket socket fun _ => k').complete i c).sockets.get k).TookAll) :
    ∃ n', Passes n' 0 s ((s.modifySocket socket fun _ => k').complete i c) := by
  have hf := h.sound_finishing hs (by rw [hk]; decide)
  have hi := h.lt_nextId hs
  have hback := h.carries_finishing hs hk hu
  have hdelivers {a : Accepted} (ha : c.accepted = some a) : Delivers B' s c a :=
    hinf.accept a ((delivered?_of_ok (h.returns.kind.trans hk) hm.result).trans ha)
  have hfresh {a : Accepted} (ha : c.accepted = some a) :=
    (hdelivers ha).fresh.of_touches h.touches (hs.lt_nextId h.registered)
  obtain ⟨-, he⟩ | ⟨a, ha, he⟩ | ⟨a, ha, hdown, he⟩ := h.accept_cases hk hm.result
  · rw [he] at ht ⊢
    have hpost := carries_repostAccept hf hback.unaborted hi ht
    exact ⟨0, (hback.trans hpost).passes_of_meter (meter_repostAccept _ _ _)⟩
  · rw [he] at ht ⊢
    have hdrop := carries_turnAway hf hback.unaborted hi (hfresh ha) c.operation
    exact ⟨0, (hback.trans hdrop).passes_of_meter (meter_retire _ _)⟩
  · rw [he] at ht ⊢
    have hcount : Sound B' [i] 1 { s.finishing socket k' i with
        meter := (s.finishing socket k' i).meter.addRead n } := hf.of_eq rfl rfl rfl rfl
    obtain ⟨hopen, hmeter⟩ := carries_takeIn hcount hback.unaborted hi (hfresh ha) hdown hl
      (hdelivers ha).opens ht
    rw [← hm.accept hk (by rw [ha]; rfl)] at hopen
    exact ⟨n, (hopen.after ⟨hback.unaborted, hback.backlog⟩).passes_of_addRead hmeter⟩

/-! ## Completions -/

/-- A completion brings bytes or takes them with it. -/
theorem Arrives.passes (h : Arrives B B' s socket i op k' c) (hs : Sound B [] 0 s)
    (hinf : Informs B' s i op c) (hl : s.pool.limit = none) (hu : s.Unaborted)
    (hm : c.Moves op n)
    (ht : ∀ k, (((s.modifySocket socket fun _ => k').complete i c).sockets.get k).TookAll) :
    ∃ n' m, Passes n' m s ((s.modifySocket socket fun _ => k').complete i c) := by
  have hi := hs.lt_nextId h.registered
  have hkeeps (j : EndpointId) (hj : j < s.directory.nextId) (hji : j ≠ i) :=
    h.keeps_complete hs hj hji fun a ha => (hinf.accept a ha).fresh
  have hnext (hk : op.kind ≠ .accept) :=
    h.nextId_complete hs (delivered?_of_ne (h.returns.kind ▸ hk))
  cases hk : op.kind with
  | accept =>
    obtain ⟨n', hp⟩ := h.passes_accept hs hinf hk hl hu hm ht
    exact ⟨n', 0, hp⟩
  | receive =>
    obtain ⟨hc, hmeter⟩ := h.carries_received hs hk hl (hu i hi) hm ht
    have hall := carries_of_link hu hi (hnext (by rw [hk]; decide)) hc hkeeps
    exact ⟨n, 0, hall.passes_of_addRead hmeter⟩
  | send =>
    obtain ⟨hc, hmeter⟩ := h.carries_sent hs hk hm ht
    have hall := carries_of_link hu hi (hnext (by rw [hk]; decide)) hc hkeeps
    exact ⟨0, n, hall.passes_of_addSent hmeter⟩

/-- Receives that are tried again have no bytes. -/
theorem passes_resumeStarved (hs : Sound B [] held s) (hu : s.Unaborted) {order : VisitingOrder}
    (ht : ∀ k, ((s.resumeStarved order).sockets.get k).TookAll) :
    Passes 0 0 s (s.resumeStarved order) := by
  refine (carries_of_links hu (hs.nextId_resumeStarved order) fun j hj => ?_).passes_of_meter
    (meter_resumeStarved s order)
  obtain ⟨ops, hcatch, -⟩ := catchesUp_resumeStarved hs hj order (ht _).not_refusedSince
  exact hcatch.carries

/-! ## New endpoints -/

theorem meter_addEndpoint (s : Server) (kind : EndpointKind) (family : AddressFamily)
    (socket : SocketId) (post : Link → PostResult × Link) :
    (s.addEndpoint kind family socket post).2.meter = s.meter := by
  unfold addEndpoint
  rw [register_eq]
  dsimp only
  split
  · rfl
  · exact meter_retire _ _

/-- A new endpoint has no bytes, and it is not closed again. -/
theorem Joins.carries {kind : OperationKind} (hj : Joins s info socket post x)
    (hid : info.id = s.directory.nextId) (hs : Sound B [] held s) (hs' : Sound B' [] held x.2)
    (hf : Fresh s socket) (hu : s.Unaborted) (hl : s.pool.limit = none)
    (hpost : ∀ l : Link, ¬ l.Refuses → l.endpoint.resequencer.pending = [] →
      Link.Stocks kind l (post l))
    (hk : kind ≠ .send) (ht : ∀ k, (x.2.sockets.get k).TookAll) : Carries 0 0 s x.2 := by
  have hstock := Link.stocking_postMany hpost
    (l := ⟨.ofInfo info socket, s.sockets.get socket, s.pool⟩)
    (Link.not_refuses rfl rfl) rfl s.settings.fanOut
  have hlt : info.id < x.2.directory.nextId := by
    rw [hj.nextId, hid]
    exact Nat.lt_succ_self _
  obtain ⟨hopen, hb⟩ : (x.2.endpoints.get info.id).closing = false ∧
      (x.2.link info.id).backlog = 0 := by
    cases hj with
    | @joined s' ha hlink =>
      rw [hlink] at hstock
      generalize hl' : s'.link info.id = l' at hstock
      cases hstock with
      | all hn h =>
        refine ⟨(congrArg (·.endpoint.closing) hl').trans h.closing, ?_⟩
        rw [h.backlog hk]
        unfold Link.backlog
        dsimp only
        rw [hs.unowned socket hf.1]
        rfl
    | @failed s' e ha hc hlink =>
      obtain ⟨y, l, hmany, hlink⟩ := hlink
      have htook := tookAll_of_retire ht info.id
      rw [hlink] at htook
      rw [hmany] at hstock
      cases hstock with
      | cut _ _ _ _ hr =>
        have hx := htook.earlier (Link.Grows.close l true).history
        exact absurd hr (not_or.2 ⟨fun hne => hne hl, fun hnot => hnot hx⟩)
  have ha := (hs'.endpoint hlt).lifecycle.aborted_of_open hopen
  rw [hid] at ha hb
  exact carries_of_new hu hj.nextId (fun j hlt => hj.keeps hid hf hlt) ha hb

/-- What a socket is going to refuse has nothing to do with bytes. -/
theorem passes_refuse (hu : s.Unaborted) (socket : SocketId) (kind : OperationKind) (r : Refusals) :
    Passes 0 0 s (s.modifySocket socket (·.refuse kind r)) := by
  have hlane := lift_modifySocket
    (motive := fun k k' => (k'.lane .send).inFlight = (k.lane .send).inFlight)
    (fun k => (Socket.same_refuse k kind r).lane .send) (fun _ => rfl) s socket
  have hc : Carries 0 0 s (s.modifySocket socket (·.refuse kind r)) :=
    carries_of_links hu rfl fun j _ => Link.carries_of_eq rfl (hlane _) rfl
  exact hc.passes_of_meter rfl

end Server

end OrderedEcho
