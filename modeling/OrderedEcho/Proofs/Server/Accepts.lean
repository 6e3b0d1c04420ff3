import OrderedEcho.Proofs.Link.Accepts
import OrderedEcho.Proofs.Server.Provision

/-!
# The accepts of all listeners

A listener begins with as many accepts as its fan-out.  An accept that completes is posted again,
unless it failed for good or the server is shutting down (`Completion.endsAccept`); so the accepts in
flight, those that the socket refused and those that ended are the fan-out as long as the listener
is open, and never more than that.  `Accepting` says so of all listeners, and that no other endpoint
has accepts.  It is kept by every event of a run (`Run.accepting`).
-/

namespace OrderedEcho

/-- The completion is one of an accept that an open listener does not post again. -/
def Completion.endsAccept (c : Completion) (shuttingDown : Bool) : Bool :=
  match c.operation.kind, c.result with
  | .accept, .ok _ => c.accepted.isSome && shuttingDown
  | .accept, .error e => !e.isTransient
  | _, _ => false

namespace Completion

variable {c : Completion}

theorem endsAccept_of_ok {n : Nat} (hk : c.operation.kind = .accept) (hr : c.result = .ok n)
    (shuttingDown : Bool) : c.endsAccept shuttingDown = (c.accepted.isSome && shuttingDown) := by
  unfold endsAccept
  rw [hk, hr]

theorem endsAccept_of_error {e : IoError} (hk : c.operation.kind = .accept)
    (hr : c.result = .error e) (shuttingDown : Bool) :
    c.endsAccept shuttingDown = !e.isTransient := by
  unfold endsAccept
  rw [hk, hr]

theorem endsAccept_of_ne (hk : c.operation.kind ≠ .accept) (shuttingDown : Bool) :
    c.endsAccept shuttingDown = false := by
  unfold endsAccept
  split <;> first | rfl | contradiction

end Completion

/-- The accepts of a link, of which the endpoint was given `n` and `r` have ended. -/
structure Link.Accepting (n r : Nat) (l : Link) : Prop where
  le : l.endpoint.kind = .listener → l.socket.accepting + r ≤ n
  eq : l.endpoint.kind = .listener → l.endpoint.closing = false → l.socket.accepting + r = n
  zero : l.endpoint.kind ≠ .listener → l.socket.accepting = 0

namespace Link

variable {l l' : Link} {n r : Nat} {op : Operation}

theorem Accepting.mono (h : Accepting n r l) (hk : l'.endpoint.kind = l.endpoint.kind)
    (hc : l'.endpoint.closing = false → l.endpoint.closing = false)
    (ha : l'.socket.accepting = l.socket.accepting) : Accepting n r l' := by
  refine ⟨?_, ?_, ?_⟩
  · rw [hk, ha]
    exact h.le
  · rw [hk, ha]
    exact fun hl ho => h.eq hl (hc ho)
  · rw [hk, ha]
    exact h.zero

theorem Accepting.grows (h : Accepting n r l) (hg : Grows l l')
    (ha : l'.socket.accepting = l.socket.accepting) : Accepting n r l' :=
  h.mono hg.kind hg.open ha

/-- Only listeners have accepts that come back. -/
theorem Accepting.kind_of_gaveBack (h : Accepting n r l) {k' : Socket}
    (hk : l.socket.GaveBack .accept op k') : l.endpoint.kind = .listener := by
  by_contra hn
  have := h.zero hn
  have := hk.accepting
  omega

/-- An accept that came back has ended, unless it is posted again. -/
theorem Accepting.gaveBack (h : Accepting n r l) {k' : Socket}
    (hk : l.socket.GaveBack .accept op k') :
    Accepting n (r + 1) ⟨l.endpoint.finish, k', l.pool⟩ := by
  have ha := hk.accepting
  refine ⟨fun hl => ?_, fun hl hc => ?_, fun hn => absurd (h.kind_of_gaveBack hk) hn⟩
  · have := h.le hl
    dsimp only
    omega
  · have := h.eq hl hc
    dsimp only
    omega

/-- What ended does not matter for a listener that is closing. -/
theorem Accepting.of_closing (h : Accepting n (r + 1) l) (hc : l.endpoint.closing) :
    Accepting n r l := by
  refine ⟨fun hl => ?_, fun _ ho => absurd (ho.symm.trans hc) (by decide), h.zero⟩
  have := h.le hl
  omega

theorem Accepting.postAccept (h : Accepting n (r + 1) l) (hk : l.endpoint.kind = .listener)
    (hd : l.endpoint.destroyed → l.endpoint.closing) (op : Operation) :
    Accepting n r (l.postAccept op).2 := by
  have hg := (spares_postAccept l op).toGrows
  by_cases hr : l.Refuses
  · have hc : l.endpoint.closing := hr.elim id hd
    exact (h.of_closing hc).grows hg (accepting_postAccept_of_refuses hr op)
  · have ha := accepting_postAccept hr op
    refine ⟨fun _ => ?_, fun _ ho => ?_, fun hn => absurd (hg.kind.trans hk) hn⟩
    · have := h.le hk
      omega
    · have := h.eq hk (hg.open ho)
      omega

/-- Closing an endpoint leaves its accepts to end as they may. -/
theorem accepting_close_of_le (hle : l.endpoint.kind = .listener → l.socket.accepting + r ≤ n)
    (hzero : l.endpoint.kind ≠ .listener → l.socket.accepting = 0) :
    Accepting n r (l.close true) := by
  refine ⟨fun hl => ?_, fun _ hc => ?_, fun hn => ?_⟩
  · rw [accepting_close]
    exact hle hl
  · rw [endpoint_close] at hc
    cases hc
  · rw [accepting_close]
    exact hzero hn

/-- What the first accepts of a listener come to.  It is closed if one of them fails. -/
theorem accepting_of_accepts {o : Option Interruption} (hk : l.endpoint.kind = .listener)
    (h0 : l.socket.accepting = 0) (h : postMany postNewAccept n l = (o, l')) :
    (o = none → Accepting n 0 l') ∧ Accepting n 0 (l'.close true) := by
  have hg := (spares_postMany spares_postNewAccept n l).toGrows
  rw [h] at hg
  have hk' : l'.endpoint.kind = .listener := hg.kind.trans hk
  obtain ⟨hle, heq⟩ := accepting_postMany_accepts h
  constructor
  · intro ho
    have := heq ho
    exact ⟨fun _ => by omega, fun _ _ => by omega, fun hn => absurd hk' hn⟩
  · exact accepting_close_of_le (fun _ => by omega) fun hn => absurd hk' hn

/-- An endpoint that is not a listener has no accepts when it posts its first receives. -/
theorem accepting_of_receives {o : Option Interruption} {m : Nat}
    (hd : l.endpoint.destroyed = false) (hk : l.endpoint.kind ≠ .listener)
    (h0 : l.socket.accepting = 0) (h : postMany postNewReceive m l = (o, l')) :
    Accepting n 0 l' ∧ Accepting n 0 (l'.close true) := by
  have hb := batch_postMany hd m
  have ha := accepting_postMany_receives m l
  rw [h] at hb ha
  have hk' : l'.endpoint.kind ≠ .listener := hb.grows.kind ▸ hk
  have ha' : l'.socket.accepting = 0 := ha.trans h0
  constructor
  · exact ⟨fun hl => absurd hl hk', fun hl => absurd hl hk', fun _ => ha'⟩
  · exact accepting_close_of_le (fun hl => absurd hl hk') fun _ => ha'

end Link

namespace Server

variable {B B' : Book} {busy : List EndpointId} {held n : Nat} {r r' : EndpointId → Nat}
  {s s' : Server} {i j : EndpointId} {info : EndpointInfo} {socket : SocketId} {op : Operation}
  {k' : Socket} {c : Completion}

/-- The accepts of all endpoints, of which `r` have ended for each.  None has ended for endpoints
that do not exist yet. -/
structure Accepting (n : Nat) (r : EndpointId → Nat) (s : Server) : Prop where
  links : ∀ j < s.directory.nextId, Link.Accepting n (r j) (s.link j)
  unknown : ∀ j, s.directory.nextId ≤ j → r j = 0

theorem Accepting.congr (h : Accepting n r s) (hd : s'.directory = s.directory)
    (he : s'.endpoints = s.endpoints)
    (hk : ∀ k, (s'.sockets.get k).accepting = (s.sockets.get k).accepting) : Accepting n r s' := by
  refine ⟨fun j hj => ?_, fun j hj => h.unknown j (hd ▸ hj)⟩
  have hl := h.links j (hd ▸ hj)
  unfold link at hl ⊢
  rw [he]
  exact hl.mono rfl id (hk _)

/-! ## One endpoint acts -/

theorem Accepting.touch (h : Accepting n r s) (hs : Sound B busy held s)
    (hi : i < s.directory.nextId) (ht : Touches i s s') (hr : ∀ j, j ≠ i → r' j = r j)
    (hl : Link.Accepting n (r' i) (s'.link i)) : Accepting n r' s' := by
  refine ⟨fun j hj => ?_, fun j hj => ?_⟩
  · rw [ht.directory] at hj
    by_cases hji : j = i
    · exact hji ▸ hl
    · have hlj := h.links j hj
      unfold link at hlj ⊢
      rw [hr j hji, ht.endpoint j hji]
      refine hlj.mono rfl id ?_
      dsimp only
      rw [ht.sockets _ (hs.socket_ne hi hj hji)]
  · rw [ht.directory] at hj
    rw [hr j (Nat.ne_of_gt (Nat.lt_of_lt_of_le hi hj))]
    exact h.unknown j hj

/-- An act without accepts. -/
theorem Accepting.acts (h : Accepting n r s) (hs : Sound B busy held s)
    (hi : i < s.directory.nextId) (ht : Touches i s s')
    (ha : (s'.link i).socket.accepting = (s.link i).socket.accepting) : Accepting n r s' :=
  h.touch hs hi ht (fun _ _ => rfl) ((h.links i hi).grows ht.link ha)

theorem Accepting.retire (h : Accepting n r s) (i : EndpointId) :
    Accepting n r (s.retire i).2 := by
  refine ⟨fun j hj => ?_, fun j hj => h.unknown j (nextId_retire s i ▸ hj)⟩
  rw [nextId_retire] at hj
  have hsock := lift_retire (motive := fun e e' => e'.socket = e.socket) (fun _ => rfl)
    (fun _ => rfl) s i j
  refine (h.links j hj).mono ?_ ?_ ?_
  · exact lift_retire (motive := fun e e' => e'.kind = e.kind) (fun _ => rfl) (fun _ => rfl) s i j
  · exact lift_retire (motive := fun e e' => e'.closing = false → e.closing = false) (fun _ => id)
      (fun _ => id) s i j
  · unfold link
    dsimp only
    rw [hsock]
    by_cases hd : (s.endpoints.get i).Destroyable
    · rw [retire_of hd]
      exact lift_modifySocket (motive := fun k k' => k'.accepting = k.accepting)
        Socket.accepting_close (fun _ => rfl) s _ _
    · rw [retire_of_not hd]

/-! ## A new endpoint -/

theorem Accepting.add (h : Accepting n r s) (hf : Fresh s socket) (ha : Adds info socket s s')
    (hid : info.id = s.directory.nextId) (hl : Link.Accepting n 0 (s'.link info.id)) :
    Accepting n r s' := by
  refine ⟨fun j hj => ?_, fun j hj => h.unknown j ?_⟩
  · rw [ha.nextId] at hj
    rcases Nat.lt_succ_iff_lt_or_eq.1 hj with hold | hnew
    · have hlj := h.links j hold
      unfold link at hlj ⊢
      rw [ha.endpoint j (hid ▸ Nat.ne_of_lt hold)]
      refine hlj.mono rfl id ?_
      dsimp only
      rw [ha.sockets _ (hf.1 j hold)]
    · obtain rfl := hnew.trans hid.symm
      rw [h.unknown _ (Nat.le_of_eq hid.symm)]
      exact hl
  · rw [ha.nextId] at hj
    exact Nat.le_of_succ_le hj

/-- Nothing was asked of a socket before it got its endpoint. -/
theorem Sound.accepting_eq_zero (hs : Sound B busy held s) (hf : Fresh s socket) :
    (s.sockets.get socket).accepting = 0 := by
  unfold Socket.accepting Socket.refusedAccepts
  rw [hs.unowned socket hf.1, hf.2]
  rfl

theorem Joins.accepting {post : Link → PostResult × Link}
    {x : Except PostError EndpointId × Server} (hj : Joins s info socket post x)
    (h : Accepting n r s) (hf : Fresh s socket) (hid : info.id = s.directory.nextId)
    (hall : ∀ l, Link.postMany post s.settings.fanOut
        ⟨.ofInfo info socket, s.sockets.get socket, s.pool⟩ = (none, l) → Link.Accepting n 0 l)
    (hcut : ∀ i l, Link.postMany post s.settings.fanOut
        ⟨.ofInfo info socket, s.sockets.get socket, s.pool⟩ = (some i, l) →
          Link.Accepting n 0 (l.close true)) : Accepting n r x.2 := by
  cases hj with
  | joined ha hl => exact h.add hf ha.toAdds hid (hall _ hl)
  | failed e ha hc hl =>
    obtain ⟨i, l, hl, hlink⟩ := hl
    refine (h.add hf ha.toAdds hid ?_).retire _
    rw [hlink]
    exact hcut i l hl

theorem accepting_addListener (h : Accepting n r s) (hs : Sound B busy held s)
    (hf : Fresh s socket) (hn : s.settings.fanOut = n) (family : AddressFamily) :
    Accepting n r (s.addListener socket family).2 := by
  have h0 := hs.accepting_eq_zero hf
  apply (joins_addListener s socket family).accepting h hf rfl
  · intro l hl
    exact hn ▸ (Link.accepting_of_accepts rfl h0 hl).1 rfl
  · intro i l hl
    exact hn ▸ (Link.accepting_of_accepts rfl h0 hl).2

theorem accepting_addDatagram (h : Accepting n r s) (hs : Sound B busy held s)
    (hf : Fresh s socket) (family : AddressFamily) :
    Accepting n r (s.addDatagram socket family).2 := by
  have h0 := hs.accepting_eq_zero hf
  have hk : EndpointKind.datagram ≠ .listener := by decide
  apply (joins_addDatagram s socket family).accepting h hf rfl
  · intro l hl
    exact (Link.accepting_of_receives rfl hk h0 hl).1
  · intro i l hl
    exact (Link.accepting_of_receives rfl hk h0 hl).2

/-! ## Receives and sends -/

theorem accepting_resume (h : Accepting n r s) (hs : Sound B busy held s) (i : EndpointId) :
    Accepting n r (s.resume i) := by
  obtain ⟨-, he⟩ | ⟨s', hi, -, ha, hlink, he⟩ := hs.resume_cases i
  · rwa [he]
  · rw [he]
    refine (h.acts hs (hs.lt_nextId hi) ha.toTouches ?_).retire i
    rw [hlink, Link.accepting_settle, Link.accepting_resume]

theorem accepting_resumeStarved (h : Accepting n r s) (hs : Sound B [] held s)
    (order : VisitingOrder) : Accepting n r (s.resumeStarved order) := by
  have h' : Accepting n r { s with starved := .empty } := h.congr rfl rfl fun _ => rfl
  exact (later_clearStarved hs).sound.foldl_resume h' (fun _ i hs h => accepting_resume h hs i) _

theorem Arrives.accepting_finishing (h : Arrives B B' s socket i op k' c) (hk : op.kind ≠ .accept) :
    ((s.finishing socket k' i).link i).socket.accepting = (s.link i).socket.accepting := by
  obtain rfl := h.owner
  rw [link_finishing]
  exact h.back.accepting_of_ne hk

/-- An operation that is no accept came back, and its endpoint acts after the meter has counted. -/
theorem Arrives.accepting_act (h : Arrives B B' s socket i op k' c) (hs : Sound B [] held s)
    (ha : Accepting n r s) (hk : op.kind ≠ .accept) (meter : Meter) {f : Link → Bool × Link}
    (hg : ∀ l : Link, l.endpoint.destroyed = false → Link.Grows l (f l).2)
    (hf : ∀ l, (f l).2.socket.accepting = l.socket.accepting) :
    Accepting n r ((act { s.finishing socket k' i with meter } i f).retire i).2 := by
  have hd : ((s.finishing socket k' i).link i).endpoint.destroyed = false :=
    h.touches.link.destroyed.trans ((hs.mem_ids i).1 h.registered).2
  have hmeter : Touches i (s.finishing socket k' i) { s.finishing socket k' i with meter } :=
    .of_eq rfl rfl rfl rfl
  have ht := h.touches.trans (hmeter.trans (touches_act (hg _ hd)))
  refine (ha.acts hs (hs.lt_nextId h.registered) ht ?_).retire i
  rw [link_act, hf]
  exact h.accepting_finishing hk

theorem accepting_receiveCompleted (ha : Accepting n r s) (h : Arrives B B' s socket i op k' c)
    (hs : Sound B [] held s) (hk : op.kind ≠ .accept) (result : Except IoError Nat) :
    Accepting n r ((s.modifySocket socket fun _ => k').receiveCompleted i c.operation result) := by
  have hact (meter : Meter) (t : Slot) := h.accepting_act hs ha hk meter
    (fun _ hd => (Link.provides_received hd c.operation t result).grows)
    (Link.accepting_received c.operation t result)
  have hrelease : Touches i (s.finishing socket k' i) ((s.finishing socket k' i).release c.operation) :=
    .of_eq rfl rfl rfl (Pool.limit_release _ _)
  unfold receiveCompleted
  dsimp only
  split
  · refine (ha.acts hs (hs.lt_nextId h.registered) (h.touches.trans hrelease) ?_).retire i
    exact h.accepting_finishing hk
  · split
    · exact hact _ _
    · exact hact (s.finishing socket k' i).meter _

theorem accepting_sendCompleted (ha : Accepting n r s) (h : Arrives B B' s socket i op k' c)
    (hs : Sound B [] held s) (hk : op.kind ≠ .accept) (result : Except IoError Nat) :
    Accepting n r ((s.modifySocket socket fun _ => k').sendCompleted i c.operation result) := by
  have hact (meter : Meter) := h.accepting_act hs ha hk meter
    (fun _ hd => (Link.provides_sent hd c.operation result).grows)
    (Link.accepting_sent c.operation result)
  unfold sendCompleted
  dsimp only
  split
  · exact hact _
  · exact hact (s.finishing socket k' i).meter

/-! ## Completed accepts -/

theorem Arrives.accepting_gaveBack (h : Arrives B B' s socket i op k' c) (hs : Sound B [] held s)
    (ha : Accepting n r s) (hk : op.kind = .accept) :
    Accepting n (Function.update r i (r i + 1)) (s.finishing socket k' i) ∧
      ((s.finishing socket k' i).endpoints.get i).kind = .listener := by
  have hi := hs.lt_nextId h.registered
  have hback := hk ▸ h.back
  have hl := ha.links i hi
  refine ⟨ha.touch hs hi h.touches (fun j hj => Function.update_of_ne hj _ _) ?_, ?_⟩
  · obtain rfl := h.owner
    rw [link_finishing, Function.update_self]
    exact hl.gaveBack hback
  · obtain rfl := h.owner
    exact h.touches.link.kind.trans (hl.kind_of_gaveBack hback)

theorem Accepting.of_closing (h : Accepting n (Function.update r i (r i + 1)) s)
    (hi : i < s.directory.nextId) (hc : (s.endpoints.get i).closing) : Accepting n r s := by
  refine ⟨fun j hj => ?_, fun j hj => ?_⟩
  · have hl := h.links j hj
    by_cases hji : j = i
    · subst hji
      rw [Function.update_self] at hl
      exact hl.of_closing hc
    · rwa [Function.update_of_ne hji] at hl
  · have h0 := h.unknown j hj
    rwa [Function.update_of_ne (Nat.ne_of_gt (Nat.lt_of_lt_of_le hi hj))] at h0

theorem accepting_dropAccept (h : Accepting n r s) (i : EndpointId) (op : Operation) :
    Accepting n r (s.dropAccept i op) := by
  have hr : Accepting n r (s.release op) := h.congr rfl rfl fun _ => rfl
  exact hr.retire i

theorem accepting_repostAccept (h : Accepting n (Function.update r i (r i + 1)) s)
    (hs : Sound B busy held s) (hi : i < s.directory.nextId)
    (hk : (s.endpoints.get i).kind = .listener) (op : Operation) :
    Accepting n r (s.repostAccept i op) := by
  have ht : Touches i s (s.modifyLink i fun l => (l.postAccept op).2) :=
    touches_modifyLink (Link.spares_postAccept _ op).toGrows
  have hl := h.links i hi
  rw [Function.update_self] at hl
  refine Accepting.retire (h.touch hs hi ht (fun j hj => (Function.update_of_ne hj _ _).symm) ?_) i
  rw [link_modifyLink]
  exact hl.postAccept hk (hs.endpoint hi).lifecycle.closing_of_destroyed op

theorem accepting_openStream (h : Accepting n r s) (hs : Sound B busy held s) {a : Accepted}
    (hf : Fresh s a.socket) (hdown : s.shuttingDown = false) (data : List UInt8) :
    Accepting n r (s.openStream a data).2 := by
  have hacts := acts_welcome s a data
  have ha := (adds_registered s .stream a.peer.family (some a.peer) a.socket).trans
    hacts.toTouches
  have hk := ha.link.kind
  rw [openStream_eq hdown]
  refine (h.add hf ha rfl ?_).retire _
  refine ⟨fun hx => ?_, fun hx => ?_, fun _ => ?_⟩
  · cases hk.symm.trans hx
  · cases hk.symm.trans hx
  · rw [link_act, Link.accepting_welcome, link_registered]
    exact hs.accepting_eq_zero hf

/-- A client that is turned away costs the listener an accept, which no longer matters if it is
closing. -/
theorem accepting_turnAway (h : Accepting n (Function.update r i (r i + 1)) s)
    (hi : i < s.directory.nextId) (hc : (s.endpoints.get i).closing ∨ s.shuttingDown)
    (socket : SocketId) (op : Operation) :
    Accepting n (if s.shuttingDown then Function.update r i (r i + 1) else r)
      ((s.modifySocket socket .close).dropAccept i op) := by
  have hclose : Accepting n (Function.update r i (r i + 1)) (s.modifySocket socket .close) := by
    refine h.congr rfl rfl fun k => ?_
    exact lift_modifySocket (motive := fun k k' => k'.accepting = k.accepting)
      Socket.accepting_close (fun _ => rfl) s socket k
  apply accepting_dropAccept
  by_cases hdown : s.shuttingDown
  · rw [if_pos hdown]
    exact hclose
  · rw [if_neg hdown]
    exact hclose.of_closing hi (hc.resolve_right hdown)

/-- A client that gets a stream leaves the listener its accept. -/
theorem accepting_takeIn (h : Accepting n (Function.update r i (r i + 1)) s)
    (hs : Sound B [i] held s) (hi : i < s.directory.nextId)
    (hk : (s.endpoints.get i).kind = .listener) {a : Accepted} (hd : Delivers B s c a)
    (hdown : s.shuttingDown = false) (op : Operation) :
    Accepting n r ((s.openStream a c.operation.payload).2.repostAccept i op) := by
  obtain ⟨hl, -⟩ := later_openStream hs hd.fresh hdown hd.opens
  have hstream := accepting_openStream h hs hd.fresh hdown c.operation.payload
  have hkind := congrArg EndpointInfo.kind (hl.grows.endpoint i hi).info
  exact accepting_repostAccept hstream hl.sound (Nat.lt_of_lt_of_le hi hl.grows.nextId)
    (hkind.trans hk) op

theorem accepting_acceptCompleted (ha : Accepting n r s) (h : Arrives B B' s socket i op k' c)
    (hs : Sound B [] held s) (hk : op.kind = .accept)
    (hd : ∀ a, c.delivered? = some a → Delivers B' s c a)
    (hr' : r' = if c.endsAccept s.shuttingDown then Function.update r i (r i + 1) else r) :
    Accepting n r' ((s.modifySocket socket fun _ => k').acceptCompleted i c) := by
  obtain ⟨hback, hlistener⟩ := h.accepting_gaveBack hs ha hk
  have hf := h.sound_finishing hs (by rw [hk]; decide)
  have hi := h.lt_nextId hs
  have hkind : c.operation.kind = .accept := h.returns.kind.trans hk
  unfold acceptCompleted
  dsimp only
  split
  · next m a hr ha' =>
    have had : c.delivered? = some a := (delivered?_of_ok hkind hr).trans ha'
    have hfresh := (hd a had).fresh.of_touches h.touches (hs.lt_nextId h.registered)
    rw [Completion.endsAccept_of_ok hkind hr, ha', Option.isSome_some, Bool.true_and] at hr'
    split
    · next hclosed =>
      rw [hr']
      exact accepting_turnAway hback hi hclosed a.socket c.operation
    · next hopen =>
      have hdown : s.shuttingDown = false := Bool.eq_false_iff.2 fun hd => hopen (Or.inr hd)
      have hm : Later B' [i] (held + 1) _ { s.finishing socket k' i with
          meter := (s.finishing socket k' i).meter.addRead m } := later_of_eq hf rfl rfl rfl rfl
      have hmeter : Accepting n (Function.update r i (r i + 1)) { s.finishing socket k' i with
          meter := (s.finishing socket k' i).meter.addRead m } := hback.congr rfl rfl fun _ => rfl
      rw [hr', hdown]
      exact accepting_takeIn hmeter hm.sound hi hlistener ⟨hfresh, (hd a had).opens⟩ hdown
        c.operation
  · next hr ha' =>
    rw [Completion.endsAccept_of_ok hkind hr, ha'] at hr'
    rw [hr']
    exact accepting_repostAccept hback hf hi hlistener c.operation
  · next e hr =>
    rw [Completion.endsAccept_of_error hkind hr] at hr'
    split
    · next htransient =>
      rw [hr', htransient]
      exact accepting_repostAccept hback hf hi hlistener c.operation
    · next hlasting =>
      rw [hr', Bool.eq_false_iff.2 hlasting]
      exact accepting_dropAccept hback i c.operation

theorem accepting_handle (ha : Accepting n r s) (h : Arrives B B' s socket i op k' c)
    (hs : Sound B [] held s) (hc : Informs B' s i op c)
    (hr' : r' = if c.endsAccept s.shuttingDown then Function.update r i (r i + 1) else r)
    (order : VisitingOrder) :
    Accepting n r' ((s.modifySocket socket fun _ => k').handle c order) := by
  have hsame (hk : op.kind ≠ .accept) : r' = r := by
    rw [hr', Completion.endsAccept_of_ne (h.returns.kind ▸ hk)]
    rfl
  rw [h.handle_eq]
  refine accepting_resumeStarved ?_ (handled_complete h hs hc).sound order
  unfold complete
  rw [h.returns.kind]
  split
  · next hk => exact accepting_acceptCompleted ha h hs hk hc.accept hr'
  · next hk =>
    have hk : op.kind ≠ .accept := by rw [hk]; decide
    rw [hsame hk]
    exact accepting_receiveCompleted ha h hs hk c.result
  · next hk =>
    have hk : op.kind ≠ .accept := by rw [hk]; decide
    rw [hsame hk]
    exact accepting_sendCompleted ha h hs hk c.result

/-! ## Shutdown -/

theorem accepting_abort (h : Accepting n r s) (hs : Sound B busy held s)
    (hi : i < s.directory.nextId) : Accepting n r (s.abort i) := by
  have ht : Touches i s (s.modifyLink i (·.close true)) := touches_modifyLink (.close _ true)
  refine (h.acts hs hi ht ?_).retire i
  rw [link_modifyLink, Link.accepting_close]

theorem accepting_shutdown (h : Accepting n r s) (hs : Sound B [] held s)
    (order : VisitingOrder) : Accepting n r (s.shutdown order) := by
  have hl : Later B [] held s { s with shuttingDown := true } := later_of_eq hs rfl rfl rfl rfl
  have hdown : Accepting n r { s with shuttingDown := true } := h.congr rfl rfl fun _ => rfl
  exact Sound.foldl (Q := Accepting n r)
    (fun _ hs ha _ hi => ⟨later_abort hs hi, accepting_abort ha hs hi⟩) hl.sound hdown
    fun _ hi => hs.lt_nextId (VisitingOrder.mem_arrange.1 hi)

/-! ## Runs -/

/-- The event ends an accept of the endpoint. -/
def endsAccept (s : Server) (id : EndpointId) : ServerEvent → Bool
  | .complete _ _ c _ => c.operation.endpoint = some id && c.endsAccept s.shuttingDown
  | .listen .. | .bind .. | .shutdown _ | .refuse .. => false

/-- The number of accepts of an endpoint that the events ended. -/
def endedAccepts : Server → List ServerEvent → EndpointId → Nat
  | _, [], _ => 0
  | s, ev :: evs, id => (s.endsAccept id ev).toNat + endedAccepts (s.step ev) evs id

variable {s₀ : Server} {evs : List ServerEvent} {settings : Settings} {now : Int}

theorem Run.endedAccepts_snoc (h : Run s₀ evs s) (ev : ServerEvent) (id : EndpointId) :
    endedAccepts s₀ (evs ++ [ev]) id =
      endedAccepts s₀ evs id + (s.endsAccept id ev).toNat := by
  obtain rfl := h.eq_foldl
  clear h
  induction evs generalizing s₀ with
  | nil => simp [endedAccepts]
  | cons ev' evs ih =>
    simp only [List.cons_append, endedAccepts, List.foldl_cons, ih]
    omega

theorem Run.accepting (h0 : Server.ofSettings settings now = .ok s₀) (h : Run s₀ evs s) :
    Accepting settings.fanOut (endedAccepts s₀ evs) s := by
  induction h with
  | start =>
    have hnext : s₀.directory.nextId = 0 := by rw [(eq_of_ofSettings h0).1]
    exact ⟨fun j hj => absurd hj (hnext ▸ Nat.not_lt_zero j), fun _ _ => rfl⟩
  | @snoc evs s ev hr hev ih =>
    have hs := hr.sound h0
    have hset : s.settings = settings := (hr.provided h0).2
    have hended := funext (hr.endedAccepts_snoc ev)
    cases ev with
    | listen socket family =>
      rw [hended]
      exact accepting_addListener ih hs hev (congrArg _ hset) family
    | bind socket family =>
      rw [hended]
      exact accepting_addDatagram ih hs hev family
    | shutdown order =>
      rw [hended]
      exact accepting_shutdown ih hs order
    | refuse k kind refusals =>
      rw [hended]
      refine ih.congr rfl rfl fun j => ?_
      have hsame := same_refuse s k kind refusals j
      exact Socket.accepting_congr (hsame.lane .accept) hsame.history
    | complete socket i c order =>
      obtain ⟨⟨op, k', ht, hret⟩, hf⟩ := hev
      obtain ⟨id, ha⟩ := hs.arrives hr ht hret order
      have hid : c.operation.endpoint = some id := hret.endpoint.trans ha.runs.endpoint
      rw [step_complete ht]
      refine accepting_handle ih ha hs (ha.informs hr hs hf) ?_ order
      rw [hended]
      funext j
      simp only [endsAccept, hid, Option.some.injEq]
      by_cases hj : id = j
      · subst hj
        cases c.endsAccept s.shuttingDown <;> simp
      · cases c.endsAccept s.shuttingDown <;> simp [hj, Ne.symm hj]

end Server

end OrderedEcho
