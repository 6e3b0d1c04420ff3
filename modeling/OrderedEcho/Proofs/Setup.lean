import OrderedEcho.Proofs.FanOut
import OrderedEcho.Proofs.Link.FirstPosts
import OrderedEcho.Proofs.Server.Failing

/-!
# Setting up endpoints

A listener and a datagram endpoint are set up by posting their first operations.  That is all or
nothing (`Run.setup_all_or_nothing`): either the endpoint is in service with all of them in flight,
or it was closed again, and when those that did get into flight have failed nothing is left of it.

Both kinds of endpoints are set up in the same way, so `AllOrNothing` says of any that comes to what
`Joins` says.
-/

namespace OrderedEcho

/-- Just `n` operations are in flight, all of one kind.  If they are receives, they are the first
ones of a datagram endpoint. -/
structure Socket.Holds (k : Socket) (kind : OperationKind) (n : Nat) : Prop where
  length : (k.lane kind).inFlight.length = n
  others : ∀ kind', kind' ≠ kind → (k.lane kind').inFlight = []
  slots : kind = .receive → k.receiving = List.range n

theorem Socket.Holds.length_inFlight {k : Socket} {kind : OperationKind} {n : Nat}
    (h : k.Holds kind n) : k.inFlight.length = n := by
  have hne := h.others
  rw [Socket.length_inFlight]
  cases kind with
  | accept => simp [h.length, hne .receive, hne .send]
  | receive => simp [h.length, hne .accept, hne .send]
  | send => simp [h.length, hne .accept, hne .receive]

theorem Socket.Holds.congr {k k' : Socket} {kind : OperationKind} {n : Nat} (h : k.Holds kind n)
    (hl : ∀ kind, (k'.lane kind).inFlight = (k.lane kind).inFlight) : k'.Holds kind n := by
  refine ⟨by rw [hl]; exact h.length, fun kind' hk => by rw [hl]; exact h.others kind' hk,
    fun hk => ?_⟩
  unfold Socket.receiving
  rw [hl]
  exact h.slots hk

theorem Link.Stocked.holds {l l' : Link} {kind : OperationKind} {ops : List Operation}
    (h : Link.Stocked kind ops l l') (hl : ∀ k, (l.socket.lane k).inFlight = [])
    (hn : kind = .receive → l.endpoint.resequencer.nextReceive = 0) :
    l'.socket.Holds kind ops.length := by
  refine ⟨?_, fun k hk => ?_, fun hk => ?_⟩
  · rw [h.inFlight, hl, if_pos rfl, List.nil_append]
  · rw [h.inFlight, hl, if_neg hk, List.append_nil]
  · have hslots := h.slots hk
    subst hk
    rw [hn rfl] at hslots
    unfold Socket.receiving
    rw [h.inFlight, hl, if_pos rfl, List.nil_append, List.range_eq_range']
    have hsome := congrArg (List.filterMap (fun t : Option Slot => t)) hslots
    simpa [List.filterMap_map, Function.comp_def] using hsome

namespace Server

variable {s₀ s s' : Server} {evs : List ServerEvent} {info : EndpointInfo} {socket : SocketId}
  {settings : Settings} {now : Int} {B B' : Book} {busy : List EndpointId} {held n : Nat}
  {kind : OperationKind} {post : Link → PostResult × Link} {x : Except PostError EndpointId × Server}
  {id : EndpointId}

/-- The pool has `n` operations to hand out, and the socket is going to take the next `n` posts of
that kind. -/
def Admits (s : Server) (socket : SocketId) (kind : OperationKind) (n : Nat) : Prop :=
  s.pool.Affords n ∧ ∀ i < n, (s.sockets.get socket).answer kind i = none

/-- The endpoint is in service with `n` first operations in flight. -/
structure InService (s : Server) (id : EndpointId) (socket : SocketId) (kind : OperationKind)
    (n : Nat) : Prop where
  registered : id ∈ s.directory.ids
  serves : (s.endpoints.get id).socket = socket
  opened : (s.endpoints.get id).closing = false
  holds : (s.sockets.get socket).Holds kind n

/-- The endpoint was closed with `n` of its first operations in flight, and it is registered as long
as there are any. -/
structure Revoked (s : Server) (id : EndpointId) (socket : SocketId) (kind : OperationKind)
    (n : Nat) : Prop where
  registered : id ∈ s.directory.ids ↔ n ≠ 0
  serves : (s.endpoints.get id).socket = socket
  closing : (s.endpoints.get id).closing
  closed : (s.sockets.get socket).closed
  holds : (s.sockets.get socket).Holds kind n

/-- What setting up an endpoint comes to. -/
structure AllOrNothing (s : Server) (socket : SocketId) (kind : OperationKind)
    (x : Except PostError EndpointId × Server) : Prop where
  ok_iff : (∃ id, x.1 = .ok id) ↔ s.Admits socket kind s.settings.fanOut
  keeps : ∀ j < s.directory.nextId, Keeps j s x.2
  done : ∀ id, x.1 = .ok id → id = s.directory.nextId ∧
    x.2.InService id socket kind s.settings.fanOut
  undone : ∀ e, x.1 = .error e → ∃ n < s.settings.fanOut,
    s.Admits socket kind n ∧ ¬ s.Admits socket kind (n + 1) ∧
    x.2.Revoked s.directory.nextId socket kind n ∧
    ∀ evs s', Run x.2 evs s' → (∀ ev ∈ evs, FailsOn socket ev) →
      (s'.sockets.get socket).inFlight.length + evs.length = n ∧
      (∀ j < s.directory.nextId, Keeps j s s') ∧
      (evs.length = n → s'.directory.members = s.directory.members ∧
        s'.pool.outstanding = s.pool.outstanding)

/-! ## The endpoint -/

/-- What the endpoint got into flight, and whether that was all. -/
theorem Joins.cases (hj : Joins s info socket post x) (hs : Sound B busy held s)
    (hf : Fresh s socket)
    (hpost : ∀ l : Link, ¬ l.Refuses → l.endpoint.resequencer.pending = [] →
      Link.Stocks kind l (post l))
    (hk : kind = .receive → info.kind.firstReceive = 0) :
    (x.1 = .ok info.id ∧ s.Admits socket kind s.settings.fanOut ∧
      x.2.InService info.id socket kind s.settings.fanOut) ∨
    ∃ e, x.1 = .error e ∧ ∃ n < s.settings.fanOut,
      s.Admits socket kind n ∧ ¬ s.Admits socket kind (n + 1) ∧
      (x.2.endpoints.get info.id).socket = socket ∧ (x.2.endpoints.get info.id).aborted ∧
      (x.2.sockets.get socket).Holds kind n := by
  have hstock := Link.stocking_postMany hpost
    (l := ⟨.ofInfo info socket, s.sockets.get socket, s.pool⟩)
    (Link.not_refuses rfl rfl) rfl s.settings.fanOut
  have hempty := hs.unowned socket hf.1
  cases hj with
  | @joined s' ha hl =>
    have hsock : (s'.endpoints.get info.id).socket = socket := ha.link.socket
    have hget : s'.sockets.get socket = (s'.link info.id).socket := by
      rw [← hsock]
      rfl
    rw [hl] at hstock
    generalize hl' : s'.link info.id = l' at hstock hget
    cases hstock with
    | all hn h =>
      refine Or.inl ⟨rfl, hn ▸ h.admits, ?_, hsock, ?_, hget ▸ hn ▸ h.holds hempty hk⟩
      · rw [ha.directory]
        exact Directory.mem_ids_insert.2 (Or.inl rfl)
      · exact (congrArg (·.endpoint.closing) hl').trans h.closing
  | @failed s' e ha hc hl =>
    obtain ⟨i, l, hl, hlink⟩ := hl
    have hsock : (s'.endpoints.get info.id).socket = socket := ha.link.socket
    have hget : s'.sockets.get socket = (l.close true).socket := by
      rw [← hsock, ← hlink]
      rfl
    rw [hl] at hstock
    cases hstock with
    | @cut ops l₁ _ _ hn h hx hlane _ =>
      refine Or.inr ⟨e, rfl, ops.length, hn, h.admits, fun had => hx ((h.admits_iff 1).2 had), ?_,
        ?_, (h.holds hempty hk).congr fun k => ?_⟩
      · exact (lift_retire (motive := fun e e' => e'.socket = e.socket) (fun _ => rfl)
          (fun _ => rfl) s' info.id info.id).trans hsock
      · refine (lift_retire (motive := fun e e' => e'.aborted = e.aborted) (fun _ => rfl)
          (fun _ => rfl) s' info.id info.id).trans ?_
        exact congrArg (·.endpoint.aborted) hlink
      · rw [inFlight_retire, hget, Link.inFlight_close, hlane]

/-- An endpoint that was closed again is registered as long as something is in flight. -/
theorem Sound.revoked (hs : Sound B [] held s) (hid : id < s.directory.nextId)
    (hsock : (s.endpoints.get id).socket = socket) (ha : (s.endpoints.get id).aborted)
    (hh : (s.sockets.get socket).Holds kind n) : s.Revoked id socket kind n := by
  have hl := hs.endpoint hid
  have hc := hl.lifecycle.closing_of_aborted ha
  have hout := hl.lifecycle.outstanding
  rw [hsock, hh.length_inFlight] at hout
  refine ⟨⟨fun hm h0 => ?_, fun hn => ?_⟩, hsock, hc, ?_, hh⟩
  · refine hs.notMem_ids hc ?_ hm
    rw [hsock, hh.length_inFlight, h0]
  · refine (hs.mem_ids id).2 ⟨hid, Bool.eq_false_iff.2 fun hd => hn ?_⟩
    rw [← hout, hl.lifecycle.settled hd]
  · rw [← hsock]
    exact hl.lifecycle.closed (Or.inl ha)

/-! ## The result -/

section Result

variable {ev : ServerEvent} {evs' : List ServerEvent}

/-- If nothing was owed before, nothing is owed while the new endpoint is closing. -/
theorem Joins.deferred_eq_zero (hj : Joins s info socket post x) (hs : Sound B [] held s)
    (hs₁ : Sound B' [] held x.2) (hid : info.id = s.directory.nextId) (hf : Fresh s socket)
    (hd : ∀ id ∈ s.directory.ids, (s.endpoints.get id).deferred = 0)
    (hc : (x.2.endpoints.get s.directory.nextId).closing) :
    ∀ j < x.2.directory.nextId, (x.2.endpoints.get j).deferred = 0 := by
  intro j hlt
  have hj' := hlt
  rw [hj.nextId] at hj'
  rcases Nat.lt_succ_iff_lt_or_eq.1 hj' with hold | rfl
  · rw [(hj.keeps hid hf hold).endpoint]
    by_contra hne
    exact hne (hd j (hs.mem_ids_of_deferred hold hne))
  · exact (hs₁.endpoint hlt).lifecycle.deferred_eq_zero hc

/-- While the operations of an endpoint fail that was closed again, the others do not notice, and
with the last one the endpoint is gone. -/
theorem Joins.failing (hj : Joins s info socket post x)
    (h0 : Server.ofSettings settings now = .ok s₀) (h : Run s₀ evs s) (h₁ : Run s₀ (evs ++ [ev]) x.2)
    (hid : info.id = s.directory.nextId) (hf : Fresh s socket)
    (hd : ∀ id ∈ s.directory.ids, (s.endpoints.get id).deferred = 0)
    (hrevoked : x.2.Revoked s.directory.nextId socket kind n) (hr : Run x.2 evs' s')
    (hfail : ∀ ev ∈ evs', FailsOn socket ev) :
    (s'.sockets.get socket).inFlight.length + evs'.length = n ∧
      (∀ j < s.directory.nextId, Keeps j s s') ∧
      (evs'.length = n → s'.directory.members = s.directory.members ∧
        s'.pool.outstanding = s.pool.outstanding) := by
  have hs := h.sound h0
  have hs₁ := h₁.sound h0
  have hs' := (h₁.trans hr).sound h0
  have hlast : s.directory.nextId < x.2.directory.nextId := hj.nextId ▸ Nat.lt_succ_self _
  have howed := hj.deferred_eq_zero hs hs₁ hid hf hd hrevoked.closing
  obtain ⟨hkeeps, hnext, hcount⟩ := h₁.failing h0 hlast hrevoked.serves howed hr hfail
  have hlen := h₁.length_inFlight_failing h0 hlast (hrevoked.serves.symm ▸ hrevoked.closed) hr hcount
  rw [hrevoked.serves, hrevoked.holds.length_inFlight] at hlen
  have hall (j : EndpointId) (hlt : j < s.directory.nextId) : Keeps j s s' :=
    (hj.keeps hid hf hlt).trans (hkeeps j (Nat.lt_trans hlt hlast) (Nat.ne_of_lt hlt))
  refine ⟨hlen, hall, fun hdone => ?_⟩
  have hg := (h₁.grows h0 hr).endpoint _ hlast
  refine hs.restored hs' hall (hnext.trans hj.nextId)
    (hs'.notMem_ids (hg.closing hrevoked.closing) ?_)
  rw [hg.socket, hrevoked.serves]
  omega

theorem Joins.allOrNothing (hj : Joins s info socket post x)
    (h0 : Server.ofSettings settings now = .ok s₀) (h : Run s₀ evs s) (h₁ : Run s₀ (evs ++ [ev]) x.2)
    (hid : info.id = s.directory.nextId) (hf : Fresh s socket)
    (hd : ∀ id ∈ s.directory.ids, (s.endpoints.get id).deferred = 0)
    (hpost : ∀ l : Link, ¬ l.Refuses → l.endpoint.resequencer.pending = [] →
      Link.Stocks kind l (post l))
    (hk : kind = .receive → info.kind.firstReceive = 0) : AllOrNothing s socket kind x := by
  have hkeeps (j : EndpointId) := hj.keeps hid hf (j := j)
  obtain ⟨hok, hadmits, hin⟩ | ⟨e, herr, n, hn, hadmits, hx, hsock, ha, hh⟩ :=
    hj.cases (h.sound h0) hf hpost hk
  · refine ⟨iff_of_true ⟨_, hok⟩ hadmits, hkeeps, fun id hid' => ?_, fun e he => ?_⟩
    · obtain rfl := Except.ok.inj (hok.symm.trans hid')
      exact ⟨hid, hin⟩
    · cases hok.symm.trans he
  · rw [hid] at hsock ha
    have hrevoked := (h₁.sound h0).revoked (hj.nextId ▸ Nat.lt_succ_self _) hsock ha hh
    refine ⟨iff_of_false (fun ⟨id, hid'⟩ => ?_) fun hall => ?_, hkeeps, fun id hid' => ?_,
      fun e' _ => ⟨n, hn, hadmits, hx, hrevoked, fun evs' s' hr hfail =>
        hj.failing h0 h h₁ hid hf hd hrevoked hr hfail⟩⟩
    · cases herr.symm.trans hid'
    · exact hx ⟨fun limit hl => Nat.le_trans hn (hall.1 limit hl),
        fun i hi => hall.2 i (Nat.lt_of_lt_of_le hi hn)⟩
    · cases herr.symm.trans hid'

end Result

/-- An endpoint is set up exactly if the pool has as many operations as its fan-out and the socket
takes as many posts, and then it is in service with all of them in flight.  Otherwise it is closed
again with those in flight that the pool and the socket did admit, and it is not even registered if
there are none.  Other endpoints do not notice.  Let the operations in flight fail, in any order and
with any errors: with the last of them the endpoint disappears, and the directory and the pool are
what they were. -/
theorem Run.setup_all_or_nothing (h0 : Server.ofSettings settings now = .ok s₀) (h : Run s₀ evs s)
    (hd : ∀ id ∈ s.directory.ids, (s.endpoints.get id).deferred = 0) (hf : Fresh s socket)
    (family : AddressFamily) :
    AllOrNothing s socket .accept (s.addListener socket family) ∧
      AllOrNothing s socket .receive (s.addDatagram socket family) :=
  ⟨(joins_addListener s socket family).allOrNothing h0 h (h.snoc (.listen socket family) hf) rfl hf
      hd (fun _ hr _ => Link.stocks_postNewAccept hr) nofun,
    (joins_addDatagram s socket family).allOrNothing h0 h (h.snoc (.bind socket family) hf) rfl hf
      hd (fun _ hr hw => Link.stocks_postNewReceive hr hw) fun _ => rfl⟩

/-- The second post on the socket is refused, when two are wanted. -/
def obstructing : Server :=
  mirroring.step (.refuse 0 .receive (.after 1 1 ⟨.connectionReset, "refused"⟩))

/-- The datagram endpoint is closed with one receive in flight, and with its failure the endpoint is
gone. -/
theorem setup_all_or_nothing_obstructing :
    let x := obstructing.addDatagram 0 .v4
    (∃ e, x.1 = .error e) ∧ x.2.Revoked 0 0 .receive 1 ∧
      (x.2.step setback).directory.members = obstructing.directory.members ∧
      (x.2.step setback).pool.outstanding = obstructing.pool.outstanding := by
  intro x
  have hrun : Run mirroring [.refuse 0 .receive (.after 1 1 ⟨.connectionReset, "refused"⟩)]
      obstructing := .snoc _ .start trivial
  have hf : Fresh obstructing 0 := ⟨nofun, rfl⟩
  have h := (Run.setup_all_or_nothing ofSettings_mirroring hrun nofun hf .v4).2
  obtain ⟨n, hn, hadmits, hx, hrevoked, hafter⟩ := h.undone _ rfl
  obtain rfl : n = 1 := hrevoked.holds.length.symm
  have hp : x.2.Possible setback := ⟨⟨_, _, rfl, ⟨rfl, rfl, rfl⟩⟩, nofun⟩
  obtain ⟨-, -, hdone⟩ := hafter [setback] _ (.snoc _ .start hp)
    fun ev hev => ⟨0, _, _, _, List.mem_singleton.1 hev, rfl⟩
  exact ⟨⟨_, rfl⟩, hrevoked, hdone rfl⟩

end Server

end OrderedEcho
