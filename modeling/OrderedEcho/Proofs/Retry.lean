import OrderedEcho.Proofs.OperationAccount
import OrderedEcho.Proofs.Wakeup

/-!
# Receives that are retried

Deferred receives are retried when an operation completes, so they are lost if nothing is in flight
on any socket.  When a server falls quiet in that way, the pool has all its operations, and an
endpoint to which receives are owed has just tried one of them, which its socket refused (`Tried`).
That is the only way to lose them (`Run.retried_unless_refused`), and there it happens: a socket
that refuses the same receive twice may never be asked again (`deferred_forever`).
-/

namespace OrderedEcho

namespace Socket

/-- The last thing that was asked of the socket is a receive, which it refused. -/
def LastRefused (k : Socket) : Prop :=
  ∃ op e, k.history.getLast? = some (.post .receive op (some e))

theorem taken_le_of_prefix {k k' : Socket} (h : k.history <+: k'.history) : k.taken ≤ k'.taken :=
  h.sublist.countP_le

theorem Refused.lastRefused {k k' : Socket} {op : Operation} {e : IoError}
    (h : k.Refused .receive op e k') : k'.LastRefused :=
  ⟨op, e, by rw [h.history, List.getLast?_concat]⟩

end Socket

namespace Link

variable {l l' : Link} {op : Operation} {t : Slot} {n : Nat}

/-! ## The first receive that is tried -/

/-- What trying to post a receive comes to, if nothing waits to be sent. -/
inductive Tries (l : Link) : PostResult × Link → Prop
  | started {l' : Link} (ht : l.socket.taken < l'.socket.taken) (hg : Grows l l') :
      Tries l (.ok (), l')
  | refused {l' : Link} (e : IoError) (hr : l'.socket.LastRefused) (hg : Grows l l') :
      Tries l (.error (.refused e), l')

theorem tries_postReceive (hr : ¬ l.Refuses) (h : l.endpoint.resequencer.pending = [])
    (op : Operation) : Tries l (l.postReceive op) := by
  have hd : l.endpoint.destroyed = false := Bool.eq_false_iff.2 fun hx => hr (Or.inr hx)
  have hg : Grows l (l.postReceive op).2 := (posted_postReceive hd op).grows
  unfold postReceive at hg ⊢
  rw [if_neg hr] at hg ⊢
  dsimp only at hg ⊢
  split at hg
  · next socket hp =>
    have htaken := (Socket.took_of_post hp).taken
    exact .started (Nat.lt_of_lt_of_eq (Nat.lt_succ_self _) htaken.symm) hg
  · next e socket hp =>
    refine .refused e ?_ hg
    rw [socket_fill_skip]
    · exact (Socket.refused_of_post hp).lastRefused
    · exact h

theorem tries_postNewReceive (hd : l.endpoint.destroyed = false)
    (hc : l.endpoint.closing = false) (h : l.endpoint.resequencer.pending = [])
    (hx : l.pool.exhausted? = none) : Tries l l.postNewReceive := by
  unfold postNewReceive
  rw [if_neg (by rw [hc]; decide)]
  split
  · next op pool ha =>
    have hr : ¬ Refuses { l with pool } := by
      rintro (hx | hx)
      · exact absurd (hc.symm.trans hx) (by decide)
      · exact absurd (hd.symm.trans hx) (by decide)
    have hs := (spares_allocate ha).toGrows
    have ht := tries_postReceive hr h op
    generalize postReceive { l with pool } op = x at ht ⊢
    cases ht with
    | started ht hg => exact .started ht (hs.trans hg)
    | refused e hr hg => exact .refused e hr (hs.trans hg)
  · next e he => exact absurd (hx.symm.trans (Pool.allocate_eq_error_iff.1 he)) nofun

/-- An endpoint with nothing to send retries its receives while the pool has operations.  Then the
socket starts a receive, or receives are owed to a datagram endpoint whose socket refused the first
of them, and nothing else was tried. -/
theorem tries_settle_resume (hd : l.endpoint.destroyed = false)
    (hc : l.endpoint.closing = false) (h : l.endpoint.resequencer.pending = [])
    (hx : l.pool.exhausted? = none) (h0 : l.endpoint.deferred ≠ 0)
    (howed : (settle l.resume).2.endpoint.deferred ≠ 0) :
    l.socket.taken < (settle l.resume).2.socket.taken ∨
      l.endpoint.kind = .datagram ∧ (settle l.resume).2.socket.LastRefused := by
  have ht : Tries l.forgoDeferred l.forgoDeferred.postNewReceive := tries_postNewReceive hd hc h hx
  obtain ⟨n, hn⟩ := Nat.exists_eq_succ_of_ne_zero h0
  unfold resume at howed ⊢
  rw [hn] at howed ⊢
  unfold postMany at howed ⊢
  rw [show { l with endpoint := { l.endpoint with deferred := 0 } } = l.forgoDeferred from rfl]
    at howed ⊢
  generalize l.forgoDeferred.postNewReceive = x at ht howed ⊢
  cases ht with
  | @started l₁ ht hg =>
    have hb := batch_postMany (hg.destroyed.trans hd) n
    have hlater {l' : Link} (hg' : Grows l₁ l') : l.socket.taken < l'.socket.taken :=
      Nat.lt_of_lt_of_le ht (Socket.taken_le_of_prefix hg'.history)
    dsimp only
    split
    · next l' hl => exact Or.inl (hlater ((hl ▸ hb).grows))
    · next i l' hl =>
      exact Or.inl (hlater (((hl ▸ hb).grows).trans ((grows_defer l' _).trans (grows_settle _ _))))
  | @refused l₁ e hr hg =>
    have hkind : l₁.endpoint.kind = l.endpoint.kind := hg.kind
    dsimp only [settle] at howed ⊢
    rw [hkind] at howed ⊢
    split at howed
    · next hk =>
      rw [if_pos hk]
      exact Or.inr ⟨hk, hr⟩
    · rw [endpoint_close] at howed
      exact absurd rfl howed

end Link

namespace Server

variable {F F' : EndpointInfo → SocketId → Nat → Prop} {B B' : Book}
  {busy busy' todo : List EndpointId} {held held' : Nat} {s s' s₀ : Server} {i j : EndpointId}
  {socket : SocketId} {info : EndpointInfo} {evs : List ServerEvent} {settings : Settings} {now : Int}

/-! ## Silence -/

/-- Nothing is in flight. -/
def Quiet (s : Server) : Prop := ∀ k, (s.sockets.get k).inFlight = []

/-- Between completions, what the socket of an endpoint starts comes on top of what is in flight. -/
theorem Grows.length_inFlight (hg : Grows s s') (hs : Sound B busy held s)
    (hs' : Sound B busy' held' s') (hi : i < s.directory.nextId) :
    (s'.sockets.get (s.endpoints.get i).socket).inFlight.length +
        (s.sockets.get (s.endpoints.get i).socket).taken =
      (s.sockets.get (s.endpoints.get i).socket).inFlight.length +
        (s'.sockets.get (s.endpoints.get i).socket).taken := by
  have hl := (hs'.endpoint (Nat.lt_of_lt_of_le hi hg.nextId)).tallied.taken
  have hbook : B.of (s'.endpoints.get i) = B.of (s.endpoints.get i) := by
    unfold Book.of
    rw [(hg.endpoint i hi).info, (hg.endpoint i hi).socket]
  rw [hbook, (hg.endpoint i hi).socket] at hl
  have := (hs.endpoint hi).tallied.taken
  omega

theorem Sound.quiet_of_owned (hs : Sound B busy held s)
    (h : ∀ i < s.directory.nextId, (s.sockets.get (s.endpoints.get i).socket).inFlight = []) :
    Quiet s := by
  intro k
  by_cases ho : Owned s k
  · obtain ⟨i, hi, rfl⟩ := ho
    exact h i hi
  · refine List.eq_nil_of_length_eq_zero ?_
    simp only [Socket.length_inFlight, hs.unowned k (not_owned_iff.1 ho), List.length_nil]

theorem Sound.quiet_of_ids (hs : Sound B busy held s)
    (h : ∀ i ∈ s.directory.ids, (s.sockets.get (s.endpoints.get i).socket).inFlight = []) :
    Quiet s := by
  refine hs.quiet_of_owned fun i hi => ?_
  by_cases hid : i ∈ s.directory.ids
  · exact h i hid
  · exact List.eq_nil_of_length_eq_zero
      (Nat.add_eq_zero_iff.1 (hs.load_link_eq_zero hi hid)).1

theorem Quiet.earlier (h : Quiet s') (hg : Grows s s') (hs : Sound B busy held s)
    (hs' : Sound B busy' held' s') : Quiet s := by
  refine hs.quiet_of_owned fun i hi => List.eq_nil_of_length_eq_zero ?_
  have hlen := hg.length_inFlight hs hs' hi
  have htaken := Socket.taken_le_of_prefix (hg.history (s.endpoints.get i).socket)
  rw [h, List.length_nil] at hlen
  omega

theorem Quiet.idle (h : Quiet s) (hs : Sound B busy held s) (hi : i < s.directory.nextId) :
    (s.endpoints.get i).resequencer.pending = [] := by
  have hl := hs.endpoint hi
  have h0 : (s.endpoints.get i).outstanding = 0 := by
    rw [hl.lifecycle.outstanding, h]
    rfl
  exact Resequencer.pending_eq_nil (hl.isIdle h0)

/-- The pool of a quiet server is whole. -/
theorem Quiet.outstanding (h : Quiet s) (hs : Sound B busy held s) :
    s.pool.outstanding = held := by
  have hload : s.load = 0 := Finset.sum_eq_zero fun i hi => by
    unfold link Link.load
    dsimp only
    rw [h, h.idle hs (Finset.mem_range.1 hi)]
    rfl
  rw [hs.funds.outstanding, hload, Nat.zero_add]

/-! ## Retrying in the quiet -/

/-- If nothing is in flight, receives are owed only to datagram endpoints whose sockets refused the
last receive that was tried, apart from the endpoints in the list, which are about to try again. -/
def Tried (todo : List EndpointId) (s : Server) : Prop :=
  Quiet s → ∀ j < s.directory.nextId, (s.endpoints.get j).deferred ≠ 0 → j ∈ todo ∨
    (s.endpoints.get j).kind = .datagram ∧
      (s.sockets.get (s.endpoints.get j).socket).LastRefused

/-- Suppose that an endpoint retries its receives and nothing is in flight afterwards.  If receives
are still owed to it, its socket refused the first of them. -/
theorem Quiet.refused_of_deferred (h : Quiet (s.resume i)) (hs : Sound B [] 0 s)
    (hlim : ∀ n, s.pool.limit = some n → 0 < n) (hi : i < s.directory.nextId)
    (hx : ((s.resume i).endpoints.get i).deferred ≠ 0) :
    ((s.resume i).endpoints.get i).kind = .datagram ∧
      ((s.resume i).sockets.get ((s.resume i).endpoints.get i).socket).LastRefused := by
  have hl : Later B [] 0 s (s.resume i) := later_foldl_resume [i] hs
  have hbefore := h.earlier hl.grows hs hl.sound
  obtain ⟨hn, he⟩ | ⟨s', hid, h0, ha, hlink, he⟩ := hs.resume_cases i
  · rw [he] at hx
    exact absurd ⟨hs.mem_ids_of_deferred hi hx, hx⟩ hn
  · -- it is still open, so it was not retired
    have hopen := hl.sound.closing_of_deferred (Nat.lt_of_lt_of_le hi hl.grows.nextId) hx
    have hclosing := lift_retire (motive := fun e e' => e'.closing = e.closing) (fun _ => rfl)
      (fun _ => rfl) s' i i
    have hsame : s.resume i = s' := by
      rw [he] at hopen ⊢
      rw [retire_of_not fun hd => absurd (hopen.symm.trans (hclosing.trans hd.2.1)) (by decide)]
    have hexhausted : s.pool.exhausted? = none := Option.eq_none_iff_forall_ne_some.2 fun x hx => by
      obtain ⟨n, hn, hle⟩ := Pool.isSome_exhausted_iff.1 (Option.isSome_of_mem hx)
      rw [hbefore.outstanding hs] at hle
      exact absurd (hlim n hn) (Nat.not_lt.2 hle)
    rw [← hsame] at ha hlink
    have htries := Link.tries_settle_resume ((hs.mem_ids i).1 hid).2
      (hs.closing_of_deferred hi h0) (hbefore.idle hs hi) hexhausted h0 (by rw [← hlink]; exact hx)
    rw [← hlink] at htries
    refine htries.elim (fun htaken => ?_) fun hr => ⟨ha.link.kind.trans hr.1, hr.2⟩
    -- what the socket started would be in flight
    have hlen := hl.grows.length_inFlight hs hl.sound hi
    have hsocket : ((s.resume i).endpoints.get i).socket = (s.endpoints.get i).socket :=
      ha.socket_eq
    unfold link at htaken
    dsimp only at htaken
    rw [hsocket] at htaken
    rw [h, hbefore] at hlen
    omega

theorem tried_resume (h : Tried (i :: todo) s) (hs : Sound B [] 0 s)
    (hlim : ∀ n, s.pool.limit = some n → 0 < n) : Tried todo (s.resume i) := by
  intro hquiet j hj hx
  have hl : Later B [] 0 s (s.resume i) := later_foldl_resume [i] hs
  rw [hs.nextId_resume] at hj
  by_cases hji : j = i
  · subst hji
    exact Or.inr (hquiet.refused_of_deferred hs hlim hj hx)
  · obtain ⟨he, hk⟩ := hs.resume_of_ne hj hji
    rw [he] at hx ⊢
    rw [hk]
    refine (h (hquiet.earlier hl.grows hs hl.sound) j hj hx).imp_left fun hm => ?_
    exact (List.mem_cons.1 hm).resolve_left hji

theorem tried_foldl_resume (ids : List EndpointId) (h : Tried ids s) (hs : Sound B [] 0 s)
    (hlim : ∀ n, s.pool.limit = some n → 0 < n) : Tried [] (ids.foldl resume s) := by
  induction ids generalizing s with
  | nil => exact h
  | cons i ids ih =>
    have hl := later_foldl_resume [i] hs
    exact ih (tried_resume h hs hlim) hl.sound fun n hn => hlim n (hl.grows.limit.symm.trans hn)

theorem Provided.tried (h : Provided F [] s) (hs : Sound B [] 0 s)
    (hlim : ∀ n, s.pool.limit = some n → 0 < n) (order : VisitingOrder) :
    Tried [] (s.resumeStarved order) := by
  refine tried_foldl_resume (order.arrange s.starved.toList) (fun _ j hj hx => Or.inl ?_)
    (later_clearStarved hs).sound hlim
  exact VisitingOrder.mem_arrange.2 (h.mem_starved hs hj hx)

/-! ## New endpoints -/

/-- A new endpoint leaves the others alone, and nothing is owed to it. -/
theorem Joins.tried {post : Link → PostResult × Link} {x : Except PostError EndpointId × Server}
    (hj : Joins s info socket post x) (hf : Fresh s socket) (hid : info.id = s.directory.nextId)
    (hs : Sound B [] 0 s) (hs' : Sound B [] 0 x.2) (hp : Provided F [] s)
    (hp' : Provided F' [] x.2) (h : Tried [] s) : Tried [] x.2 := by
  intro hquiet j hlt hx
  have hbefore := hquiet.earlier (hj.grows hid) hs hs'
  rw [hj.nextId] at hlt
  rcases Nat.lt_succ_iff_lt_or_eq.1 hlt with hold | rfl
  · rw [hj.endpoint_of_ne (hid ▸ Nat.ne_of_lt hold)] at hx ⊢
    rw [hj.socket_of_ne (hf.1 j hold)]
    exact h hbefore j hold hx
  · exact absurd (hid ▸ hj.deferred_new hid hs hs' hp hp') hx

/-! ## Runs -/

theorem Run.limit_pos (h0 : Server.ofSettings settings now = .ok s₀) (h : Run s₀ evs s) (n : Nat)
    (hn : s.pool.limit = some n) : 0 < n := by
  obtain ⟨-, hfan, -, hlimit, -⟩ := Settings.check_eq_ok_iff.1 (check_of_ofSettings h0)
  exact Nat.lt_of_lt_of_le hfan (hlimit n ((h.limit_eq h0).symm.trans hn))

theorem Run.tried (h0 : Server.ofSettings settings now = .ok s₀) (h : Run s₀ evs s) :
    Tried [] s := by
  induction h with
  | start =>
    intro _ j hj
    rw [(eq_of_ofSettings h0).1] at hj
    exact absurd hj (Nat.not_lt_zero j)
  | @snoc evs s ev hr hev ih =>
    have hs := hr.sound h0
    have hl := (hr.step hs hev).1
    have hp := (hr.provided h0).1
    have hp' := ((hr.snoc ev hev).provided h0).1
    cases ev with
    | listen socket family =>
      exact (joins_addListener s socket family).tried hev rfl hs
        (later_addListener hs hev family).1.sound hp hp' ih
    | bind socket family =>
      exact (joins_addDatagram s socket family).tried hev rfl hs
        (later_addDatagram hs hev family).1.sound hp hp' ih
    | shutdown =>
      intro _ j hj hx
      exact absurd ((down_shutdown hs _).deferred_eq_zero hl.sound hj) hx
    | refuse k kind r =>
      have hlater := later_refuse hs k kind r
      intro hquiet j hj hx
      refine (ih (hquiet.earlier hlater.grows hs hlater.sound) j hj hx).imp_right
        (And.imp_right ?_)
      rintro ⟨op, e, hr⟩
      exact ⟨op, e, (congrArg List.getLast? (same_refuse s k kind r _).history).trans hr⟩
    | complete =>
      obtain ⟨s', -, he, hlater, hstarved⟩ := hr.interim h0 hev
      rw [he]
      refine hstarved.tried hlater.sound (fun n hn => ?_) _
      exact hr.limit_pos h0 n (hlater.grows.limit.symm.trans hn)

/-- A registered endpoint to which receives are owed retries them when the next operation completes,
and there is an operation in flight.  The exception is a datagram endpoint whose socket was last
asked for a receive and refused it. -/
theorem Run.retried_unless_refused (h0 : Server.ofSettings settings now = .ok s₀)
    (h : Run s₀ evs s) (hid : i ∈ s.directory.ids) (hd : 0 < (s.endpoints.get i).deferred) :
    (∃ j ∈ s.directory.ids, (s.sockets.get (s.endpoints.get j).socket).inFlight ≠ []) ∨
      (s.endpoints.get i).kind = .datagram ∧
        ∃ op e, (s.sockets.get (s.endpoints.get i).socket).history.getLast? =
          some (.post .receive op (some e)) := by
  have hs := h.sound h0
  by_cases hquiet : Quiet s
  · right
    exact (h.tried h0 hquiet i (hs.lt_nextId hid) (Nat.ne_of_gt hd)).resolve_left List.not_mem_nil
  · left
    by_contra hn
    push Not at hn
    exact hquiet (hs.quiet_of_ids hn)

/-- A server for datagrams whose pool has one operation only. -/
def thrifty : Server where
  settings := { protocol := .udp, fanOut := 1, workers := 1, limit := some 1 }
  pool := { bufferSize := 4096, cacheSize := 1024, limit := some 1 }
  endpoints := { blank := .absent }
  meter := .startingAt 0

theorem ofSettings_thrifty : Server.ofSettings
    { protocol := .udp, fanOut := 1, workers := 1, limit := some 1 } 0 = .ok thrifty := rfl

/-- A datagram endpoint is added, and its receive delivers a byte. -/
def delivery : List ServerEvent := [
  .bind 0 .v4,
  .complete 0 0 {
    operation := {
      kind := .receive, endpoint := some 0, buffer := ⟨[97], 4096⟩, capacity := 4096
      peer := some ⟨.v4 0x7f000001, 4000, 0⟩, slot := some 0 }
    result := .ok 1 } .listed]

/-- The only operation echoes the byte, so the next receive is owed.  It is retried when the echo was
sent. -/
theorem retried_unless_refused_delivery :
    let s := delivery.foldl step thrifty
    (s.endpoints.get 0).kind = .datagram ∧ (s.endpoints.get 0).deferred = 1 ∧
      ∃ j ∈ s.directory.ids, (s.sockets.get (s.endpoints.get j).socket).inFlight ≠ [] := by
  intro s
  have hbind : Run thrifty (delivery.take 1) ((delivery.take 1).foldl step thrifty) :=
    .snoc _ .start ⟨nofun, rfl⟩
  have hr : Run thrifty delivery s := .snoc _ hbind ⟨⟨_, _, rfl, ⟨rfl, rfl, rfl⟩⟩, nofun⟩
  have hid : 0 ∈ s.directory.ids := Directory.contains_iff.1 rfl
  refine ⟨rfl, rfl, (Run.retried_unless_refused ofSettings_thrifty hr hid
    Nat.one_pos).resolve_right ?_⟩
  rintro ⟨-, op, e, hlast⟩
  have hsend : (s.sockets.get 0).history.getLast? = some (.post .send _ none) := rfl
  cases hsend.symm.trans hlast

/-! ## A socket that refuses twice -/

/-- A server for datagrams that posts one receive at a time. -/
def lone : Server where
  settings := { protocol := .udp, fanOut := 1, workers := 1 }
  pool := { bufferSize := 4096, cacheSize := 1024 }
  endpoints := { blank := .absent }
  meter := .startingAt 0

theorem ofSettings_lone :
    Server.ofSettings { protocol := .udp, fanOut := 1, workers := 1 } 0 = .ok lone := rfl

/-- The receive of a datagram endpoint fails, and the socket refuses it when it is posted again and
when it is retried. -/
def mishap : List ServerEvent :=
  [.bind 0 .v4, .refuse 0 .receive (.after 0 2 ⟨.connectionRefused, "port unreachable"⟩), setback]

theorem run_mishap : Run lone mishap (mishap.foldl step lone) := by
  have hf : Fresh lone 0 := ⟨nofun, rfl⟩
  have h1 : Run lone (mishap.take 1) ((mishap.take 1).foldl step lone) := .snoc _ .start hf
  have h2 : Run lone (mishap.take 2) ((mishap.take 2).foldl step lone) := .snoc _ h1 trivial
  exact .snoc _ h2 ⟨⟨_, _, rfl, ⟨rfl, rfl, rfl⟩⟩, nofun⟩

/-- A refused datagram receive may be lost: the endpoint stays open, with a receive that is owed to
it, and nothing is in flight that could make the server retry it. -/
theorem deferred_forever : ¬ ∀ (settings : Settings) (now : Int) (s₀ s : Server)
    (evs : List ServerEvent) (i : EndpointId), Server.ofSettings settings now = .ok s₀ →
    Run s₀ evs s → (∀ order, .shutdown order ∉ evs) → i ∈ s.directory.ids →
    (s.endpoints.get i).kind = .datagram → 0 < (s.endpoints.get i).deferred →
    ∃ j ∈ s.directory.ids, (s.sockets.get (s.endpoints.get j).socket).inFlight ≠ [] := by
  intro h
  obtain ⟨j, hj, hn⟩ := h _ _ _ _ _ 0 ofSettings_lone run_mishap (by simp [mishap, setback])
    (Directory.contains_iff.1 rfl) rfl Nat.one_pos
  obtain rfl : j = 0 := List.mem_singleton.1 hj
  exact hn rfl

end Server

end OrderedEcho
