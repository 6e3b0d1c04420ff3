import OrderedEcho.Proofs.EchoOrder

/-!
# The graceful end of a stream

A stream that meets its end, and no failure, loses nothing (`Run.graceful_end`): when it is
destroyed, all that it received was sent, in order, and all those sends succeeded while its socket
was open.  It does not matter in which order its operations completed.
-/

namespace OrderedEcho

namespace Server

variable {s₀ s : Server} {evs : List ServerEvent} {id : EndpointId} {t : Slot} {c : Completion}
  {op : Operation} {settings : Settings} {now : Int}

/-- The data that was received in slot `t`. -/
def received (evs : List ServerEvent) (id : EndpointId) (t : Slot) : List UInt8 :=
  (receipts evs id t).flatMap fun c =>
    match c.result with
    | .ok n => c.operation.payload.take n
    | .error _ => []

/-- The event is a completion with which the open socket `k` says that the send `op` succeeded. -/
def Succeeds (k : SocketId) (op : Operation) (s : Server) (ev : ServerEvent) : Prop :=
  ∃ i c order socket n, ev = .complete k i c order ∧
    (s.sockets.get k).take? .send i = some (op, socket) ∧ op.ReturnsAs c.operation ∧
    c.result = .ok n ∧ (s.sockets.get k).closed = false

/-! ## Sends that succeed -/

/-- The send came back while the endpoint was registered, so its socket was open, and if it had
failed, the endpoint would have been aborted. -/
theorem Run.succeeded (h0 : Server.ofSettings settings now = .ok s₀) (h : Run s₀ evs s)
    (hid : id < s.directory.nextId) (hkind : (s.endpoints.get id).kind ≠ .datagram)
    (ha : (s.endpoints.get id).aborted = false) (hop : op.kind = .send)
    (hback : Once s₀ evs (Returns (s.endpoints.get id).socket op)) :
    Once s₀ evs (Succeeds (s.endpoints.get id).socket op) := by
  obtain ⟨before, s₁, ev, after, rfl, hr, i, c, order, socket, rfl, htake, hret⟩ := hback
  obtain ⟨hp, hrest⟩ := (h.rest hr).of_cons
  have hs₁ := hr.sound h0
  obtain ⟨id₁, hA⟩ := hs₁.arrives hr htake hret order
  have hid₁ := hs₁.lt_nextId hA.registered
  have hg := hr.grows h0 (h.rest hr)
  have he := hg.endpoint id₁ hid₁
  -- no other endpoint is on that socket, so it was this one whose send came back
  have hone : id₁ = id := (h.sound h0).socket_inj id₁ (Nat.lt_of_lt_of_le hid₁ hg.nextId) id hid
    (he.socket.trans hA.owner)
  subst hone
  have ha₁ : (s₁.endpoints.get id₁).aborted = false :=
    Bool.eq_false_iff.2 fun hx => absurd (ha.symm.trans (he.aborted hx)) (by decide)
  have hopen : (s₁.sockets.get (s.endpoints.get id₁).socket).closed = false := by
    rw [he.socket]
    exact (hs₁.endpoint hid₁).lifecycle.closed_eq_false ha₁ ((hs₁.mem_ids id₁).1 hA.registered).2
  have hkind₁ : (s₁.endpoints.get id₁).kind ≠ .datagram := by
    rwa [← congrArg EndpointInfo.kind he.info]
  cases hres : c.result with
  | ok n =>
    rw [hret.kind, hop] at htake
    exact ⟨before, s₁, _, after, rfl, hr, i, c, order, socket, n, rfl, htake, hret, hres, hopen⟩
  | error x =>
    -- the failure would have aborted the endpoint, and that is never undone
    have hx := hA.aborted hs₁ hop hkind₁ hres order
    rw [← step_complete htake] at hx
    have hn := (hr.step hs₁ hp).1.grows.nextId
    have hlast := (hr.snoc _ hp).grows h0 hrest
    have haborted := (hlast.endpoint id₁ (Nat.lt_of_lt_of_le hid₁ hn)).aborted hx
    exact absurd (ha.symm.trans haborted) (by decide)

/-! ## Data that is sent -/

/-- A slot of a stream beyond slot 0 that was passed: what its receive delivered was sent, unless it
delivered nothing. -/
theorem Sound.sent_or_empty (h : Sound (book s₀ evs) [] 0 s) (hr : Run s₀ evs s)
    (h0 : Server.ofSettings settings now = .ok s₀) (hid : id < s.directory.nextId)
    (hk : (s.endpoints.get id).kind = .stream) (ht : t < (s.endpoints.get id).resequencer.nextSend)
    (hpos : 0 < t) :
    (∃ op c n, (s.sockets.get (s.endpoints.get id).socket).sentIn t = [op] ∧
      receipts evs id t = [c] ∧ c.result = .ok n ∧ n ≠ 0 ∧
      op.payload = c.operation.payload.take n) ∨
    (s.sockets.get (s.endpoints.get id).socket).sentIn t = [] ∧
      ∀ c ∈ receipts evs id t, c.result = .ok 0 := by
  obtain ⟨x, hx, hsent⟩ := (h.endpoint hid).echoed.passed t ht
  have ho := h.echoes_or_silent hr h0 hid hx
  have hne : ¬ ((s.endpoints.get id).kind = .stream ∧ t = 0) := fun hz => Nat.ne_of_gt hpos hz.2
  unfold Echoes Silent at ho
  simp only [if_neg hne, h.id_eq id hid] at ho
  cases x with
  | data op =>
    obtain ⟨c, n, hrec, hres, hn, hp, -⟩ := ho
    exact Or.inl ⟨op, c, n, hsent, hrec, hres, hn hk, hp⟩
  | skip =>
    refine Or.inr ⟨hsent, fun c hc => ?_⟩
    rcases ho with ⟨-, hrec⟩ | ⟨c', hrec, ⟨-, hres⟩ | ⟨hdatagram, -⟩⟩
    · rw [hrec] at hc
      cases hc
    · rw [hrec] at hc
      rwa [List.mem_singleton.1 hc]
    · rw [hk] at hdatagram
      cases hdatagram

/-- What was sent in a slot is what was received in it. -/
theorem Sound.payload_sentIn (h : Sound (book s₀ evs) [] 0 s) (hr : Run s₀ evs s)
    (h0 : Server.ofSettings settings now = .ok s₀) (hid : id < s.directory.nextId)
    (hk : (s.endpoints.get id).kind = .stream) (ht : t < (s.endpoints.get id).resequencer.nextSend)
    (hpos : 0 < t) :
    ((s.sockets.get (s.endpoints.get id).socket).sentIn t).flatMap Operation.payload =
      received evs id t := by
  unfold received
  rcases h.sent_or_empty hr h0 hid hk ht hpos with
    ⟨op, c, n, hsent, hrec, hres, -, hp⟩ | ⟨hsent, hempty⟩
  · rw [hsent, hrec, List.flatMap_singleton, List.flatMap_singleton, hres, hp]
  · rw [hsent, List.flatMap_nil]
    refine (List.flatMap_eq_nil_iff.2 fun c hc => ?_).symm
    rw [hempty c hc]
    exact List.take_zero

/-! ## The end -/

/-- A stream that was destroyed without being aborted has sent what it received: its next send is
its next receive; what a receive delivered was sent in one piece; the sends are in the order of the
receives; and all of them succeeded while the socket was open. -/
theorem Run.graceful_end (h0 : Server.ofSettings settings now = .ok s₀) (h : Run s₀ evs s)
    (hid : id < s.directory.nextId) (hk : (s.endpoints.get id).kind = .stream)
    (hd : (s.endpoints.get id).destroyed) (ha : (s.endpoints.get id).aborted = false) :
    let e := s.endpoints.get id
    let sends := (s.sockets.get e.socket).started .send
    e.resequencer.nextSend = e.resequencer.nextReceive ∧
    (∀ t, ∀ c ∈ receipts evs id t, ∀ n, 0 < n → c.result = .ok n →
      ∃ op, sends.filter (·.slot = some t) = [op] ∧
        op.payload = c.operation.payload.take n) ∧
    (sends.filter (·.slot ≠ some 0)).flatMap Operation.payload =
      (List.range' 1 (e.resequencer.nextReceive - 1)).flatMap (received evs id) ∧
    ∀ op ∈ sends, Once s₀ evs (Succeeds e.socket op) := by
  intro e sends
  have hs := h.sound h0
  have hl : Link.Sound (book s₀ evs e.toEndpointInfo e.socket) e (s.sockets.get e.socket) [] false :=
    hs.endpoint hid
  have hid' : e.id = id := hs.id_eq id hid
  have hne : e.kind ≠ .datagram := by
    rw [hk]
    decide
  have hsends : sends = (s.sockets.get e.socket).handed .send := hl.shipped.started hne ha
  have hnext : e.resequencer.nextReceive = e.resequencer.nextSend :=
    (hl.accounted.finished hd).resolve_left (by rw [ha]; decide)
  refine ⟨hnext.symm, ?_, ?_, ?_⟩
  · intro t c hc n hn hres
    obtain ⟨hfirst, hlt⟩ := hl.numbered.mem_slots (hs.mem_handed hid (hid'.symm ▸ hc))
    rw [hk] at hfirst
    rw [hsends]
    rcases hs.sent_or_empty h h0 hid hk (hnext ▸ hlt) hfirst with
      ⟨op, c', n', hsent, hrec, hres', -, hp⟩ | ⟨-, hempty⟩
    · rw [hrec] at hc
      obtain rfl := List.mem_singleton.1 hc
      obtain rfl := Except.ok.inj (hres.symm.trans hres')
      exact ⟨op, hsent, hp⟩
    · have hzero := Except.ok.inj (hres.symm.trans (hempty c hc))
      exact absurd hzero (Nat.ne_of_gt hn)
  · rw [hsends, ← hl.echoed.flatMap_sentIn_of_ne_zero, List.flatMap_assoc, hnext]
    apply List.flatMap_congr
    intro t ht
    obtain ⟨hpos, hlt⟩ := mem_range'_one.1 ht
    exact hs.payload_sentIn h h0 hid hk hlt hpos
  · intro op hop
    obtain ⟨t, hop'⟩ := hl.echoed.sendsFor (hsends ▸ hop)
    have hnone := Socket.lane_eq_nil_of_length (hl.lifecycle.outstanding ▸ hl.lifecycle.settled hd)
    refine h.succeeded h0 hid hne ha hop'.kind ((hl.shipped.answered op hop).resolve_left ?_)
    rw [hnone]
    exact List.not_mem_nil

/-! ## A conversation

A client sends two bytes with its connection, then three more, and closes.  Its end arrives before
the three bytes do, and the echoes complete in the reverse order. -/

/-- A server for streams that posts two receives at a time. -/
def hosting : Server where
  settings := { protocol := .tcp, fanOut := 2, workers := 1 }
  pool := { bufferSize := 4096, cacheSize := 1024 }
  endpoints := { blank := .absent }
  meter := .startingAt 0

def conversation : List ServerEvent := [
  .listen 0 .v4,
  .complete 0 0 {
    operation := { kind := .accept, endpoint := some 0, buffer := ⟨[104, 105], 2⟩, capacity := 0 }
    result := .ok 2
    accepted := some ⟨1, ⟨.v4 0x7f000001, 4000, 0⟩⟩ } .listed,
  .complete 1 1 {
    operation := {
      kind := .receive, endpoint := some 1, buffer := ⟨[], 4096⟩, capacity := 4096, slot := some 2 }
    result := .ok 0 } .listed,
  .complete 1 0 {
    operation := {
      kind := .receive, endpoint := some 1, buffer := ⟨[97, 98, 99], 4096⟩, capacity := 4096,
      slot := some 1 }
    result := .ok 3 } .listed,
  .complete 1 1 {
    operation := {
      kind := .send, endpoint := some 1, buffer := ⟨[97, 98, 99], 4096⟩, capacity := 4096,
      slot := some 1 }
    result := .ok 3 } .listed,
  .complete 1 0 {
    operation := {
      kind := .send, endpoint := some 1, buffer := ⟨[104, 105], 2⟩, capacity := 2, slot := some 0 }
    result := .ok 2 } .listed]

theorem ofSettings_hosting :
    Server.ofSettings { protocol := .tcp, fanOut := 2, workers := 1 } 0 = .ok hosting := rfl

/-- The server after the first `n` events of the conversation. -/
def afterConversation (n : Nat) : Server := (conversation.take n).foldl step hosting

theorem run_conversation : Run hosting conversation (afterConversation 6) := by
  have h1 : Run hosting (conversation.take 1) (afterConversation 1) := .snoc _ .start ⟨nofun, rfl⟩
  have h2 : Run hosting (conversation.take 2) (afterConversation 2) := by
    refine .snoc _ h1 ⟨⟨_, _, rfl, ⟨rfl, rfl, rfl⟩⟩, fun a ha => ?_⟩
    obtain rfl := Option.some.inj ha
    exact ⟨by decide, rfl⟩
  have h3 : Run hosting (conversation.take 3) (afterConversation 3) :=
    .snoc _ h2 ⟨⟨_, _, rfl, ⟨rfl, rfl, rfl⟩⟩, nofun⟩
  have h4 : Run hosting (conversation.take 4) (afterConversation 4) :=
    .snoc _ h3 ⟨⟨_, _, rfl, ⟨rfl, rfl, rfl⟩⟩, nofun⟩
  have h5 : Run hosting (conversation.take 5) (afterConversation 5) :=
    .snoc _ h4 ⟨⟨_, _, rfl, ⟨rfl, rfl, rfl⟩⟩, nofun⟩
  exact .snoc _ h5 ⟨⟨_, _, rfl, ⟨rfl, rfl, rfl⟩⟩, nofun⟩

/-- After the conversation, the three bytes were sent, and their send succeeded. -/
theorem graceful_end_conversation :
    let s := afterConversation 6
    let sends := (s.sockets.get 1).started .send
    (s.endpoints.get 1).destroyed ∧ (s.endpoints.get 1).aborted = false ∧
    (sends.filter (·.slot ≠ some 0)).flatMap Operation.payload = [97, 98, 99] ∧
    ∀ op ∈ sends, Once hosting conversation (Succeeds 1 op) := by
  have hid : 1 < (afterConversation 6).directory.nextId := by decide
  obtain ⟨-, -, hdata, hsucceeded⟩ :=
    Run.graceful_end ofSettings_hosting run_conversation hid rfl rfl rfl
  exact ⟨rfl, rfl, hdata, hsucceeded⟩

end Server

end OrderedEcho
