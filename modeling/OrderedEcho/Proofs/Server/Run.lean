import OrderedEcho.Proofs.Server.Completion

/-!
# Runs

A `ServerEvent` is what the world does with a server: it hands it a socket, lets an operation in
flight complete in any way, shuts it down, or decides what a socket is going to refuse.  Completions
and shutdowns make the server visit several endpoints, in an order that is part of the event and may
be any.  A `Run` is a sequence of events of which each was possible when it came.

What the events of a run say about the slots of an endpoint is its `book`, and `Run.sound` says that
the server is sound with it.
-/

namespace OrderedEcho

/-- What the world does with a server. -/
inductive ServerEvent
  /-- A listening socket is added. -/
  | listen (socket : SocketId) (family : AddressFamily)
  /-- A datagram socket is added. -/
  | bind (socket : SocketId) (family : AddressFamily)
  /-- The operation at position `i` of its lane completes, and afterwards the starved endpoints
  come in that order. -/
  | complete (socket : SocketId) (i : Nat) (c : Completion) (order : VisitingOrder)
  /-- The server is shut down, and its endpoints are closed in that order. -/
  | shutdown (order : VisitingOrder)
  /-- A socket gets another schedule of refusals. -/
  | refuse (socket : SocketId) (kind : OperationKind) (refusals : Refusals)

/-- The socket that the event hands to the server. -/
def ServerEvent.brings? : ServerEvent → Option SocketId
  | .listen socket _ | .bind socket _ => some socket
  | .complete _ _ c _ => c.delivered?.map Accepted.socket
  | .shutdown _ | .refuse .. => none

namespace Server

/-- The event can come now: sockets are used for one endpoint only, and only operations in flight
complete. -/
def Possible (s : Server) : ServerEvent → Prop
  | .listen socket _ | .bind socket _ => Fresh s socket
  | .complete socket i c _ =>
    (∃ op k, (s.sockets.get socket).take? c.operation.kind i = some (op, k) ∧
      op.ReturnsAs c.operation) ∧
    ∀ a, c.delivered? = some a → Fresh s a.socket
  | .shutdown _ | .refuse .. => True

/-- The server after the event. -/
def step (s : Server) : ServerEvent → Server
  | .listen socket family => (s.addListener socket family).2
  | .bind socket family => (s.addDatagram socket family).2
  | .complete socket i c order =>
    match (s.sockets.get socket).take? c.operation.kind i with
    | some (_, k) => (s.modifySocket socket fun _ => k).handle c order
    | none => s
  | .shutdown order => s.shutdown order
  | .refuse socket kind refusals => s.modifySocket socket (·.refuse kind refusals)

/-- The events lead from one server to the other, and each was possible when it came. -/
inductive Run (s₀ : Server) : List ServerEvent → Server → Prop
  | start : Run s₀ [] s₀
  | snoc {evs s} (ev : ServerEvent) (h : Run s₀ evs s) (hp : s.Possible ev) :
      Run s₀ (evs ++ [ev]) (s.step ev)

variable {s₀ s s' : Server} {evs evs' : List ServerEvent} {id : EndpointId} {t : Slot}
  {k : SocketId} {c : Completion} {order : VisitingOrder} {info : EndpointInfo}
  {settings : Settings} {now : Int}

theorem Run.trans (h : Run s₀ evs s) (h' : Run s evs' s') : Run s₀ (evs ++ evs') s' := by
  induction h' with
  | start => rwa [List.append_nil]
  | snoc ev _ hp ih =>
    rw [← List.append_assoc]
    exact .snoc ev ih hp

theorem Run.of_snoc {ev : ServerEvent} (h : Run s₀ (evs ++ [ev]) s) :
    ∃ s₁, Run s₀ evs s₁ ∧ s₁.Possible ev ∧ s = s₁.step ev := by
  generalize hev : evs ++ [ev] = evs' at h
  cases h with
  | start => simp at hev
  | snoc ev' hr hp =>
    obtain ⟨rfl, he⟩ := List.append_inj' hev rfl
    obtain rfl := List.singleton_inj.1 he
    exact ⟨_, hr, hp, rfl⟩

/-- A run can be parted anywhere. -/
theorem Run.of_append (h : Run s₀ (evs ++ evs') s) : ∃ s₁, Run s₀ evs s₁ ∧ Run s₁ evs' s := by
  induction evs' using List.reverseRecOn generalizing s with
  | nil => exact ⟨s, by rwa [List.append_nil] at h, .start⟩
  | append_singleton evs' ev ih =>
    rw [← List.append_assoc] at h
    obtain ⟨s', hr, hp, rfl⟩ := h.of_snoc
    obtain ⟨s₁, hr₁, hr'⟩ := ih hr
    exact ⟨s₁, hr₁, hr'.snoc ev hp⟩

/-- The events of a run determine the server. -/
theorem Run.eq_foldl (h : Run s₀ evs s) : s = evs.foldl Server.step s₀ := by
  induction h with
  | start => rfl
  | snoc ev _ _ ih => rw [List.foldl_append, ← ih, List.foldl_cons, List.foldl_nil]

theorem Run.eq_of_eq {s' : Server} (h : Run s₀ evs s) (h' : Run s₀ evs s') : s = s' :=
  h.eq_foldl.trans h'.eq_foldl.symm

/-- After the first events of a run, the others lead on from where they led. -/
theorem Run.rest {s₁ : Server} (h : Run s₀ (evs ++ evs') s) (h₁ : Run s₀ evs s₁) :
    Run s₁ evs' s := by
  obtain ⟨s₂, h₂, hr⟩ := h.of_append
  exact h₁.eq_of_eq h₂ ▸ hr

theorem Run.of_cons {ev : ServerEvent} (h : Run s (ev :: evs) s') :
    s.Possible ev ∧ Run (s.step ev) evs s' := by
  have h : Run s ([] ++ [ev] ++ evs) s' := h
  obtain ⟨s₁, h₁, hr⟩ := h.of_append
  obtain ⟨s₀, h₀, hp, rfl⟩ := h₁.of_snoc
  obtain rfl : s₀ = s := h₀.eq_foldl
  exact ⟨hp, hr⟩

theorem step_complete {socket : SocketId} {i : Nat} {op : Operation} {k' : Socket}
    (h : (s.sockets.get socket).take? c.operation.kind i = some (op, k')) :
    s.step (.complete socket i c order) = (s.modifySocket socket fun _ => k').handle c order := by
  unfold step
  dsimp only
  rw [h]

theorem Possible.fresh {ev : ServerEvent} (h : s.Possible ev) (hk : ev.brings? = some k) :
    Fresh s k := by
  cases ev with
  | listen | bind =>
    obtain rfl := Option.some.inj hk
    exact h
  | complete =>
    obtain ⟨a, ha, rfl⟩ := Option.map_eq_some_iff.1 hk
    exact h.2 a ha
  | shutdown | refuse => cases hk

/-! ## Moments of a run -/

/-- At some moment of the run, `Q` held of the server and of the event that came then. -/
def Once (s₀ : Server) (evs : List ServerEvent) (Q : Server → ServerEvent → Prop) : Prop :=
  ∃ before s ev after, evs = before ++ ev :: after ∧ Run s₀ before s ∧ Q s ev

theorem Once.append {Q : Server → ServerEvent → Prop} (h : Once s₀ evs Q)
    (evs' : List ServerEvent) : Once s₀ (evs ++ evs') Q := by
  obtain ⟨before, s, ev, after, rfl, hr, hq⟩ := h
  exact ⟨before, s, ev, after ++ evs', by rw [List.append_assoc, List.cons_append], hr, hq⟩

theorem Run.once {Q : Server → ServerEvent → Prop} {ev : ServerEvent} (h : Run s₀ evs s)
    (hq : Q s ev) : Once s₀ (evs ++ [ev]) Q := ⟨evs, s, ev, [], rfl, h, hq⟩

/-- What held at some moment of the run held before its last event or then. -/
theorem Run.once_snoc_iff {Q : Server → ServerEvent → Prop} {ev : ServerEvent}
    (h : Run s₀ evs s) : Once s₀ (evs ++ [ev]) Q ↔ Once s₀ evs Q ∨ Q s ev := by
  refine ⟨fun ⟨before, s', ev', after, heq, hr, hq⟩ => ?_, fun ho => ?_⟩
  · rcases List.eq_nil_or_concat after with rfl | ⟨after, last, rfl⟩
    · obtain ⟨rfl, hev⟩ := List.append_inj' heq rfl
      obtain rfl := List.singleton_inj.1 hev
      exact Or.inr (h.eq_of_eq hr ▸ hq)
    · rw [List.concat_eq_append, ← List.cons_append, ← List.append_assoc] at heq
      exact Or.inl ⟨before, s', ev', after, (List.append_inj' heq rfl).1, hr, hq⟩
  · exact ho.elim (·.append [ev]) h.once

theorem Run.not_once_snoc {Q : Server → ServerEvent → Prop} {ev : ServerEvent} (h : Run s₀ evs s)
    (hn : ¬ Once s₀ evs Q) (hq : ¬ Q s ev) : ¬ Once s₀ (evs ++ [ev]) Q :=
  fun ho => (h.once_snoc_iff.1 ho).elim hn hq

theorem not_once_nil {Q : Server → ServerEvent → Prop} : ¬ Once s₀ [] Q := by
  rintro ⟨before, s, ev, after, heq, -⟩
  simp at heq

/-- The event is a completion with which the socket gives the operation back. -/
def Returns (k : SocketId) (op : Operation) (s : Server) (ev : ServerEvent) : Prop :=
  ∃ i c order socket, ev = .complete k i c order ∧
    (s.sockets.get k).take? c.operation.kind i = some (op, socket) ∧ op.ReturnsAs c.operation

/-- The event delivers a connection while its listener or the server is closing. -/
def TurnsAway (s : Server) : ServerEvent → Prop
  | .complete _ _ c _ =>
    (∃ id, c.operation.endpoint = some id ∧ (s.endpoints.get id).closing) ∨ s.shuttingDown
  | _ => False

/-! ## What the events tell -/

/-- The completions among the events. -/
def completions (evs : List ServerEvent) : List Completion :=
  evs.filterMap fun
    | .complete _ _ c _ => some c
    | _ => none

/-- The number of completed operations of an endpoint. -/
def completed (evs : List ServerEvent) (id : EndpointId) : Nat :=
  (completions evs).countP fun c => c.operation.endpoint = some id

/-- The completed receives in slot `t` of an endpoint. -/
def receipts (evs : List ServerEvent) (id : EndpointId) (t : Slot) : List Completion :=
  (completions evs).filter fun c =>
    c.operation.kind = .receive ∧ c.operation.endpoint = some id ∧ c.operation.slot = some t

/-- The completed accepts that delivered the connection on a socket. -/
def deliveries (evs : List ServerEvent) (k : SocketId) : List Completion :=
  (completions evs).filter fun c => c.delivered?.any (·.socket = k)

/-- The pool had no operation to hand out when the completion came. -/
def Unserved (s₀ : Server) (evs : List ServerEvent) (c : Completion) : Prop :=
  ∃ evs₁ s₁ socket i order evs₂, evs = evs₁ ++ .complete socket i c order :: evs₂ ∧
    Run s₀ evs₁ s₁ ∧ s₁.pool.exhausted?.isSome

/-- The pool had an operation to hand out when the completion came. -/
def Served (s₀ : Server) (evs : List ServerEvent) (c : Completion) : Prop :=
  Once s₀ evs fun s ev =>
    (∃ socket i order, ev = .complete socket i c order) ∧ s.pool.exhausted? = none

/-- What the events say may become of the slots of an endpoint. -/
inductive Outcome (s₀ : Server) (evs : List ServerEvent) (info : EndpointInfo) (k : SocketId) :
    Slot → Entry Operation → Prop
  | echo {t : Slot} {c : Completion} {n : Nat} (hc : c ∈ receipts evs info.id t)
      (hr : c.result = .ok n) (hn : info.kind = .stream → n ≠ 0) :
      Outcome s₀ evs info k t (.data (c.operation.truncate n).becomeSend)
  | ended {t : Slot} {c : Completion} (hc : c ∈ receipts evs info.id t) (hr : c.result = .ok 0)
      (hk : info.kind = .stream) : Outcome s₀ evs info k t .skip
  | failed {t : Slot} {c : Completion} {e : IoError} (hc : c ∈ receipts evs info.id t)
      (hr : c.result = .error e) (hk : info.kind = .datagram) : Outcome s₀ evs info k t .skip
  | welcome {c : Completion} {op : Operation} (hk : info.kind = .stream) (hc : c ∈ deliveries evs k)
      (hp : op.payload = c.operation.payload) (hx : Served s₀ evs c) :
      Outcome s₀ evs info k 0 (.data op)
  | lost {c : Completion} (hk : info.kind = .stream) (hc : c ∈ deliveries evs k)
      (hx : Unserved s₀ evs c) : Outcome s₀ evs info k 0 .skip

/-- What is known of the endpoints after the events. -/
def book (s₀ : Server) (evs : List ServerEvent) : Book := fun info k =>
  ⟨Outcome s₀ evs info k, completed evs info.id, fun t => (receipts evs info.id t).length,
    fun op => Once s₀ evs (Returns k op)⟩

theorem completions_append (evs evs' : List ServerEvent) :
    completions (evs ++ evs') = completions evs ++ completions evs' := List.filterMap_append

theorem mem_receipts_append (h : c ∈ receipts evs id t) (evs' : List ServerEvent) :
    c ∈ receipts (evs ++ evs') id t := by
  unfold receipts
  rw [completions_append, List.filter_append]
  exact List.mem_append_left _ h

theorem mem_deliveries_append (h : c ∈ deliveries evs k) (evs' : List ServerEvent) :
    c ∈ deliveries (evs ++ evs') k := by
  unfold deliveries
  rw [completions_append, List.filter_append]
  exact List.mem_append_left _ h

theorem Unserved.append (h : Unserved s₀ evs c) (evs' : List ServerEvent) :
    Unserved s₀ (evs ++ evs') c := by
  obtain ⟨evs₁, s₁, socket, i, order, evs₂, rfl, hr⟩ := h
  exact ⟨evs₁, s₁, socket, i, order, evs₂ ++ evs', by rw [List.append_assoc, List.cons_append], hr⟩

theorem Outcome.append {x : Entry Operation} (h : Outcome s₀ evs info k t x)
    (evs' : List ServerEvent) : Outcome s₀ (evs ++ evs') info k t x := by
  cases h with
  | echo hc hr hn => exact .echo (mem_receipts_append hc evs') hr hn
  | ended hc hr hk => exact .ended (mem_receipts_append hc evs') hr hk
  | failed hc hr hk => exact .failed (mem_receipts_append hc evs') hr hk
  | welcome hk hc hp hx => exact .welcome hk (mem_deliveries_append hc evs') hp (Once.append hx evs')
  | lost hk hc hx => exact .lost hk (mem_deliveries_append hc evs') (hx.append evs')

/-! ## One more event -/

section Other

variable {ev : ServerEvent}

theorem completed_append_of_nil (h : completions [ev] = []) (id : EndpointId) :
    completed (evs ++ [ev]) id = completed evs id := by
  unfold completed
  rw [completions_append, h, List.append_nil]

theorem receipts_append_of_nil (h : completions [ev] = []) (id : EndpointId) (t : Slot) :
    receipts (evs ++ [ev]) id t = receipts evs id t := by
  unfold receipts
  rw [completions_append, h, List.append_nil]

theorem book_extends (h : completions [ev] = []) (info : EndpointInfo) (k : SocketId) :
    (book s₀ evs info k).Extends (book s₀ (evs ++ [ev]) info k) :=
  ⟨fun _ _ hx => hx.append [ev], completed_append_of_nil h info.id,
    funext fun t => congrArg List.length (receipts_append_of_nil h info.id t),
    fun _ hx => hx.append [ev]⟩

end Other

section Completion

variable {socket : SocketId} {i : Nat} {op : Operation} {kind : OperationKind}

theorem completed_append_complete (hret : op.ReturnsAs c.operation) (hruns : op.RunsAs kind id)
    (id' : EndpointId) : completed (evs ++ [.complete socket i c order]) id' =
      completed evs id' + if id' = id then 1 else 0 := by
  unfold completed
  rw [completions_append, List.countP_append]
  congr 1
  show [c].countP _ = _
  rw [List.countP_singleton, hret.endpoint, hruns.endpoint]
  simp only [Option.some.injEq, decide_eq_true_eq, eq_comm (a := id)]

theorem length_receipts_append_complete (hret : op.ReturnsAs c.operation)
    (hruns : op.RunsAs kind id) (id' : EndpointId) (t : Slot) :
    (receipts (evs ++ [.complete socket i c order]) id' t).length =
      (receipts evs id' t).length + if id' = id then op.due.count t else 0 := by
  unfold receipts
  rw [completions_append, List.filter_append, List.length_append]
  congr 1
  show ([c].filter _).length = _
  rw [← List.countP_eq_length_filter, List.countP_singleton, hret.kind, hret.endpoint, hret.slot,
    hruns.endpoint, Operation.due]
  cases hk : op.kind with
  | accept | send => simp
  | receive =>
    obtain ⟨t', ht⟩ := Option.isSome_iff_exists.1 (hruns.slot (hruns.kind.symm.trans hk))
    rw [ht]
    simp only [Option.toList_some, List.count_singleton, Option.some.injEq, true_and, beq_iff_eq,
      decide_eq_true_eq, eq_comm (a := id)]
    by_cases hid : id' = id
    · simp only [hid, true_and, if_true]
    · simp only [hid, false_and, if_false]

end Completion

/-- The book counts the completion for the endpoint of the operation, and for no other. -/
theorem Sound.arrives {socket : SocketId} {i : Nat} {op : Operation} {k' : Socket}
    (h : Sound (book s₀ evs) [] 0 s) (hr : Run s₀ evs s)
    (ht : (s.sockets.get socket).take? c.operation.kind i = some (op, k'))
    (hret : op.ReturnsAs c.operation) (order : VisitingOrder) : ∃ id, Arrives (book s₀ evs)
      (book s₀ (evs ++ [.complete socket i c order])) s socket id op k' c := by
  have hb := Socket.gaveBack_of_take? ht
  obtain ⟨id, hid, ho, hruns⟩ := h.owner hb.op_mem_lane
  have hkind : op.kind = c.operation.kind := hruns.kind
  refine ⟨id, hkind ▸ hb, hret, hid, ho, hkind ▸ hruns, fun info k hne => ?_, fun info he => ?_⟩
  · refine ⟨fun t x hx => hx.append _, ?_, ?_, fun _ hx => hx.append _⟩
    · show completed _ info.id = completed evs info.id
      rw [completed_append_complete hret hruns, if_neg hne, Nat.add_zero]
    · funext t
      show (receipts _ info.id t).length = (receipts evs info.id t).length
      rw [length_receipts_append_complete hret hruns, if_neg hne, Nat.add_zero]
  · refine ⟨fun t x hx => hx.append _, ?_, fun t => ?_, fun x hx => ?_⟩
    · show completed _ info.id = completed evs info.id + 1
      rw [completed_append_complete hret hruns, if_pos he]
    · show (receipts _ info.id t).length = (receipts evs info.id t).length + _
      rw [length_receipts_append_complete hret hruns, if_pos he]
    · rcases hx with hx | rfl
      · exact hx.append _
      · exact hr.once ⟨i, c, order, k', rfl, ht, hret⟩

theorem mem_completions_complete (evs : List ServerEvent) (socket : SocketId) (i : Nat)
    (c : Completion) (order : VisitingOrder) :
    c ∈ completions (evs ++ [.complete socket i c order]) := by
  rw [completions_append]
  exact List.mem_append_right _ List.mem_cons_self

/-- What the completion tells is written in the book. -/
theorem Arrives.informs {socket : SocketId} {i : Nat} {op : Operation} {k' : Socket}
    (h : Arrives (book s₀ evs) (book s₀ (evs ++ [.complete socket i c order])) s socket id op k' c)
    (hr : Run s₀ evs s) (hs : Sound (book s₀ evs) [] 0 s)
    (hf : ∀ a, c.delivered? = some a → Fresh s a.socket) :
    Informs (book s₀ (evs ++ [.complete socket i c order])) s id op c := by
  have hm := mem_completions_complete evs socket i c order
  refine ⟨fun hk t ht => ?_, fun a ha => ⟨hf a ha, ?_⟩⟩
  · have hc : c ∈ receipts (evs ++ [.complete socket i c order]) (s.endpoints.get id).id t := by
      refine List.mem_filter.2 ⟨hm, ?_⟩
      rw [hs.id_eq id (hs.lt_nextId h.registered)]
      simp only [h.returns.kind, h.returns.endpoint, h.returns.slot, h.runs.endpoint, hk, ht,
        and_self, decide_true]
    exact ⟨fun n hr hn => .echo hc hr hn, fun hr hk => .ended hc hr hk,
      fun e hr hk => .failed hc hr hk⟩
  · have hc : c ∈ deliveries (evs ++ [.complete socket i c order]) a.socket := by
      refine List.mem_filter.2 ⟨hm, ?_⟩
      rw [ha]
      simp only [Option.any_some, decide_true]
    refine ⟨fun op hp hx => .welcome rfl hc hp ?_, fun hx => .lost rfl hc ?_⟩
    · exact hr.once ⟨⟨socket, i, order, rfl⟩, hx⟩
    · exact ⟨evs, s, socket, i, order, [], rfl, hr, hx⟩

/-! ## All runs -/

theorem check_of_ofSettings (h : Server.ofSettings settings now = .ok s₀) :
    settings.check = .ok () := by
  unfold Server.ofSettings at h
  cases hc : settings.check with
  | error e => rw [hc] at h; cases h
  | ok _ => rfl

theorem eq_of_ofSettings (h : Server.ofSettings settings now = .ok s₀) :
    s₀.directory = {} ∧ s₀.sockets = { blank := {} } ∧ s₀.pool.outstanding = 0 ∧
      s₀.pool.limit = settings.limit := by
  unfold Server.ofSettings at h
  cases hc : settings.check with
  | error e => rw [hc] at h; cases h
  | ok _ =>
    rw [hc] at h
    obtain rfl := Except.ok.inj h
    exact ⟨rfl, rfl, rfl, rfl⟩

theorem sound_ofSettings (h : Server.ofSettings settings now = .ok s₀) :
    Sound (book s₀ []) [] 0 s₀ := by
  obtain ⟨hd, hk, ho, -⟩ := eq_of_ofSettings h
  have hlt (j : EndpointId) : ¬ j < s₀.directory.nextId := by
    rw [hd]
    exact Nat.not_lt_zero j
  refine ⟨fun j hj => absurd hj (hlt j), fun j => ?_, fun j hj => absurd hj (hlt j),
    fun k _ kind => ?_, fun k _ => ?_, fun _ _ _ => ⟨rfl, fun _ => rfl⟩,
    fun j hj => absurd hj (hlt j), fun j hj => absurd hj (hlt j), ?_, fun n _ => ?_⟩
  · rw [iff_false_right fun hj => hlt j hj.1, hd]
    exact List.not_mem_nil
  · rw [hk, Table.get_blank]
    cases kind <;> rfl
  · rw [hk, Table.get_blank]
    exact Socket.orderly_of_history_eq_nil rfl rfl
  · unfold load
    rw [ho, hd]
    rfl
  · rw [ho]
    exact Nat.zero_le n

/-- Deciding what a socket is going to refuse does nothing to it yet. -/
theorem same_refuse (s : Server) (k : SocketId) (kind : OperationKind) (r : Refusals) (j : SocketId) :
    (s.sockets.get j).Same ((s.modifySocket k (·.refuse kind r)).sockets.get j) :=
  lift_modifySocket (motive := Socket.Same) (f := (·.refuse kind r))
    (fun k => Socket.same_refuse k kind r) (fun _ => ⟨rfl, rfl, fun _ => rfl⟩) s k j

theorem later_refuse {B : Book} {held : Nat} (h : Sound B [] held s) (k : SocketId)
    (kind : OperationKind) (r : Refusals) :
    Later B [] held s (s.modifySocket k (·.refuse kind r)) := by
  have hsame := same_refuse s k kind r
  refine ⟨h.congr rfl rfl rfl (fun j _ => hsame _) (fun j => (hsame j).lane)
    fun j ho => ho.congr (hsame j).closed (hsame j).history, Nat.le_refl _, fun _ _ => .refl _,
    fun j => ?_, rfl⟩
  exact (hsame j).history ▸ List.prefix_rfl

/-- One event leads from a sound server to a sound one.  The socket that it brings has got an
endpoint, or was turned away and closed. -/
theorem Run.step {ev : ServerEvent} (hr : Run s₀ evs s) (hs : Sound (book s₀ evs) [] 0 s)
    (hp : s.Possible ev) : Later (book s₀ (evs ++ [ev])) [] 0 s (s.step ev) ∧
      ∀ k, ev.brings? = some k → Owned (s.step ev) k ∨
        s.TurnsAway ev ∧ .close ∈ ((s.step ev).sockets.get k).history := by
  have hother (hc : completions [ev] = []) {s' : Server} (hl : Later (book s₀ evs) [] 0 s s') :
      Later (book s₀ (evs ++ [ev])) [] 0 s s' := ⟨hl.sound.mono (book_extends hc), hl.grows⟩
  cases ev with
  | listen socket family =>
    obtain ⟨hl, ho⟩ := later_addListener hs hp family
    exact ⟨hother rfl hl, fun k hk => Or.inl (Option.some.inj hk ▸ ho)⟩
  | bind socket family =>
    obtain ⟨hl, ho⟩ := later_addDatagram hs hp family
    exact ⟨hother rfl hl, fun k hk => Or.inl (Option.some.inj hk ▸ ho)⟩
  | shutdown order => exact ⟨hother rfl (later_shutdown hs order), nofun⟩
  | refuse socket kind r => exact ⟨hother rfl (later_refuse hs socket kind r), nofun⟩
  | complete socket i c order =>
    obtain ⟨⟨op, k', ht, hret⟩, hf⟩ := hp
    obtain ⟨id, ha⟩ := hs.arrives hr ht hret order
    have hh := handled_handle ha hs (ha.informs hr hs hf) order
    rw [step_complete ht]
    refine ⟨hh.toLater, fun k hk => ?_⟩
    obtain ⟨a, had, rfl⟩ := Option.map_eq_some_iff.1 hk
    have hid : c.operation.endpoint = some id := hret.endpoint.trans ha.runs.endpoint
    exact (hh.placed a had).imp_right (And.imp_left (Or.imp_left fun hc => ⟨id, hid, hc⟩))

theorem Run.sound (h0 : Server.ofSettings settings now = .ok s₀) (h : Run s₀ evs s) :
    Sound (book s₀ evs) [] 0 s := by
  induction h with
  | start => exact sound_ofSettings h0
  | snoc ev hr hp ih => exact (hr.step ih hp).1.sound

/-- Nothing that grows is undone later in the run. -/
theorem Run.grows (h0 : Server.ofSettings settings now = .ok s₀)
    (h : Run s₀ evs s) (h' : Run s evs' s') : Grows s s' := by
  induction h' with
  | start => exact .refl s
  | snoc ev hr hp ih =>
    have hr' := h.trans hr
    exact ih.trans (hr'.step (hr'.sound h0) hp).1.grows

theorem Run.limit_eq (h0 : Server.ofSettings settings now = .ok s₀) (h : Run s₀ evs s) :
    s.pool.limit = settings.limit :=
  (Run.start.grows h0 h).limit.trans (eq_of_ofSettings h0).2.2.2

theorem brings?_of_deliveries {ev : ServerEvent} (h : deliveries [ev] k ≠ []) :
    ev.brings? = some k := by
  obtain ⟨c, hc⟩ := List.exists_mem_of_ne_nil _ h
  obtain ⟨hm, hk⟩ := List.mem_filter.1 hc
  obtain ⟨a, ha, hak⟩ := (Option.any_eq_true _ _).1 (by simpa using hk)
  cases ev with
  | complete socket i c' order =>
    obtain rfl := List.mem_singleton.1 hm
    exact Option.map_eq_some_iff.2 ⟨a, ha, by simpa using hak⟩
  | listen | bind | shutdown | refuse => cases hm

/-- A socket that was brought is in use. -/
theorem Run.not_fresh {ev : ServerEvent} (h0 : Server.ofSettings settings now = .ok s₀)
    (h : Run s₀ evs s) (hp : s.Possible ev) (hk : ev.brings? = some k) :
    ¬ Fresh (s.step ev) k := by
  rintro ⟨hunowned, hhist⟩
  rcases (h.step (h.sound h0) hp).2 k hk with ⟨i, hi, he⟩ | ⟨-, hm⟩
  · exact hunowned i hi he
  · rw [hhist] at hm
    cases hm

/-- A connection is delivered once: before that nobody used its socket, and then its socket is in
use. -/
theorem Run.length_deliveries_le (h0 : Server.ofSettings settings now = .ok s₀)
    (h : Run s₀ evs s) (k : SocketId) :
    (deliveries evs k).length ≤ 1 ∧ (Fresh s k → deliveries evs k = []) := by
  induction h with
  | start => exact ⟨Nat.zero_le _, fun _ => rfl⟩
  | @snoc evs s ev hr hp ih =>
    have hl := (hr.step (hr.sound h0) hp).1
    have hd : deliveries (evs ++ [ev]) k = deliveries evs k ++ deliveries [ev] k := by
      unfold deliveries
      rw [completions_append, List.filter_append]
    by_cases hn : deliveries [ev] k = []
    · rw [hd, hn, List.append_nil]
      exact ⟨ih.1, fun hf => ih.2 <| by_contra fun hx => hl.grows.not_fresh hx hf⟩
    · have hk := brings?_of_deliveries hn
      have hlen : (deliveries [ev] k).length ≤ 1 :=
        Nat.le_trans (List.length_filter_le _ _) (List.length_filterMap_le _ [ev])
      rw [hd, ih.2 (hp.fresh hk), List.nil_append]
      exact ⟨hlen, fun hf => absurd hf (hr.not_fresh h0 hp hk)⟩

/-! ## A visit

A client connects and sends two bytes with its connection, then it closes before they are echoed. -/

/-- A server for streams that posts one receive at a time. -/
def visited : Server where
  settings := { protocol := .tcp, fanOut := 1, workers := 1 }
  pool := { bufferSize := 4096, cacheSize := 1024 }
  endpoints := { blank := .absent }
  meter := .startingAt 0

theorem ofSettings_visited :
    Server.ofSettings { protocol := .tcp, fanOut := 1, workers := 1 } 0 = .ok visited := rfl

/-- The client comes, its end of the stream arrives, and its echo is sent. -/
def visit : List ServerEvent := [
  .listen 0 .v4,
  .complete 0 0 {
    operation := { kind := .accept, endpoint := some 0, buffer := ⟨[104, 105], 2⟩, capacity := 0 }
    result := .ok 2
    accepted := some ⟨1, ⟨.v4 0x7f000001, 4000, 0⟩⟩ } .listed,
  .complete 1 0 {
    operation := {
      kind := .receive, endpoint := some 1, buffer := ⟨[], 4096⟩, capacity := 4096, slot := some 1 }
    result := .ok 0 } .listed,
  .complete 1 0 {
    operation := {
      kind := .send, endpoint := some 1, buffer := ⟨[104, 105], 2⟩, capacity := 2, slot := some 0 }
    result := .ok 2 } .listed]

/-- The server after the first `n` events of the visit. -/
def afterVisit (n : Nat) : Server := (visit.take n).foldl step visited

theorem run_visit (n : Nat) : Run visited (visit.take n) (afterVisit n) := by
  have h1 : Run visited (visit.take 1) (afterVisit 1) := .snoc _ .start ⟨nofun, rfl⟩
  have h2 : Run visited (visit.take 2) (afterVisit 2) := by
    refine .snoc _ h1 ⟨⟨_, _, rfl, ⟨rfl, rfl, rfl⟩⟩, fun a ha => ?_⟩
    obtain rfl := Option.some.inj ha
    exact ⟨by decide, rfl⟩
  have h3 : Run visited (visit.take 3) (afterVisit 3) :=
    .snoc _ h2 ⟨⟨_, _, rfl, ⟨rfl, rfl, rfl⟩⟩, nofun⟩
  have h4 : Run visited visit (afterVisit 4) :=
    .snoc _ h3 ⟨⟨_, _, rfl, ⟨rfl, rfl, rfl⟩⟩, nofun⟩
  match n with
  | 0 => exact .start
  | 1 => exact h1
  | 2 => exact h2
  | 3 => exact h3
  | n + 4 =>
    have hn : visit.take (n + 4) = visit := List.take_of_length_le (Nat.le_add_left 4 n)
    unfold afterVisit
    rw [hn]
    exact h4

end Server

end OrderedEcho
