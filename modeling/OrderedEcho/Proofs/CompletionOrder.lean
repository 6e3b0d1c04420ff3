import OrderedEcho.Proofs.FanOut
import OrderedEcho.Proofs.Link.Answers
import OrderedEcho.Proofs.Server.Keeps

/-!
# The order of completions does not matter

Receives of an endpoint complete in any order.  Each order takes other turns: entries wait or do not,
other receives are posted first, and those that were owed are posted after whatever came first.  In
the end it makes no difference (`Run.order_irrelevant`).

The reason is that a run of completions adds up to something that does not tell their order
(`Run.answers`), which is found step by step (`Arrives.answers`).
-/

namespace OrderedEcho

/-! ## The meter -/

/-- The meter after a receive completed. -/
def Meter.note (m : Meter) : Except IoError Nat → Meter
  | .ok n => m.addRead n
  | .error _ => m

theorem Meter.note_right_comm (m : Meter) (x y : Except IoError Nat) :
    (m.note x).note y = (m.note y).note x := by
  cases x with
  | error e => rfl
  | ok n =>
    cases y with
    | error e => rfl
    | ok n' =>
      unfold note addRead
      simp only [UInt64.add_assoc, UInt64.add_comm (.ofNat n)]

/-- The slot of a completed receive and what fills it, if its endpoint goes on. -/
def Completion.fills? (c : Completion) : Option (Slot × Entry Operation) :=
  c.operation.slot.map fun t => (t, c.answer)

namespace Server

variable {B B' : Book} {busy : List EndpointId} {s₀ s s' s₁ s₂ : Server}
  {evs evs₁ evs₂ : List ServerEvent} {id : EndpointId} {socket : SocketId} {op : Operation}
  {k' : Socket} {c : Completion} {settings : Settings} {now : Int}

@[simp] theorem meter_act (s : Server) (i : EndpointId) (f : Link → Bool × Link) :
    (s.act i f).meter = s.meter := by
  unfold act
  dsimp only
  split <;> rfl

@[simp] theorem meter_retire (s : Server) (i : EndpointId) : (s.retire i).2.meter = s.meter := by
  unfold retire
  split <;> rfl

@[simp] theorem meter_resume (s : Server) (i : EndpointId) : (s.resume i).meter = s.meter := by
  unfold resume
  split
  · rw [meter_retire, meter_act]
  · rfl

@[simp] theorem meter_resumeStarved (s : Server) (order : VisitingOrder) :
    (s.resumeStarved order).meter = s.meter := by
  have hfold (ids : List EndpointId) (s : Server) : (ids.foldl resume s).meter = s.meter := by
    induction ids generalizing s with
    | nil => rfl
    | cons i ids ih => rw [List.foldl_cons, ih, meter_resume]
  exact hfold _ _

/-! ## One completion -/

theorem receiveCompleted_eq {t : Slot} (ht : op.slot = some t) (s : Server) (i : EndpointId)
    (result : Except IoError Nat) : s.receiveCompleted i op result =
      ((act { s.modifyLink i Link.finish with meter := s.meter.note result } i
        (Link.received op t result)).retire i).2 := by
  unfold receiveCompleted
  rw [ht]
  cases result <;> rfl

/-- A completed receive is counted and its endpoint acts. -/
theorem Arrives.received (h : Arrives B B' s socket id op k' c) (hs : Sound B busy 0 s)
    (hk : op.kind = .receive) {t : Slot} (ht : op.slot = some t) :
    let x := Link.received c.operation t c.result ⟨(s.endpoints.get id).finish, k', s.pool⟩
    ∃ s', Acts id 0 x.1 s s' ∧ s'.link id = x.2 ∧ s'.meter = s.meter.note c.result ∧
      (s.modifySocket socket fun _ => k').complete id c = (s'.retire id).2 := by
  obtain rfl := h.owner
  have hd : (s.endpoints.get id).destroyed = false := ((hs.mem_ids id).1 h.registered).2
  have hlink := link_finishing s k' id
  have hact := acts_act (s := s.finishing (s.endpoints.get id).socket k' id) (i := id)
    (f := Link.received c.operation t c.result) (s.meter.note c.result)
    (Link.provides_received (by rw [hlink]; exact hd) c.operation t c.result)
  rw [hlink] at hact
  refine ⟨_, h.acts (by rw [hk]; exact hact), ?_, meter_act _ _ _, ?_⟩
  · rw [link_act]
    exact congrArg (fun l => (Link.received c.operation t c.result l).2) hlink
  · unfold complete
    rw [h.returns.kind, hk]
    exact receiveCompleted_eq (h.returns.slot.trans ht) _ _ _

/-- The receives of the endpoint that completed with `cs` were answered. -/
structure Answers (id : EndpointId) (cs : List Completion) (s s' : Server) : Prop where
  endpoint : ∃ out n, (s.endpoints.get id).Answers (cs.filterMap Completion.fills?) out n
    (s.sockets.get (s.endpoints.get id).socket) (s'.endpoints.get id)
    (s'.sockets.get (s.endpoints.get id).socket)
  meter : s'.meter = (cs.map Completion.result).foldl Meter.note s.meter

theorem Answers.frame {cs : List Completion} (h : Answers id cs s s') :
    (s'.endpoints.get id).frame = (s.endpoints.get id).frame := by
  obtain ⟨out, n, ha⟩ := h.endpoint
  exact ha.frame

theorem Answers.socket_eq {cs : List Completion} (h : Answers id cs s s') :
    (s'.endpoints.get id).socket = (s.endpoints.get id).socket :=
  Endpoint.of_frame (f := Endpoint.socket) (fun _ => rfl) h.frame

theorem Answers.trans {cs cs' : List Completion} (h : Answers id cs s s₁)
    (h' : Answers id cs' s₁ s') : Answers id (cs ++ cs') s s' := by
  obtain ⟨out, n, ha⟩ := h.endpoint
  obtain ⟨out', n', ha'⟩ := h'.endpoint
  rw [h.socket_eq] at ha'
  refine ⟨⟨out ++ out', n + n', ?_⟩, ?_⟩
  · rw [List.filterMap_append]
    exact ha.trans ha'
  · rw [h'.meter, h.meter, List.map_append, List.foldl_append]

/-- The endpoint acts on a receive after which it goes on: it sends what is next and starts a new
receive.  It is open then, so it is not retired. -/
theorem Arrives.replies (h : Arrives B B' s socket id op k' c) (hs : Sound B [] 0 s)
    (hk : op.kind = .receive) {t : Slot} (ht : op.slot = some t)
    (hc : (s.endpoints.get id).closing = false) (hl : s.pool.limit = none)
    (hgo : (s.endpoints.get id).kind.GoesOn c.result)
    (hr : ¬ (s.sockets.get socket).RefusedSince
      (((s.modifySocket socket fun _ => k').complete id c).sockets.get socket)) :
    let s₂ := (s.modifySocket socket fun _ => k').complete id c
    Acts id 0 false s s₂ ∧ s₂.meter = s.meter.note c.result ∧
      ∃ out l₁ op', Link.Ships [(t, c.answer)] out ⟨(s.endpoints.get id).finish, k', s.pool⟩ l₁ ∧
        Link.Gains [op'] l₁ (s₂.link id) := by
  have hsound := h.sound hs
  rw [Operation.due_of_receive hk ht] at hsound
  obtain ⟨s₂, hact, hlink, hmeter, hcomplete⟩ := h.received hs hk ht
  obtain rfl := h.owner
  have hback : (s.sockets.get (s.endpoints.get id).socket).history <+: k'.history := by
    rw [h.back.history]
  have hsock : s₂.sockets.get (s.endpoints.get id).socket = (s₂.link id).socket := by
    rw [← hact.socket_eq]
    rfl
  have hretire := (grows_retire s₂ id).history (s.endpoints.get id).socket
  rw [hsock, hlink] at hretire
  rw [hcomplete] at hr ⊢
  obtain ⟨hwaits, out, l₁, op', ho, hg⟩ :=
    Link.answers_received hsound hc hl hgo fun hx => hr (hx.mono hback hretire)
  have hopen : (s₂.link id).endpoint.closing = false := by
    rw [hlink, hg.endpoint, ho.endpoint]
    exact hc
  rw [retire_of_open hopen]
  exact ⟨hwaits ▸ hact, hmeter, out, l₁, op', ho, hlink ▸ hg⟩

/-- A receive of an endpoint that goes on is answered, and then those that were owed to the endpoint
are started. -/
theorem Arrives.answers (h : Arrives B B' s socket id op k' c) (hs : Sound B [] 0 s)
    (hinf : Informs B' s id op c) (hk : op.kind = .receive)
    (hc : (s.endpoints.get id).closing = false) (hl : s.pool.limit = none)
    (hgo : (s.endpoints.get id).kind.GoesOn c.result)
    (hw : (s.endpoints.get id).deferred ≠ 0 → id ∈ s.starved.toList) {order : VisitingOrder}
    (hr : ¬ (s.sockets.get socket).RefusedSince
      (((s.modifySocket socket fun _ => k').handle c order).sockets.get socket)) :
    Answers id [c] s ((s.modifySocket socket fun _ => k').handle c order) := by
  obtain ⟨t, ht⟩ := Option.isSome_iff_exists.1 (h.runs.slot hk)
  have hid := hs.lt_nextId h.registered
  have hpos := hs.outstanding_pos hid (h.owner ▸ h.back.op_mem_lane)
  have hfills : [c].filterMap Completion.fills? = [(t, c.answer)] := by
    unfold Completion.fills?
    rw [List.filterMap_cons, h.returns.slot, ht]
    rfl
  have hlater := (handled_complete h hs hinf).toLater
  have hgrows := (later_resumeStarved hlater.sound order).grows
  rw [h.handle_eq] at hr ⊢
  obtain ⟨hact, hmeter, out, l₁, op', ho, hg⟩ := h.replies hs hk ht hc hl hgo fun hx =>
    hr (hx.mono List.prefix_rfl (hgrows.history socket))
  obtain rfl := h.owner
  generalize (s.modifySocket (s.endpoints.get id).socket fun _ => k').complete id c = s₂
    at hr hlater hact hmeter hg ⊢
  have hsocket : (s₂.endpoints.get id).socket = (s.endpoints.get id).socket := hact.socket_eq
  have howed : (s₂.endpoints.get id).deferred = (s.endpoints.get id).deferred := by
    have hend : s₂.endpoints.get id = l₁.endpoint.gain 1 := hg.endpoint
    rw [hend, ho.endpoint]
    rfl
  obtain ⟨ops, hcatch, hall⟩ := catchesUp_resumeStarved (j := id) hlater.sound
    (hact.directory ▸ hid) order (by
      rw [hsocket]
      exact fun hx => hr (hx.mono (hact.toTouches.history _) List.prefix_rfl))
  have hpaid : ops.length = (s₂.endpoints.get id).deferred := by
    by_cases hzero : (s₂.endpoints.get id).deferred = 0
    · have hle := hcatch.link.le
      omega
    · refine hall (hact.toTouches.grows.limit.trans hl) ?_
      rw [hact.starved]
      exact hw (howed ▸ hzero)
  have hcaught : (s₂.link id).endpoint.CatchesUp (s₂.link id).socket ops
      ((s₂.resumeStarved order).endpoints.get id)
      ((s₂.resumeStarved order).sockets.get (s.endpoints.get id).socket) := by
    rw [← hsocket]
    exact hcatch.link
  refine ⟨⟨out, (s.endpoints.get id).deferred + 1, ?_⟩, ?_⟩
  · rw [hfills]
    exact Endpoint.answers_completed hpos (hk ▸ h.back) ho hg hcaught hpaid
  · rw [meter_resumeStarved]
    exact hmeter

/-! ## All orders -/

/-- The event is the completion of a receive after which the endpoint, which is of the kind, goes
on. -/
def Continues (id : EndpointId) (kind : EndpointKind) : ServerEvent → Prop
  | .complete _ _ c _ =>
    c.operation.kind = .receive ∧ c.operation.endpoint = some id ∧ kind.GoesOn c.result
  | _ => False

theorem answers_nil (hs : Sound B [] 0 s) (hid : id ∈ s.directory.ids) : Answers id [] s s := by
  have hl := (hs.endpoint (hs.lt_nextId hid)).accounted
  refine ⟨⟨[], 0, .refl fun w hw => ?_⟩, rfl⟩
  have hm : w.1 ∈ (s.endpoints.get id).resequencer.slots :=
    Resequencer.mem_slots_iff.2 ⟨w, hw, rfl⟩
  exact Nat.lt_of_le_of_ne (hl.mem_slots hm).2.1 fun he => hl.unripe rfl (he ▸ hm)

/-- Without a limit, and as long as the socket refuses nothing, all completed receives are
answered. -/
theorem Run.answers (h0 : Server.ofSettings settings now = .ok s₀) (h : Run s₀ evs s)
    (hl : settings.limit = none) (hid : id ∈ s.directory.ids)
    (hc : (s.endpoints.get id).closing = false) (h₁ : Run s evs₁ s₁)
    (hev : ∀ ev ∈ evs₁, Continues id (s.endpoints.get id).kind ev)
    (hr : ¬ (s.sockets.get (s.endpoints.get id).socket).RefusedSince
      (s₁.sockets.get (s.endpoints.get id).socket)) : Answers id (completions evs₁) s s₁ := by
  induction h₁ with
  | start => exact answers_nil (h.sound h0) hid
  | @snoc evs₁ s₁ ev h₁ hp ih =>
    have hrun := h.trans h₁
    have hs := hrun.sound h0
    have hstep := (hrun.step hs hp).1.grows
    have ha := ih (fun ev hm => hev ev (List.mem_append_left _ hm)) fun hx =>
      hr (hx.mono List.prefix_rfl (hstep.history _))
    have hevent := hev ev (List.mem_append_right _ List.mem_cons_self)
    cases ev with
    | listen | bind | shutdown | refuse => exact hevent.elim
    | complete socket i c order =>
      obtain ⟨hk, he, hgo⟩ := hevent
      obtain ⟨⟨op, k', ht, hret⟩, hf⟩ := hp
      obtain ⟨j, harr⟩ := hs.arrives hrun ht hret order
      obtain rfl : id = j :=
        Option.some.inj (he.symm.trans (hret.endpoint.trans harr.runs.endpoint))
      have hkind : (s₁.endpoints.get id).kind = (s.endpoints.get id).kind :=
        Endpoint.of_frame (f := fun e => e.kind) (fun _ => rfl) ha.frame
      have hopen : (s₁.endpoints.get id).closing = false :=
        (Endpoint.of_frame (f := Endpoint.closing) (fun _ => rfl) ha.frame).trans hc
      have hsocket : (s.endpoints.get id).socket = socket :=
        ha.socket_eq.symm.trans harr.owner
      have hwaits := (hrun.provided h0).1.waiting id (hs.lt_nextId harr.registered) hopen
      have hhist := (h.grows h0 h₁).history socket
      rw [completions_append]
      rw [hsocket, step_complete ht] at hr
      rw [step_complete ht]
      exact ha.trans (harr.answers hs (harr.informs hrun hs hf) (hret.kind.symm.trans hk) hopen
        ((hrun.limit_eq h0).trans hl) (hkind ▸ hgo)
        (fun hd => (hwaits hd).resolve_right List.not_mem_nil)
        fun hx => hr (hx.mono hhist List.prefix_rfl))

/-- Two runs in which the same receives of an endpoint complete, each in an order of its own, do the
same: they hand the same sends to the socket in the same order, and receives in the same slots, they
leave the endpoint in the same state, and they count the same bytes. -/
theorem Run.order_irrelevant (h0 : Server.ofSettings settings now = .ok s₀) (h : Run s₀ evs s)
    (hl : settings.limit = none) (hid : id ∈ s.directory.ids)
    (hc : (s.endpoints.get id).closing = false) (h₁ : Run s evs₁ s₁) (h₂ : Run s evs₂ s₂)
    (hev₁ : ∀ ev ∈ evs₁, Continues id (s.endpoints.get id).kind ev)
    (hev₂ : ∀ ev ∈ evs₂, Continues id (s.endpoints.get id).kind ev)
    (hp : (completions evs₁).Perm (completions evs₂)) :
    let k := (s.endpoints.get id).socket
    ¬ (s.sockets.get k).RefusedSince (s₁.sockets.get k) →
    ¬ (s.sockets.get k).RefusedSince (s₂.sockets.get k) →
    s₁.endpoints.get id = s₂.endpoints.get id ∧
    (s₁.sockets.get k).handed .send = (s₂.sockets.get k).handed .send ∧
    ((s₁.sockets.get k).handed .receive).map Operation.slot =
      ((s₂.sockets.get k).handed .receive).map Operation.slot ∧
    s₁.meter = s₂.meter := by
  intro k hr₁ hr₂
  have ha₁ := h.answers h0 hl hid hc h₁ hev₁ hr₁
  have ha₂ := h.answers h0 hl hid hc h₂ hev₂ hr₂
  obtain ⟨out₁, n₁, he₁⟩ := ha₁.endpoint
  obtain ⟨out₂, n₂, he₂⟩ := ha₂.endpoint
  obtain ⟨hend, hsends, hreceives⟩ := he₁.unique he₂ (hp.filterMap _)
  refine ⟨hend, hsends, hreceives, ?_⟩
  rw [ha₁.meter, ha₂.meter]
  exact (hp.map _).foldl_eq' (fun x _ y _ m => m.note_right_comm x y) _

/-- One byte arrives in slot `t` of the first endpoint. -/
def arrivesIn (t : Slot) (byte : UInt8) : Completion where
  operation := {
    kind := .receive, endpoint := some 0, buffer := ⟨[byte], 4096⟩, capacity := 4096
    peer := some ⟨.v4 0x7f000001, 4000, 0⟩, slot := some t }
  result := .ok 1

/-- A datagram endpoint with receives in slots 0 and 1. -/
def bound : Server := mirroring.step (.bind 0 .v4)

/-- Two datagrams complete in the order of their slots, and the other way round. -/
theorem order_irrelevant_datagrams :
    let s₁ := (bound.step (.complete 0 0 (arrivesIn 0 97) .listed)).step
      (.complete 0 0 (arrivesIn 1 98) .listed)
    let s₂ := (bound.step (.complete 0 1 (arrivesIn 1 98) .reversed)).step
      (.complete 0 0 (arrivesIn 0 97) .reversed)
    s₁.endpoints.get 0 = s₂.endpoints.get 0 ∧
      (s₁.sockets.get 0).handed .send = (s₂.sockets.get 0).handed .send ∧
      ((s₂.sockets.get 0).handed .send).map Operation.payload = [[97], [98]] := by
  have hbind : Run mirroring [.bind 0 .v4] bound := .snoc _ .start ⟨nofun, rfl⟩
  have hfirst : Run bound [.complete 0 0 (arrivesIn 0 97) .listed]
      (bound.step (.complete 0 0 (arrivesIn 0 97) .listed)) :=
    .snoc _ .start ⟨⟨_, _, rfl, ⟨rfl, rfl, rfl⟩⟩, nofun⟩
  have hsecond : Run bound [.complete 0 1 (arrivesIn 1 98) .reversed]
      (bound.step (.complete 0 1 (arrivesIn 1 98) .reversed)) :=
    .snoc _ .start ⟨⟨_, _, rfl, ⟨rfl, rfl, rfl⟩⟩, nofun⟩
  have h₁ := hfirst.snoc (.complete 0 0 (arrivesIn 1 98) .listed)
    ⟨⟨_, _, rfl, ⟨rfl, rfl, rfl⟩⟩, nofun⟩
  have h₂ := hsecond.snoc (.complete 0 0 (arrivesIn 0 97) .reversed)
    ⟨⟨_, _, rfl, ⟨rfl, rfl, rfl⟩⟩, nofun⟩
  have hev (order : VisitingOrder) (i j : Nat) (t u : Slot) (x y : UInt8) :
      ∀ ev ∈ [.complete 0 i (arrivesIn t x) order, .complete 0 j (arrivesIn u y) order],
        Continues 0 (bound.endpoints.get 0).kind ev := by
    intro ev hm
    rcases List.mem_pair.1 hm with rfl | rfl
    · exact ⟨rfl, rfl, trivial⟩
    · exact ⟨rfl, rfl, trivial⟩
  obtain ⟨hend, hsends, -, -⟩ := Run.order_irrelevant ofSettings_mirroring hbind rfl
    (by decide) rfl h₁ h₂ (hev _ 0 0 0 1 97 98) (hev _ 1 0 1 0 98 97) (.swap _ _ _)
    (Socket.not_refusedSince rfl) (Socket.not_refusedSince rfl)
  exact ⟨hend, hsends, rfl⟩

end Server

end OrderedEcho
