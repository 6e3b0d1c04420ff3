import Mathlib.Data.List.Perm.Basic
import OrderedEcho.Socket

/-!
# Histories of sockets

`Socket.handed` lists the operations of one kind that a socket was ever asked to start, refused ones
included, and `Socket.taken` counts those that it did start.  `Socket.receiving` lists the slots of
the receives in flight.

A post ends in one of two ways, `Socket.Took` and `Socket.Refused`, and an operation is taken off a
socket by `Socket.GaveBack`.  Each of the three says all that the theory needs to know about the new
socket, so nothing else here looks into `Socket.post` or `Socket.take?`.
-/

namespace OrderedEcho

/-- The operation of a post of the given kind. -/
def SocketEvent.posted? (kind : OperationKind) : SocketEvent → Option Operation
  | .post k op _ => if k = kind then some op else none
  | .close => none

/-- The operation of a post of the given kind, if it was started. -/
def SocketEvent.started? (kind : OperationKind) : SocketEvent → Option Operation
  | .post k op none => if k = kind then some op else none
  | .post _ _ (some _) => none
  | .close => none

/-- The event is a post of an operation that was started. -/
def SocketEvent.isTaken : SocketEvent → Bool
  | .post _ _ refusal => refusal.isNone
  | .close => false

/-- The event is a post of a receive in slot `t` that was started. -/
def SocketEvent.startsReceive (t : Slot) : SocketEvent → Bool
  | .post .receive op none => op.slot = some t
  | _ => false

/-- The event is a post of a receive in slot `t` that was refused. -/
def SocketEvent.refusesReceive (t : Slot) : SocketEvent → Bool
  | .post .receive op (some _) => op.slot = some t
  | _ => false

namespace Socket

/-- The operations of one kind that the socket was asked to start, in order. -/
def handed (s : Socket) (kind : OperationKind) : List Operation :=
  s.history.filterMap (SocketEvent.posted? kind)

/-- The operations of one kind that the socket started, in order. -/
def started (s : Socket) (kind : OperationKind) : List Operation :=
  s.history.filterMap (SocketEvent.started? kind)

/-- The number of operations that the socket started. -/
def taken (s : Socket) : Nat := s.history.countP SocketEvent.isTaken

/-- The slots of the receives in flight. -/
def receiving (s : Socket) : List Slot := (s.lane .receive).inFlight.filterMap Operation.slot

/-- The number of receives in slot `t` that the socket started. -/
def startedIn (s : Socket) (t : Slot) : Nat := s.history.countP (SocketEvent.startsReceive t)

/-- The socket was asked to start a receive in slot `t` and refused it. -/
def RefusedReceive (s : Socket) (t : Slot) : Prop :=
  ∃ op e, .post .receive op (some e) ∈ s.history ∧ op.slot = some t

theorem length_inFlight (s : Socket) :
    s.inFlight.length = (s.lane .accept).inFlight.length + (s.lane .receive).inFlight.length +
      (s.lane .send).inFlight.length := by
  simp only [inFlight, List.length_append]
  rfl

/-! ## Outcomes of a post -/

/-- The socket started the operation. -/
structure Took (s : Socket) (kind : OperationKind) (op : Operation) (s' : Socket) : Prop where
  opened : s.closed = false
  closed : s'.closed = s.closed
  history : s'.history = s.history ++ [.post kind op none]
  lane_self : (s'.lane kind).inFlight = (s.lane kind).inFlight ++ [op]
  lane_of_ne : ∀ k, k ≠ kind → (s'.lane k).inFlight = (s.lane k).inFlight

/-- The socket did not start the operation. -/
structure Refused (s : Socket) (kind : OperationKind) (op : Operation) (e : IoError)
    (s' : Socket) : Prop where
  closed : s'.closed = s.closed
  history : s'.history = s.history ++ [.post kind op (some e)]
  lane : ∀ k, (s'.lane k).inFlight = (s.lane k).inFlight

@[simp] theorem inFlight_lane_setLane (s : Socket) (kind k : OperationKind) (r : Refusals) :
    ((s.setLane kind ⟨(s.lane kind).inFlight, r⟩).lane k).inFlight = (s.lane k).inFlight := by
  by_cases h : kind = k
  · subst h
    rw [lane_setLane_self]
  · rw [lane_setLane_of_ne _ _ h]

@[simp] theorem inFlight_lane_close (s : Socket) (kind : OperationKind) :
    (s.close.lane kind).inFlight = (s.lane kind).inFlight := by
  cases kind <;> rfl

@[simp] theorem history_setLane (s : Socket) (kind : OperationKind) (lane : Lane) :
    (s.setLane kind lane).history = s.history := by
  cases kind <;> rfl

theorem took_of_post {s s' : Socket} {kind : OperationKind} {op : Operation}
    (h : s.post kind op = (none, s')) : s.Took kind op s' := by
  unfold post at h
  split at h
  · simp at h
  · next hc =>
    rcases hn : (s.lane kind).refusals.next with ⟨_ | e, refusals⟩
    · rw [hn] at h
      obtain ⟨-, rfl⟩ := Prod.mk.inj h
      refine ⟨by simpa using hc, closed_setLane _ _ _, ?_, ?_, fun k hk => ?_⟩
      · show (s.setLane kind _).history ++ _ = _
        rw [history_setLane]
      · show ((s.setLane kind _).lane kind).inFlight = _
        rw [lane_setLane_self]
        rfl
      · show ((s.setLane kind _).lane k).inFlight = _
        rw [lane_setLane_of_ne _ _ (Ne.symm hk)]
    · rw [hn] at h
      simp at h

theorem refused_of_post {s s' : Socket} {kind : OperationKind} {op : Operation} {e : IoError}
    (h : s.post kind op = (some e, s')) : s.Refused kind op e s' := by
  unfold post at h
  split at h
  · obtain ⟨he, rfl⟩ := Prod.mk.inj h
    obtain rfl := Option.some.inj he
    exact ⟨rfl, rfl, fun _ => rfl⟩
  · rcases hn : (s.lane kind).refusals.next with ⟨_ | e', refusals⟩
    · rw [hn] at h
      simp at h
    · rw [hn] at h
      obtain ⟨he, rfl⟩ := Prod.mk.inj h
      obtain rfl := Option.some.inj he
      refine ⟨closed_setLane _ _ _, ?_, fun k => inFlight_lane_setLane s kind k _⟩
      show (s.setLane kind _).history ++ _ = _
      rw [history_setLane]

/-- An operation in flight came back. -/
structure GaveBack (s : Socket) (kind : OperationKind) (op : Operation) (s' : Socket) : Prop where
  closed : s'.closed = s.closed
  history : s'.history = s.history
  lane_self : (s.lane kind).inFlight.Perm (op :: (s'.lane kind).inFlight)
  lane_of_ne : ∀ k, k ≠ kind → (s'.lane k).inFlight = (s.lane k).inFlight

theorem gaveBack_of_take? {s s' : Socket} {kind : OperationKind} {i : Nat} {op : Operation}
    (h : s.take? kind i = some (op, s')) : s.GaveBack kind op s' := by
  obtain ⟨op', hi, ho⟩ := Option.map_eq_some_iff.1 h
  obtain ⟨rfl, rfl⟩ := Prod.mk.inj ho
  obtain ⟨hlt, rfl⟩ := List.getElem?_eq_some_iff.1 hi
  refine ⟨closed_setLane _ _ _, history_setLane _ _ _, ?_, fun k hk => ?_⟩
  · rw [lane_setLane_self]
    exact (List.getElem_cons_eraseIdx_perm hlt).symm
  · rw [lane_setLane_of_ne _ _ (Ne.symm hk)]

/-! ## Operations in flight -/

variable {s s' : Socket} {kind : OperationKind} {op : Operation} {e : IoError}

theorem Took.mem_lane (h : s.Took kind op s') {k : OperationKind} {x : Operation}
    (hx : x ∈ (s'.lane k).inFlight) : x ∈ (s.lane k).inFlight ∨ k = kind ∧ x = op := by
  by_cases hk : k = kind
  · subst hk
    rw [h.lane_self, List.mem_append, List.mem_singleton] at hx
    exact hx.imp_right fun hx => ⟨rfl, hx⟩
  · rw [h.lane_of_ne k hk] at hx
    exact Or.inl hx

theorem GaveBack.mem_lane (h : s.GaveBack kind op s') {k : OperationKind} {x : Operation}
    (hx : x ∈ (s'.lane k).inFlight) : x ∈ (s.lane k).inFlight := by
  by_cases hk : k = kind
  · subst hk
    exact h.lane_self.mem_iff.2 (List.mem_cons_of_mem _ hx)
  · rwa [← h.lane_of_ne k hk]

/-- What was in flight still is, unless it is what came back. -/
theorem GaveBack.mem_or_eq (h : s.GaveBack kind op s') {k : OperationKind} {x : Operation}
    (hx : x ∈ (s.lane k).inFlight) : x ∈ (s'.lane k).inFlight ∨ x = op := by
  by_cases hk : k = kind
  · subst hk
    exact (List.mem_cons.1 (h.lane_self.mem_iff.1 hx)).symm
  · rw [h.lane_of_ne k hk]
    exact Or.inl hx

theorem GaveBack.op_mem_lane (h : s.GaveBack kind op s') : op ∈ (s.lane kind).inFlight :=
  h.lane_self.mem_iff.2 List.mem_cons_self

theorem Took.length_inFlight (h : s.Took kind op s') :
    s'.inFlight.length = s.inFlight.length + 1 := by
  have hl : (s'.lane kind).inFlight.length = (s.lane kind).inFlight.length + 1 := by
    rw [h.lane_self, List.length_append, List.length_singleton]
  have hne := fun k hk => congrArg List.length (h.lane_of_ne k hk)
  rw [Socket.length_inFlight, Socket.length_inFlight]
  cases kind with
  | accept => rw [hl, hne .receive (by decide), hne .send (by decide)]; omega
  | receive => rw [hl, hne .accept (by decide), hne .send (by decide)]; omega
  | send => rw [hl, hne .accept (by decide), hne .receive (by decide)]; omega

theorem Refused.length_inFlight (h : s.Refused kind op e s') :
    s'.inFlight.length = s.inFlight.length := by
  simp only [Socket.length_inFlight, h.lane]

theorem GaveBack.length_inFlight (h : s.GaveBack kind op s') :
    s.inFlight.length = s'.inFlight.length + 1 := by
  have hl : (s.lane kind).inFlight.length = (s'.lane kind).inFlight.length + 1 := by
    rw [h.lane_self.length_eq, List.length_cons]
  have hne := fun k hk => congrArg List.length (h.lane_of_ne k hk)
  rw [Socket.length_inFlight, Socket.length_inFlight]
  cases kind with
  | accept => rw [hl, hne .receive (by decide), hne .send (by decide)]; omega
  | receive => rw [hl, hne .accept (by decide), hne .send (by decide)]; omega
  | send => rw [hl, hne .accept (by decide), hne .receive (by decide)]; omega

theorem Took.receiving_of_ne (h : s.Took kind op s') (hk : kind ≠ .receive) :
    s'.receiving = s.receiving := by
  unfold receiving
  rw [h.lane_of_ne _ (Ne.symm hk)]

theorem Took.receiving (h : s.Took .receive op s') {t : Slot} (ht : op.slot = some t) :
    s'.receiving = s.receiving ++ [t] := by
  unfold Socket.receiving
  rw [h.lane_self, List.filterMap_append, List.filterMap_cons_some ht, List.filterMap_nil]

theorem Refused.receiving (h : s.Refused kind op e s') : s'.receiving = s.receiving := by
  unfold Socket.receiving
  rw [h.lane]

theorem GaveBack.receiving_of_ne (h : s.GaveBack kind op s') (hk : kind ≠ .receive) :
    s'.receiving = s.receiving := by
  unfold Socket.receiving
  rw [h.lane_of_ne _ (Ne.symm hk)]

theorem GaveBack.receiving (h : s.GaveBack .receive op s') {t : Slot} (ht : op.slot = some t) :
    s.receiving.Perm (t :: s'.receiving) := by
  have := h.lane_self.filterMap Operation.slot
  rwa [List.filterMap_cons_some ht] at this

/-! ## What was handed over -/

theorem handed_append {x : SocketEvent} (h : s'.history = s.history ++ [x]) (k : OperationKind) :
    s'.handed k = s.handed k ++ (x.posted? k).toList := by
  unfold handed
  rw [h, List.filterMap_append]
  cases hx : x.posted? k <;> simp [hx]

theorem taken_append {x : SocketEvent} (h : s'.history = s.history ++ [x]) :
    s'.taken = s.taken + if x.isTaken then 1 else 0 := by
  unfold taken
  rw [h, List.countP_append, List.countP_singleton]

theorem handed_of_post {r : Option IoError} (h : s'.history = s.history ++ [.post kind op r]) :
    s'.handed kind = s.handed kind ++ [op] := by
  rw [handed_append h]
  simp [SocketEvent.posted?]

theorem handed_of_post_ne {r : Option IoError} (h : s'.history = s.history ++ [.post kind op r])
    {k : OperationKind} (hk : kind ≠ k) : s'.handed k = s.handed k := by
  rw [handed_append h]
  simp [SocketEvent.posted?, hk]

@[simp] theorem handed_close (k : OperationKind) : s.close.handed k = s.handed k := by
  rw [handed_append (s := s) (x := .close) rfl]
  simp [SocketEvent.posted?]

@[simp] theorem taken_close : s.close.taken = s.taken := taken_append (s := s) (x := .close) rfl

theorem started_append {x : SocketEvent} (h : s'.history = s.history ++ [x]) (k : OperationKind) :
    s'.started k = s.started k ++ (x.started? k).toList := by
  unfold started
  rw [h, List.filterMap_append]
  cases hx : x.started? k <;> simp [hx]

theorem Took.started (h : s.Took kind op s') : s'.started kind = s.started kind ++ [op] := by
  rw [started_append h.history]
  simp [SocketEvent.started?]

theorem Took.started_of_ne (h : s.Took kind op s') {k : OperationKind} (hk : kind ≠ k) :
    s'.started k = s.started k := by
  rw [started_append h.history]
  simp [SocketEvent.started?, hk]

theorem Refused.started (h : s.Refused kind op e s') (k : OperationKind) :
    s'.started k = s.started k := by
  rw [started_append h.history]
  exact List.append_nil _

@[simp] theorem started_close (k : OperationKind) : s.close.started k = s.started k := by
  rw [started_append (s := s) (x := .close) rfl]
  exact List.append_nil _

theorem handed_congr (h : s'.history = s.history) (k : OperationKind) :
    s'.handed k = s.handed k := by
  unfold handed
  rw [h]

theorem started_congr (h : s'.history = s.history) (k : OperationKind) :
    s'.started k = s.started k := by
  unfold started
  rw [h]

theorem taken_congr (h : s'.history = s.history) : s'.taken = s.taken := by
  unfold taken
  rw [h]

theorem startedIn_congr (h : s'.history = s.history) (t : Slot) :
    s'.startedIn t = s.startedIn t := by
  unfold startedIn
  rw [h]

theorem Took.taken (h : s.Took kind op s') : s'.taken = s.taken + 1 := taken_append h.history

theorem Refused.taken (h : s.Refused kind op e s') : s'.taken = s.taken := taken_append h.history

theorem startedIn_append {x : SocketEvent} (h : s'.history = s.history ++ [x]) (t : Slot) :
    s'.startedIn t = s.startedIn t + if x.startsReceive t then 1 else 0 := by
  unfold startedIn
  rw [h, List.countP_append, List.countP_singleton]

@[simp] theorem startedIn_close (t : Slot) : s.close.startedIn t = s.startedIn t :=
  startedIn_append (s := s) (x := .close) rfl t

theorem Took.startedIn (h : s.Took .receive op s') {t : Slot} (ht : op.slot = some t) (u : Slot) :
    s'.startedIn u = s.startedIn u + if t = u then 1 else 0 := by
  rw [startedIn_append h.history]
  simp only [SocketEvent.startsReceive, ht, Option.some.injEq, decide_eq_true_eq]

theorem Took.startedIn_of_ne (h : s.Took kind op s') (hk : kind ≠ .receive) (t : Slot) :
    s'.startedIn t = s.startedIn t := by
  rw [startedIn_append h.history]
  cases kind with
  | receive => exact absurd rfl hk
  | accept | send => rfl

theorem Refused.startedIn (h : s.Refused kind op e s') (t : Slot) :
    s'.startedIn t = s.startedIn t := by
  rw [startedIn_append h.history]
  cases kind <;> rfl

theorem count_posted? (x : SocketEvent) (t : Slot) :
    ((x.posted? .receive).toList.map Operation.slot).count (some t) =
      (if x.startsReceive t then 1 else 0) + if x.refusesReceive t then 1 else 0 := by
  rcases x with ⟨kind, op, r⟩ | -
  · cases kind with
    | accept | send => rfl
    | receive =>
      cases r <;> simp [SocketEvent.posted?, SocketEvent.startsReceive,
        SocketEvent.refusesReceive, List.count_singleton]
  · rfl

/-- Each receive that was handed over was started or refused. -/
theorem count_handed_receive (s : Socket) (t : Slot) :
    ((s.handed .receive).map Operation.slot).count (some t) =
      s.startedIn t + s.history.countP (SocketEvent.refusesReceive t) := by
  unfold handed startedIn
  induction s.history with
  | nil => rfl
  | cons x xs ih =>
    have hx := count_posted? x t
    rw [List.countP_cons, List.countP_cons, List.filterMap_cons]
    cases hp : x.posted? .receive with
    | none =>
      rw [hp] at hx
      simp only [Option.toList_none, List.map_nil, List.count_nil] at hx
      dsimp only
      omega
    | some op =>
      rw [hp] at hx
      simp only [Option.toList_some, List.map_cons, List.map_nil, List.count_singleton] at hx
      simp only [List.map_cons, List.count_cons]
      omega

/-- A receive that is the only one in its slot and was refused was not started. -/
theorem RefusedReceive.startedIn_eq_zero {t : Slot} (h : s.RefusedReceive t)
    (hc : ((s.handed .receive).map Operation.slot).count (some t) ≤ 1) : s.startedIn t = 0 := by
  obtain ⟨op, e, hm, ht⟩ := h
  have hpos : 0 < s.history.countP (SocketEvent.refusesReceive t) :=
    List.countP_pos_iff.2 ⟨_, hm, by simp [SocketEvent.refusesReceive, ht]⟩
  rw [count_handed_receive] at hc
  omega

theorem RefusedReceive.mono {t : Slot} (h : s.RefusedReceive t) (hs : s.history <+: s'.history) :
    s'.RefusedReceive t := by
  obtain ⟨op, e, hm, ht⟩ := h
  exact ⟨op, e, hs.subset hm, ht⟩

theorem Refused.refusedReceive (h : s.Refused .receive op e s') {t : Slot} (ht : op.slot = some t) :
    s'.RefusedReceive t := by
  refine ⟨op, e, ?_, ht⟩
  rw [h.history]
  exact List.mem_append_right _ List.mem_cons_self

end Socket

end OrderedEcho
