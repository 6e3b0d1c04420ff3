import OrderedEcho.Proofs.Socket.History

/-!
# What a socket replies

A closed socket refuses every post, and an open one answers by the schedule of the lane.
`Socket.answer` looks ahead at those answers, and `Socket.replies` pairs them with the operations
that are going to be posted.  `Socket.Asked` says that these operations, and nothing else, were
posted: it composes (`Asked.trans`), and it determines the new history and what is in flight.
-/

namespace OrderedEcho

/-- An operation that was posted, with the error of a refusal. -/
abbrev Reply := Operation × Option IoError

/-- The operations that were started. -/
def Reply.accepted (rs : List Reply) : List Operation :=
  (rs.filter fun r => r.2.isNone).map Prod.fst

/-- The operations that were refused. -/
def Reply.refused (rs : List Reply) : List Operation :=
  (rs.filter fun r => r.2.isSome).map Prod.fst

namespace Socket

/-- The answer to the `n`-th of the next posts of one kind, counted from zero. -/
def answer (s : Socket) (kind : OperationKind) (n : Nat) : Option IoError :=
  if s.closed then some .socketClosed
  else (s.lane kind).refusals.answers ((s.lane kind).refusals.asked + n)

/-- The operations with the answers that they get if they are posted next. -/
def replies (s : Socket) (kind : OperationKind) (ops : List Operation) : List Reply :=
  ops.mapIdx fun n op => (op, s.answer kind n)

/-- The operations were posted one after the other. -/
structure Asked (s : Socket) (kind : OperationKind) (ops : List Operation) (s' : Socket) :
    Prop where
  closed : s'.closed = s.closed
  history : s'.history =
    s.history ++ (s.replies kind ops).map fun r => .post kind r.1 r.2
  answer_self : ∀ n, s'.answer kind n = s.answer kind (ops.length + n)
  answer_of_ne : ∀ k, k ≠ kind → ∀ n, s'.answer k n = s.answer k n
  lane_self : (s'.lane kind).inFlight =
    (s.lane kind).inFlight ++ Reply.accepted (s.replies kind ops)
  lane_of_ne : ∀ k, k ≠ kind → (s'.lane k).inFlight = (s.lane k).inFlight

variable {s s' s'' : Socket} {kind : OperationKind} {op : Operation} {ops ops' : List Operation}

/-! ## Replies -/

theorem replies_append (s : Socket) (kind : OperationKind) (ops ops' : List Operation) :
    s.replies kind (ops ++ ops') = s.replies kind ops ++
      ops'.mapIdx fun n op => (op, s.answer kind (ops.length + n)) := by
  unfold replies
  rw [List.mapIdx_append]
  simp only [Nat.add_comm]

theorem map_fst_replies (s : Socket) (kind : OperationKind) (ops : List Operation) :
    (s.replies kind ops).map Prod.fst = ops := by
  unfold replies
  exact List.ext_getElem (by simp) fun n h h' => by simp

/-- A reply is the answer to the post at its place. -/
theorem exists_answer_of_mem_replies {r : Reply} (h : r ∈ s.replies kind ops) :
    ∃ n < ops.length, r.2 = s.answer kind n := by
  obtain ⟨n, hn, rfl⟩ := List.mem_mapIdx.1 h
  exact ⟨n, hn, rfl⟩

theorem accepted_append (rs rs' : List Reply) :
    Reply.accepted (rs ++ rs') = Reply.accepted rs ++ Reply.accepted rs' := by
  unfold Reply.accepted
  rw [List.filter_append, List.map_append]

theorem refused_append (rs rs' : List Reply) :
    Reply.refused (rs ++ rs') = Reply.refused rs ++ Reply.refused rs' := by
  unfold Reply.refused
  rw [List.filter_append, List.map_append]

/-- As long as the answers are none, everything is started. -/
theorem accepted_replies (h : ∀ n < ops.length, s.answer kind n = none) :
    Reply.accepted (s.replies kind ops) = ops := by
  unfold Reply.accepted
  rw [List.filter_eq_self.2 fun r hr => ?_, map_fst_replies]
  obtain ⟨n, hn, ha⟩ := exists_answer_of_mem_replies hr
  rw [ha, h n hn]
  rfl

theorem refused_replies (h : ∀ n < ops.length, s.answer kind n = none) :
    Reply.refused (s.replies kind ops) = [] := by
  unfold Reply.refused
  rw [List.filter_eq_nil_iff.2 fun r hr => ?_, List.map_nil]
  obtain ⟨n, hn, ha⟩ := exists_answer_of_mem_replies hr
  rw [ha, h n hn]
  decide

/-- An operation is started if the answer is none. -/
theorem started_posts (kind : OperationKind) (rs : List Reply) :
    (rs.map fun r => SocketEvent.post kind r.1 r.2).filterMap (SocketEvent.started? kind) =
      Reply.accepted rs := by
  induction rs with
  | nil => rfl
  | cons r rs ih =>
    obtain ⟨op, _ | e⟩ := r
    · have hs : SocketEvent.started? kind (.post kind op none) = some op := if_pos rfl
      rw [List.map_cons, List.filterMap_cons_some hs, ih]
      rfl
    · rw [List.map_cons, List.filterMap_cons_none rfl, ih]
      rfl

/-! ## Posting -/

theorem fst_post (s : Socket) (kind : OperationKind) (op : Operation) :
    (s.post kind op).1 = s.answer kind 0 := by
  unfold post answer
  split <;> rfl

theorem answer_post_self (s : Socket) (kind : OperationKind) (op : Operation) (n : Nat) :
    (s.post kind op).2.answer kind n = s.answer kind (1 + n) := by
  unfold answer
  rw [closed_post]
  split
  · rfl
  · next hc =>
    unfold post
    rw [if_neg hc]
    show ((s.setLane kind _).lane kind).refusals.answers
      (((s.setLane kind _).lane kind).refusals.asked + n) = _
    rw [lane_setLane_self, ← Nat.add_assoc]

theorem answer_post_of_ne (s : Socket) (op : Operation) {k : OperationKind} (h : k ≠ kind)
    (n : Nat) : (s.post kind op).2.answer k n = s.answer k n := by
  unfold answer
  rw [closed_post]
  split
  · rfl
  · next hc =>
    unfold post
    rw [if_neg hc]
    show ((s.setLane kind _).lane k).refusals.answers
      (((s.setLane kind _).lane k).refusals.asked + n) = _
    rw [lane_setLane_of_ne _ _ (Ne.symm h)]

theorem Asked.refl (s : Socket) (kind : OperationKind) : s.Asked kind [] s :=
  ⟨rfl, (List.append_nil _).symm, fun n => by rw [List.length_nil, Nat.zero_add], fun _ _ _ => rfl,
    (List.append_nil _).symm, fun _ _ => rfl⟩

theorem asked_post (s : Socket) (kind : OperationKind) (op : Operation) :
    s.Asked kind [op] (s.post kind op).2 := by
  have hr : s.replies kind [op] = [(op, s.answer kind 0)] := rfl
  have hfst := fst_post s kind op
  have hself := answer_post_self s kind op
  have hother := fun k (hk : k ≠ kind) => answer_post_of_ne s op hk
  rcases hp : s.post kind op with ⟨_ | e, s'⟩ <;> rw [hp] at hfst hself hother
  · have ht := took_of_post hp
    rw [← hfst] at hr
    exact ⟨ht.closed, hr ▸ ht.history, hself, hother, hr ▸ ht.lane_self, ht.lane_of_ne⟩
  · have ht := refused_of_post hp
    rw [← hfst] at hr
    refine ⟨ht.closed, hr ▸ ht.history, hself, hother, ?_, fun k _ => ht.lane k⟩
    rw [hr, ht.lane]
    exact (List.append_nil _).symm

theorem Asked.replies_append (h : s.Asked kind ops s') (ops' : List Operation) :
    s.replies kind (ops ++ ops') = s.replies kind ops ++ s'.replies kind ops' := by
  rw [Socket.replies_append]
  unfold replies
  simp only [h.answer_self]

theorem Asked.trans (h : s.Asked kind ops s') (h' : s'.Asked kind ops' s'') :
    s.Asked kind (ops ++ ops') s'' := by
  refine ⟨h'.closed.trans h.closed, ?_, fun n => ?_, fun k hk n => ?_, ?_, fun k hk => ?_⟩
  · rw [h'.history, h.history, h.replies_append, List.map_append, List.append_assoc]
  · rw [h'.answer_self, h.answer_self, List.length_append, Nat.add_assoc]
  · rw [h'.answer_of_ne k hk, h.answer_of_ne k hk]
  · rw [h'.lane_self, h.lane_self, h.replies_append, accepted_append, List.append_assoc]
  · rw [h'.lane_of_ne k hk, h.lane_of_ne k hk]

theorem Asked.started (h : s.Asked kind ops s') :
    s'.started kind = s.started kind ++ Reply.accepted (s.replies kind ops) := by
  unfold Socket.started
  rw [h.history, List.filterMap_append, started_posts]

end Socket

end OrderedEcho
