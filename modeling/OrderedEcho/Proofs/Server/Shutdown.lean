import OrderedEcho.Proofs.Server.Handling
import OrderedEcho.Proofs.Server.Run

/-!
# Servers that are shut down

When a server is shut down, every endpoint is aborted or destroyed already (`Down`).  From then on
no endpoint is registered, and whatever happens to a socket without an endpoint is that it is closed
(`Drains`).
-/

namespace OrderedEcho

namespace Server

variable {B B' : Book} {busy : List EndpointId} {held n : Nat} {s s' s'' : Server} {i : EndpointId}
  {socket : SocketId} {op : Operation} {k' : Socket} {c : Completion}

/-- No endpoint was added, and what was asked of a socket without an endpoint is to close. -/
structure Drains (s s' : Server) : Prop extends Grows s s' where
  nextId_eq : s'.directory.nextId = s.directory.nextId
  shuttingDown : s.shuttingDown → s'.shuttingDown
  unowned : ∀ k, ¬ Owned s k → ∃ n,
    (s'.sockets.get k).history = (s.sockets.get k).history ++ List.replicate n .close

theorem Drains.owned_iff (h : Drains s s') {k : SocketId} : Owned s' k ↔ Owned s k := by
  refine ⟨fun ⟨j, hj, he⟩ => ?_, h.owned⟩
  rw [h.nextId_eq] at hj
  exact ⟨j, hj, (h.endpoint j hj).socket.symm.trans he⟩

theorem Drains.of_unowned_eq (hg : Grows s s')
    (hn : s'.directory.nextId = s.directory.nextId) (hd : s.shuttingDown → s'.shuttingDown)
    (hk : ∀ k, ¬ Owned s k → s'.sockets.get k = s.sockets.get k) : Drains s s' := by
  refine ⟨hg, hn, hd, fun k ho => ⟨0, ?_⟩⟩
  rw [hk k ho, List.replicate_zero, List.append_nil]

theorem Drains.refl (s : Server) : Drains s s :=
  .of_unowned_eq (.refl s) rfl id fun _ _ => rfl

theorem Drains.trans (h : Drains s s') (h' : Drains s' s'') : Drains s s'' := by
  refine ⟨h.toGrows.trans h'.toGrows, h'.nextId_eq.trans h.nextId_eq,
    h'.shuttingDown ∘ h.shuttingDown, fun k ho => ?_⟩
  obtain ⟨n, hn⟩ := h.unowned k ho
  obtain ⟨m, hm⟩ := h'.unowned k fun ho' => ho (h.owned_iff.1 ho')
  exact ⟨n + m, by rw [hm, hn, List.append_assoc, List.replicate_append_replicate]⟩

theorem drains_touch (ht : Touches i s s') (hi : i < s.directory.nextId)
    (hd : s.shuttingDown → s'.shuttingDown) : Drains s s' :=
  .of_unowned_eq ht.grows (congrArg Directory.nextId ht.directory) hd fun _ ho =>
    ht.sockets _ fun he => ho ⟨i, hi, he.symm⟩

theorem shuttingDown_retire (s : Server) (i : EndpointId) :
    (s.retire i).2.shuttingDown = s.shuttingDown := by
  by_cases h : (s.endpoints.get i).Destroyable
  · rw [retire_of h]
  · rw [retire_of_not h]

theorem drains_retire (hi : i < s.directory.nextId) : Drains s (s.retire i).2 :=
  .of_unowned_eq (grows_retire s i) (nextId_retire s i)
    (fun hd => (shuttingDown_retire s i).trans hd) fun _ ho =>
      socket_retire_of_ne s fun he => ho ⟨i, hi, he.symm⟩

theorem drains_closeFresh (s : Server) (socket : SocketId) :
    Drains s (s.modifySocket socket .close) := by
  have hhist := lift_modifySocket (motive := fun k k' => ∃ n,
      k'.history = k.history ++ List.replicate n .close) (f := Socket.close)
    (fun _ => ⟨1, rfl⟩) (fun _ => ⟨0, by rw [List.replicate_zero, List.append_nil]⟩) s socket
  refine ⟨⟨Nat.le_refl _, fun _ _ => .refl _, fun k => ?_, rfl⟩, rfl, id, fun k _ => hhist k⟩
  obtain ⟨n, hn⟩ := hhist k
  exact hn ▸ List.prefix_append _ _

theorem drains_resume (hs : Sound B busy held s) (i : EndpointId) : Drains s (s.resume i) := by
  obtain ⟨-, h⟩ | ⟨s', hi, -, ha, -, h⟩ := hs.resume_cases i
  · rw [h]
    exact .refl s
  · rw [h]
    refine (drains_touch ha.toTouches (hs.lt_nextId hi) ha.shuttingDown.trans).trans
      (drains_retire ?_)
    rw [ha.directory]
    exact hs.lt_nextId hi

theorem drains_foldl_resume (ids : List EndpointId) (hs : Sound B [] held s) :
    Drains s (ids.foldl resume s) :=
  hs.foldl_resume (.refl s) (fun _ i hs' h => h.trans (drains_resume hs' i)) ids

theorem drains_resumeStarved (hs : Sound B [] held s) (order : VisitingOrder) :
    Drains s (s.resumeStarved order) := by
  have hl := later_clearStarved hs
  have hd : Drains s { s with starved := .empty } :=
    .of_unowned_eq hl.grows rfl id fun _ _ => rfl
  exact hd.trans (drains_foldl_resume _ hl.sound)

/-- A server that is shut down opens no stream for a connection. -/
theorem drains_complete (h : Arrives B B' s socket i op k' c) (hs : Sound B [] held s)
    (hd : s.shuttingDown) : Drains s ((s.modifySocket socket fun _ => k').complete i c) := by
  obtain ⟨s', hh, he⟩ := h.handles hs
  have hi := hs.lt_nextId h.registered
  have hfin : Drains s (s.finishing socket k' i) := drains_touch h.touches hi id
  have hlt {s' : Server} (hx : Drains s s') : i < s'.directory.nextId := hx.nextId_eq ▸ hi
  rw [he]
  cases hh with
  | acts ha =>
    have hx := hfin.trans (drains_touch ha.toTouches (hlt hfin) ha.shuttingDown.trans)
    exact hx.trans (drains_retire (hlt hx))
  | @turnsAway a ha hc =>
    have hclosed := hfin.trans (drains_closeFresh _ a.socket)
    have hx := hclosed.trans
      (drains_touch (acts_release i _ c.operation).toTouches (hlt hclosed) id)
    exact hx.trans (drains_retire (hlt hx))
  | opens meter ha ho => exact absurd (Or.inr (hfin.shuttingDown hd)) ho

theorem drains_handle (h : Arrives B B' s socket i op k' c) (hs : Sound B [] held s)
    (hc : Informs B' s i op c) (hd : s.shuttingDown) (order : VisitingOrder) :
    Drains s ((s.modifySocket socket fun _ => k').handle c order) := by
  rw [h.handle_eq]
  exact (drains_complete h hs hd).trans
    (drains_resumeStarved (handled_complete h hs hc).sound order)

/-! ## Shutting down -/

theorem drains_abort (hi : i < s.directory.nextId) : Drains s (s.abort i) :=
  (drains_touch (touches_modifyLink (.close _ true)) hi id).trans (drains_retire hi)

theorem drains_foldl_abort {ids : List EndpointId} (hids : ∀ i ∈ ids, i < s.directory.nextId) :
    Drains s (ids.foldl abort s) := by
  induction ids generalizing s with
  | nil => exact .refl s
  | cons i ids ih =>
    have hd := drains_abort (hids i List.mem_cons_self)
    refine hd.trans (ih fun j hj => ?_)
    rw [hd.nextId_eq]
    exact hids j (List.mem_cons_of_mem _ hj)

theorem drains_shutdown (hs : Sound B busy held s) (order : VisitingOrder) :
    Drains s (s.shutdown order) := by
  have hd : Drains s { s with shuttingDown := true } :=
    .of_unowned_eq (.of_eq rfl rfl rfl rfl) rfl (fun _ => rfl) fun _ _ => rfl
  exact hd.trans (drains_foldl_abort fun _ hi => hs.lt_nextId (VisitingOrder.mem_arrange.1 hi))

theorem aborted_abort (s : Server) (i : EndpointId) : ((s.abort i).endpoints.get i).aborted := by
  have hc : ((s.modifyLink i (·.close true)).link i).endpoint.aborted := by
    rw [link_modifyLink]
    rfl
  exact (lift_retire (motive := fun e e' => e.aborted → e'.aborted) (fun _ => id) (fun _ => id)
    (s.modifyLink i (·.close true)) i i) hc

theorem aborted_foldl_abort {ids : List EndpointId} (hids : ∀ j ∈ ids, j < s.directory.nextId)
    (hi : i ∈ ids) : ((ids.foldl abort s).endpoints.get i).aborted := by
  induction ids generalizing s with
  | nil => cases hi
  | cons j ids ih =>
    have hj := hids j List.mem_cons_self
    have hrest : ∀ j' ∈ ids, j' < (s.abort j).directory.nextId := fun j' hj' =>
      (drains_abort hj).nextId_eq ▸ hids j' (List.mem_cons_of_mem _ hj')
    by_cases hi' : i ∈ ids
    · exact ih hrest hi'
    · obtain rfl := (List.mem_cons.1 hi).resolve_right hi'
      refine ((drains_foldl_abort hrest).endpoint i ?_).aborted (aborted_abort s i)
      exact (drains_abort hj).nextId_eq ▸ hj

/-- The server is shut down, and all its endpoints are aborted or destroyed. -/
structure Down (s : Server) : Prop where
  shuttingDown : s.shuttingDown
  ended : ∀ j < s.directory.nextId, (s.endpoints.get j).aborted ∨ (s.endpoints.get j).destroyed

theorem down_shutdown (hs : Sound B busy held s) (order : VisitingOrder) :
    Down (s.shutdown order) := by
  have hids : ∀ i ∈ order.arrange s.directory.ids, i < s.directory.nextId := fun _ hi =>
    hs.lt_nextId (VisitingOrder.mem_arrange.1 hi)
  have hd : Drains { s with shuttingDown := true } (s.shutdown order) := drains_foldl_abort hids
  refine ⟨hd.shuttingDown rfl, fun j hj => ?_⟩
  have hj : j < s.directory.nextId := hd.nextId_eq ▸ hj
  by_cases hm : j ∈ s.directory.ids
  · exact Or.inl (aborted_foldl_abort (s := { s with shuttingDown := true }) hids
      (VisitingOrder.mem_arrange.2 hm))
  · exact Or.inr ((hd.endpoint j hj).destroyed (hs.destroyed_of_notMem hj hm))

theorem Down.of_drains (h : Down s) (hd : Drains s s') : Down s' := by
  refine ⟨hd.shuttingDown h.shuttingDown, fun j hj => ?_⟩
  have hj : j < s.directory.nextId := hd.nextId_eq ▸ hj
  exact (h.ended j hj).imp (hd.endpoint j hj).aborted (hd.endpoint j hj).destroyed

theorem Down.closing (h : Down s) (hs : Sound B busy held s) (hi : i < s.directory.nextId) :
    (s.endpoints.get i).closing :=
  (h.ended i hi).elim (hs.endpoint hi).lifecycle.closing_of_aborted
    (hs.endpoint hi).lifecycle.closing_of_destroyed

theorem Down.deferred_eq_zero (h : Down s) (hs : Sound B busy held s) (hi : i < s.directory.nextId) :
    (s.endpoints.get i).deferred = 0 :=
  (hs.endpoint hi).lifecycle.deferred_eq_zero (h.closing hs hi)

/-! ## Runs -/

variable {s₀ : Server} {evs evs' : List ServerEvent} {settings : Settings} {now : Int}

theorem Run.drains_step {ev : ServerEvent} (hr : Run s₀ evs s) (hs : Sound (book s₀ evs) [] 0 s)
    (hev : s.Possible ev) (hd : s.shuttingDown)
    (hn : ∀ k family, ev ≠ .listen k family ∧ ev ≠ .bind k family) : Drains s (s.step ev) := by
  cases ev with
  | listen k family => exact absurd rfl (hn k family).1
  | bind k family => exact absurd rfl (hn k family).2
  | shutdown order => exact drains_shutdown hs order
  | refuse k kind r =>
    refine ⟨(later_refuse hs k kind r).grows, rfl, id, fun j _ => ⟨0, ?_⟩⟩
    rw [List.replicate_zero, List.append_nil]
    exact (same_refuse s k kind r j).history
  | complete k i c order =>
    obtain ⟨⟨op, k', ht, hret⟩, hf⟩ := hev
    obtain ⟨id, ha⟩ := hs.arrives hr ht hret order
    rw [step_complete ht]
    exact drains_handle ha hs (ha.informs hr hs hf) hd order

theorem Run.drains (h0 : Server.ofSettings settings now = .ok s₀) (h : Run s₀ evs s)
    (hd : s.shuttingDown) (h' : Run s evs' s')
    (hn : ∀ k family, .listen k family ∉ evs' ∧ .bind k family ∉ evs') : Drains s s' := by
  induction h' with
  | start => exact .refl s
  | @snoc evs₁ s₁ ev hr hev ih =>
    have hd₁ := ih fun k family => ⟨fun hm => (hn k family).1 (List.mem_append_left _ hm),
      fun hm => (hn k family).2 (List.mem_append_left _ hm)⟩
    have hr' := h.trans hr
    refine hd₁.trans (hr'.drains_step (hr'.sound h0) hev (hd₁.shuttingDown hd) fun k family => ?_)
    constructor
    · rintro rfl
      exact (hn k family).1 (List.mem_append_right _ List.mem_cons_self)
    · rintro rfl
      exact (hn k family).2 (List.mem_append_right _ List.mem_cons_self)

end Server

end OrderedEcho
