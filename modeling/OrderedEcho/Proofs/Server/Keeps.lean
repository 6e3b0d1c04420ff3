import OrderedEcho.Proofs.Link.Gains
import OrderedEcho.Proofs.Server.Provision

/-!
# Endpoints that are left alone

`Keeps j s s'` says that the endpoint `j`, its socket and its registration are the same in `s` and in
`s'`.  Whatever another endpoint does keeps them: it acts, is retired, retries its receives, or
registers a stream for a connection that came with an accept (`Arrives.keeps_complete`).  So a
completion reaches the other endpoints in one way only, when those that wait for receives try again
in the end (`catchesUp_resumeStarved`).
-/

namespace OrderedEcho

/-! ## Registrations -/

namespace Directory

theorem get?_erase_of_ne (d : Directory) {i j : EndpointId} (h : j ≠ i) :
    (d.erase i).get? j = d.get? j := by
  unfold get? erase
  rw [Ascending.toList_filter, List.find?_filter]
  congr 1
  funext info
  by_cases hj : info.id = j <;> simp [hj, h]

theorem find?_insertList_of_ne {info : EndpointInfo} {j : EndpointId} (h : info.id ≠ j)
    (l : List EndpointInfo) :
    (Ascending.insertList EndpointInfo.id info l).find? (fun b => b.id == j) =
      l.find? fun b => b.id == j := by
  have hne : (info.id == j) = false := beq_eq_false_iff_ne.2 h
  induction l with
  | nil => simp [Ascending.insertList, hne]
  | cons b l ih =>
    unfold Ascending.insertList
    split
    · rw [List.find?_cons, hne]
    · split
      · next he => rw [List.find?_cons, hne, List.find?_cons, ← he, hne]
      · rw [List.find?_cons, List.find?_cons, ih]

theorem get?_insert_of_ne (d : Directory) {info : EndpointInfo} {j : EndpointId} (h : info.id ≠ j) :
    (d.insert info).get? j = d.get? j := find?_insertList_of_ne h d.members.toList

end Directory

namespace Server

variable {B B' : Book} {busy : List EndpointId} {held n : Nat} {s s' s'' : Server}
  {i j : EndpointId} {info : EndpointInfo} {socket : SocketId} {op : Operation} {k' : Socket}
  {c : Completion} {post : Link → PostResult × Link} {x : Except PostError EndpointId × Server}

/-- The endpoint `j`, its socket and its registration are unchanged. -/
structure Keeps (j : EndpointId) (s s' : Server) : Prop where
  endpoint : s'.endpoints.get j = s.endpoints.get j
  socket : s'.sockets.get (s.endpoints.get j).socket = s.sockets.get (s.endpoints.get j).socket
  entry : s'.directory.get? j = s.directory.get? j

theorem Keeps.refl (j : EndpointId) (s : Server) : Keeps j s s := ⟨rfl, rfl, rfl⟩

theorem Keeps.trans (h : Keeps j s s') (h' : Keeps j s' s'') : Keeps j s s'' := by
  refine ⟨h'.endpoint.trans h.endpoint, ?_, h'.entry.trans h.entry⟩
  have hs := h'.socket
  rw [h.endpoint] at hs
  exact hs.trans h.socket

theorem Keeps.of_eq (hd : s'.directory = s.directory) (he : s'.endpoints = s.endpoints)
    (hk : s'.sockets = s.sockets) : Keeps j s s' :=
  ⟨by rw [he], by rw [hk], by rw [hd]⟩

theorem keeps_modifySocket (h : (s.endpoints.get j).socket ≠ socket) (f : Socket → Socket) :
    Keeps j s (s.modifySocket socket f) :=
  ⟨rfl, Table.get_set_of_ne _ _ (Ne.symm h), rfl⟩

theorem Touches.keeps (ht : Touches i s s') (hji : j ≠ i)
    (hne : (s.endpoints.get j).socket ≠ (s.endpoints.get i).socket) : Keeps j s s' :=
  ⟨ht.endpoint j hji, ht.sockets _ hne, by rw [ht.directory]⟩

theorem Adds.keeps (ha : Adds info socket s s') (hji : j ≠ info.id)
    (hne : (s.endpoints.get j).socket ≠ socket) : Keeps j s s' := by
  refine ⟨ha.endpoint j hji, ha.sockets _ hne, ?_⟩
  rw [ha.directory]
  exact Directory.get?_insert_of_ne _ (Ne.symm hji)

theorem keeps_retire (hji : j ≠ i)
    (hne : (s.endpoints.get j).socket ≠ (s.endpoints.get i).socket) :
    Keeps j s (s.retire i).2 := by
  refine ⟨endpoint_retire_of_ne s hji, socket_retire_of_ne s hne, ?_⟩
  by_cases h : (s.endpoints.get i).Destroyable
  · rw [retire_of h]
    exact Directory.get?_erase_of_ne _ hji
  · rw [retire_of_not h]

/-- An endpoint that acts and is retired keeps the others. -/
theorem Touches.keeps_retire (ht : Touches i s s') (hji : j ≠ i)
    (hne : (s.endpoints.get j).socket ≠ (s.endpoints.get i).socket) :
    Keeps j s (s'.retire i).2 := by
  have hk := ht.keeps hji hne
  refine hk.trans (Server.keeps_retire hji ?_)
  rwa [hk.endpoint, ht.socket_eq]

/-- A new endpoint keeps those that were there before. -/
theorem Joins.keeps (hj : Joins s info socket post x) (hid : info.id = s.directory.nextId)
    (hf : Fresh s socket) (hlt : j < s.directory.nextId) : Keeps j s x.2 := by
  have hji : j ≠ info.id := hid ▸ Nat.ne_of_lt hlt
  cases hj with
  | joined ha => exact ha.keeps hji (hf.1 j hlt)
  | @failed s' e ha =>
    have hk := ha.keeps hji (hf.1 j hlt)
    have hsock : (s'.endpoints.get info.id).socket = socket := ha.link.socket
    refine hk.trans (Server.keeps_retire hji ?_)
    rw [hk.endpoint, hsock]
    exact hf.1 j hlt

/-! ## Retrying -/

theorem keeps_resume (hs : Sound B busy held s) (hj : j < s.directory.nextId) (hji : j ≠ i) :
    Keeps j s (s.resume i) := by
  obtain ⟨-, h⟩ | ⟨s', hi, -, ha, -, h⟩ := hs.resume_cases i
  · rw [h]
    exact .refl j s
  · rw [h]
    exact ha.toTouches.keeps_retire hji (hs.socket_ne (hs.lt_nextId hi) hj hji)

/-- An endpoint to which nothing is owed does not retry. -/
theorem keeps_resume_of_deferred (hs : Sound B busy held s) (hj : j < s.directory.nextId)
    (hd : (s.endpoints.get j).deferred = 0) (i : EndpointId) : Keeps j s (s.resume i) := by
  by_cases hji : j = i
  · subst hji
    obtain ⟨-, h⟩ | ⟨-, -, hne, -⟩ := hs.resume_cases j
    · rw [h]
      exact .refl j s
    · exact absurd hd hne
  · exact keeps_resume hs hj hji

theorem keeps_foldl_resume (hs : Sound B [] held s) (hj : j < s.directory.nextId)
    {ids : List EndpointId} (hids : j ∉ ids ∨ (s.endpoints.get j).deferred = 0) :
    Keeps j s (ids.foldl resume s) := by
  induction ids generalizing s with
  | nil => exact .refl j s
  | cons i ids ih =>
    have hl := later_foldl_resume [i] hs
    have hk : Keeps j s (s.resume i) := by
      rcases hids with hn | hd
      · exact keeps_resume hs hj fun he => hn (he ▸ List.mem_cons_self)
      · exact keeps_resume_of_deferred hs hj hd i
    refine hk.trans (ih hl.sound (Nat.lt_of_lt_of_le hj hl.grows.nextId) ?_)
    exact hids.imp (fun hn hm => hn (List.mem_cons_of_mem _ hm)) fun hd => by rwa [hk.endpoint]

/-- The endpoint `j` and its socket differ by the receives `ops`, which were owed to it. -/
structure CatchesUp (j : EndpointId) (ops : List Operation) (s s' : Server) : Prop where
  link : (s.endpoints.get j).CatchesUp (s.sockets.get (s.endpoints.get j).socket) ops
    (s'.endpoints.get j) (s'.sockets.get (s.endpoints.get j).socket)
  entry : s'.directory.get? j = s.directory.get? j

theorem Keeps.catchesUp (h : Keeps j s s') : CatchesUp j [] s s' := by
  refine ⟨?_, h.entry⟩
  rw [h.endpoint, h.socket]
  exact .refl _ _

theorem Keeps.trans_catchesUp {ops : List Operation} (h : Keeps j s s')
    (h' : CatchesUp j ops s' s'') : CatchesUp j ops s s'' := by
  have hl := h'.link
  rw [h.endpoint, h.socket] at hl
  exact ⟨hl, h'.entry.trans h.entry⟩

theorem CatchesUp.socket_eq {ops : List Operation} (h : CatchesUp j ops s s') :
    (s'.endpoints.get j).socket = (s.endpoints.get j).socket := by
  rw [h.link.endpoint]
  rfl

theorem CatchesUp.trans_keeps {ops : List Operation} (h : CatchesUp j ops s s')
    (h' : Keeps j s' s'') : CatchesUp j ops s s'' := by
  have hk := h'.socket
  rw [h.socket_eq] at hk
  refine ⟨?_, h'.entry.trans h.entry⟩
  rw [h'.endpoint, hk]
  exact h.link

theorem catchesUp_resume (hs : Sound B busy held s) (hj : j < s.directory.nextId)
    (hr : ¬ (s.sockets.get (s.endpoints.get j).socket).RefusedSince
      ((s.resume j).sockets.get (s.endpoints.get j).socket)) :
    ∃ ops, CatchesUp j ops s (s.resume j) ∧
      (s.pool.limit = none → ops.length = (s.endpoints.get j).deferred) := by
  obtain ⟨hn, h⟩ | ⟨s', hi, hne, ha, hlink, h⟩ := hs.resume_cases j
  · rw [h]
    refine ⟨[], (Keeps.refl j s).catchesUp, fun _ => ?_⟩
    by_contra hne
    have hd : (s.endpoints.get j).deferred ≠ 0 := fun h0 => hne h0.symm
    exact hn ⟨hs.mem_ids_of_deferred hj hd, hd⟩
  · have hopen : (s.link j).endpoint.closing = false := hs.closing_of_deferred hj hne
    have hd : (s.link j).endpoint.destroyed = false := ((hs.mem_ids j).1 hi).2
    have he : s'.endpoints.get j = (Link.settle (s.link j).resume).2.endpoint :=
      congrArg Link.endpoint hlink
    have hk : s'.sockets.get (s.endpoints.get j).socket =
        (Link.settle (s.link j).resume).2.socket := by
      rw [← ha.socket_eq]
      exact congrArg Link.socket hlink
    rw [h] at hr ⊢
    obtain ⟨ops, hc, hall, -⟩ := Link.catchesUp_settle_resume hopen hd fun hx =>
      hr (hx.mono List.prefix_rfl (hk ▸ (grows_retire s' j).history _))
    rw [← he, ← hk] at hc
    have hopen' : (s'.endpoints.get j).closing = false := by
      rw [hc.endpoint]
      exact hopen
    rw [retire_of_open hopen']
    exact ⟨ops, ⟨hc, by rw [ha.directory]⟩, hall⟩

/-- When a list of endpoints try again, one of them catches up and nobody else touches it. -/
theorem catchesUp_foldl_resume (hs : Sound B [] held s) (hj : j < s.directory.nextId)
    {ids : List EndpointId} (hids : ids.Nodup)
    (hr : ¬ (s.sockets.get (s.endpoints.get j).socket).RefusedSince
      ((ids.foldl resume s).sockets.get (s.endpoints.get j).socket)) :
    ∃ ops, CatchesUp j ops s (ids.foldl resume s) ∧
      (s.pool.limit = none → j ∈ ids → ops.length = (s.endpoints.get j).deferred) := by
  by_cases hm : j ∈ ids
  · obtain ⟨before, after, rfl⟩ := List.append_of_mem hm
    obtain ⟨-, hafter, hbefore⟩ := List.nodup_append.1 hids
    have hj₀ : j ∉ before := fun h => hbefore j h j List.mem_cons_self rfl
    have hj₂ : j ∉ after := (List.nodup_cons.1 hafter).1
    rw [List.foldl_append, List.foldl_cons] at hr ⊢
    have hl₁ := later_foldl_resume before hs
    have hk₁ := keeps_foldl_resume hs hj (Or.inl hj₀)
    generalize before.foldl resume s = s₁ at hr hl₁ hk₁ ⊢
    have hj₁ := Nat.lt_of_lt_of_le hj hl₁.grows.nextId
    have hl₂ : Later B [] held s₁ (s₁.resume j) := later_foldl_resume [j] hl₁.sound
    have hk₂ := keeps_foldl_resume hl₂.sound (Nat.lt_of_lt_of_le hj₁ hl₂.grows.nextId)
      (Or.inl hj₂)
    have hsocket : ((s₁.resume j).endpoints.get j).socket = (s.endpoints.get j).socket := by
      rw [(hl₂.grows.endpoint j hj₁).socket, hk₁.endpoint]
    have hkeep := hk₂.socket
    rw [hsocket] at hkeep
    obtain ⟨ops, hc, hall⟩ := catchesUp_resume hl₁.sound hj₁ (by
      rwa [hk₁.endpoint, hk₁.socket, ← hkeep])
    rw [hk₁.endpoint, hl₁.grows.limit] at hall
    exact ⟨ops, (hk₁.trans_catchesUp hc).trans_keeps hk₂, fun hlimit _ => hall hlimit⟩
  · exact ⟨[], (keeps_foldl_resume hs hj (Or.inl hm)).catchesUp, fun _ h => absurd h hm⟩

theorem keeps_clearStarved (s : Server) (j : EndpointId) :
    Keeps j s { s with starved := .empty } := .of_eq rfl rfl rfl

theorem keeps_resumeStarved (hs : Sound B [] held s) (hj : j < s.directory.nextId)
    (hd : (s.endpoints.get j).deferred = 0) (order : VisitingOrder) :
    Keeps j s (s.resumeStarved order) :=
  (keeps_clearStarved s j).trans
    (keeps_foldl_resume (later_clearStarved hs).sound hj (Or.inr hd))

theorem catchesUp_resumeStarved (hs : Sound B [] held s) (hj : j < s.directory.nextId)
    (order : VisitingOrder) (hr : ¬ (s.sockets.get (s.endpoints.get j).socket).RefusedSince
      ((s.resumeStarved order).sockets.get (s.endpoints.get j).socket)) :
    ∃ ops, CatchesUp j ops s (s.resumeStarved order) ∧ (s.pool.limit = none →
      j ∈ s.starved.toList → ops.length = (s.endpoints.get j).deferred) := by
  have hn : (order.arrange s.starved.toList).Nodup :=
    (order.arrange_perm _).nodup_iff.2 s.starved.nodup_toList
  obtain ⟨ops, hc, hall⟩ := catchesUp_foldl_resume (later_clearStarved hs).sound hj hn hr
  exact ⟨ops, (keeps_clearStarved s j).trans_catchesUp hc,
    fun hl hm => hall hl (VisitingOrder.mem_arrange.2 hm)⟩

/-! ## Completions -/

theorem keeps_openStream {a : Accepted} (hdown : s.shuttingDown = false)
    (hj : j < s.directory.nextId) (hf : Fresh s a.socket) (data : List UInt8) :
    Keeps j s (s.openStream a data).2 := by
  have hji : j ≠ s.directory.nextId := Nat.ne_of_lt hj
  have ha := (adds_registered s .stream a.peer.family (some a.peer) a.socket).trans
    (acts_welcome s a data).toTouches
  have hk := ha.keeps hji (hf.1 j hj)
  rw [openStream_eq hdown]
  refine hk.trans (keeps_retire hji ?_)
  rw [hk.endpoint]
  exact fun he => hf.1 j hj (he.trans ha.link.socket)

/-- Whatever the completion of an operation of endpoint `i` comes to, it keeps the others. -/
theorem Handles.keeps_retire (h : Handles s i c s') (hi : i < s.directory.nextId)
    (hj : j < s.directory.nextId) (hji : j ≠ i)
    (hne : (s.endpoints.get j).socket ≠ (s.endpoints.get i).socket)
    (hf : ∀ a, c.delivered? = some a → Fresh s a.socket) : Keeps j s (s'.retire i).2 := by
  cases h with
  | acts ha => exact ha.toTouches.keeps_retire hji hne
  | @turnsAway a ha hc =>
    have hclose := keeps_modifySocket ((hf a ha).1 j hj) .close
    have hrelease : Keeps j (s.modifySocket a.socket .close)
        ((s.modifySocket a.socket .close).release c.operation) := .of_eq rfl rfl rfl
    exact (hclose.trans hrelease).trans (Server.keeps_retire hji hne)
  | @opens a meter ha ho =>
    have hdown : s.shuttingDown = false := Bool.eq_false_iff.2 fun hx => ho (Or.inr hx)
    have hmeter {x : EndpointId} : Keeps x s { s with meter } := .of_eq rfl rfl rfl
    have hopen {x : EndpointId} (hx : x < s.directory.nextId) :
        Keeps x s (openStream { s with meter } a c.operation.payload).2 :=
      hmeter.trans (keeps_openStream (s := { s with meter }) hdown hx (hf a ha) _)
    have ht := touches_modifyLink (s := (openStream { s with meter } a c.operation.payload).2)
      (i := i) (f := fun l => (l.postAccept c.operation).2) (Link.spares_postAccept _ _).toGrows
    refine (hopen hj).trans (ht.keeps_retire hji ?_)
    rwa [(hopen hj).endpoint, (hopen hi).endpoint]

theorem Arrives.keeps_complete (h : Arrives B B' s socket i op k' c) (hs : Sound B [] held s)
    (hj : j < s.directory.nextId) (hji : j ≠ i)
    (hf : ∀ a, c.delivered? = some a → Fresh s a.socket) :
    Keeps j s ((s.modifySocket socket fun _ => k').complete i c) := by
  have hi := hs.lt_nextId h.registered
  have hne := hs.socket_ne hi hj hji
  have hk := h.touches.keeps hji hne
  obtain ⟨s', hh, hs'⟩ := h.handles hs
  rw [hs']
  refine hk.trans (hh.keeps_retire (h.lt_nextId hs) (h.touches.directory ▸ hj) hji ?_ fun a ha =>
    (hf a ha).of_touches h.touches hi)
  rwa [hk.endpoint, h.touches.socket_eq]

end Server

end OrderedEcho
