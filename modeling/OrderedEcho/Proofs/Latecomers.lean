import OrderedEcho.Proofs.Server.Shutdown

/-!
# Endpoints that come after a shutdown

A shutdown closes the endpoints that are registered then, and whoever connects later is turned away.
But nothing looks at a socket that is handed to the server later, so an endpoint which is not closing
was added after the shutdown (`Run.closing_or_added`), and there are such endpoints
(`added_after_shutdown`).
-/

namespace OrderedEcho

/-- The endpoint for which the event hands a socket to the server. -/
def ServerEvent.adds? : ServerEvent → Option (EndpointKind × AddressFamily × SocketId)
  | .listen socket family => some (.listener, family, socket)
  | .bind socket family => some (.datagram, family, socket)
  | .complete .. | .shutdown _ | .refuse .. => none

namespace Server

variable {s₀ s s' : Server} {evs evs' : List ServerEvent} {info : EndpointInfo} {socket : SocketId}
  {post : Link → PostResult × Link} {x : Except PostError EndpointId × Server} {j : EndpointId}
  {settings : Settings} {now : Int} {order : VisitingOrder}

/-- One of the events added the endpoint. -/
def AddedIn (evs : List ServerEvent) (e : Endpoint) : Prop :=
  ∃ ev ∈ evs, ev.adds? = some (e.kind, e.family, e.socket)

theorem AddedIn.append {e : Endpoint} (h : AddedIn evs e) (evs' : List ServerEvent) :
    AddedIn (evs ++ evs') e := by
  obtain ⟨ev, hm, he⟩ := h
  exact ⟨ev, List.mem_append_left _ hm, he⟩

theorem AddedIn.grows {e e' : Endpoint} (h : AddedIn evs e) (hg : e.Grows e') : AddedIn evs e' := by
  have hk : e'.kind = e.kind := congrArg EndpointInfo.kind hg.info
  have hf : e'.family = e.family := congrArg EndpointInfo.family hg.info
  unfold AddedIn
  rw [hk, hf, hg.socket]
  exact h

/-! ## New endpoints -/

theorem Joins.grows_new (hj : Joins s info socket post x) :
    (Endpoint.ofInfo info socket).Grows (x.2.endpoints.get info.id) := by
  cases hj with
  | joined ha => exact ha.link.endpoint
  | @failed s' e ha =>
    refine (ha.link.endpoint).trans ?_
    exact lift_retire .refl (fun _ => ⟨rfl, rfl, id, id, fun _ => rfl⟩) s' info.id info.id

theorem shuttingDown_addEndpoint (s : Server) (kind : EndpointKind) (family : AddressFamily)
    (socket : SocketId) (post : Link → PostResult × Link) :
    (s.addEndpoint kind family socket post).2.shuttingDown = s.shuttingDown := by
  unfold addEndpoint
  rw [register_eq]
  dsimp only
  split
  · rfl
  · exact shuttingDown_retire _ _

/-! ## Runs after a shutdown -/

/-- The server is shut down, and an endpoint is closing unless it is one of those that the events
added. -/
structure Barred (evs : List ServerEvent) (s : Server) : Prop where
  shuttingDown : s.shuttingDown
  closing : ∀ j < s.directory.nextId, (s.endpoints.get j).closing ∨ AddedIn evs (s.endpoints.get j)

theorem Barred.drains (h : Barred evs s) (hd : Drains s s') (evs' : List ServerEvent) :
    Barred (evs ++ evs') s' := by
  refine ⟨hd.shuttingDown h.shuttingDown, fun j hj => ?_⟩
  have hj : j < s.directory.nextId := hd.nextId_eq ▸ hj
  have hg := hd.endpoint j hj
  exact (h.closing j hj).imp hg.closing fun ha => (ha.grows hg).append evs'

theorem Barred.joins (h : Barred evs s) (hj : Joins s info socket post x)
    (hid : info.id = s.directory.nextId) (hd : x.2.shuttingDown = s.shuttingDown)
    {ev : ServerEvent} (hev : ev.adds? = some (info.kind, info.family, socket)) :
    Barred (evs ++ [ev]) x.2 := by
  refine ⟨hd.trans h.shuttingDown, fun j hlt => ?_⟩
  rw [hj.nextId] at hlt
  rcases Nat.lt_succ_iff_lt_or_eq.1 hlt with hold | hnew
  · rw [hj.endpoint_of_ne (hid ▸ Nat.ne_of_lt hold)]
    exact (h.closing j hold).imp_right (·.append [ev])
  · obtain rfl := hnew.trans hid.symm
    have hadded : AddedIn (evs ++ [ev]) (.ofInfo info socket) :=
      ⟨ev, List.mem_append_right _ List.mem_cons_self, hev⟩
    exact Or.inr (hadded.grows hj.grows_new)

theorem Run.barred (h0 : Server.ofSettings settings now = .ok s₀) (h : Run s₀ evs s)
    (h' : Run (s.shutdown order) evs' s') : Barred evs' s' := by
  have hdown := down_shutdown (h.sound h0) order
  have h₁ : Run s₀ (evs ++ [.shutdown order]) (s.shutdown order) := h.snoc (.shutdown order) trivial
  induction h' with
  | start =>
    exact ⟨hdown.shuttingDown, fun j hj => Or.inl (hdown.closing (h₁.sound h0) hj)⟩
  | @snoc evs' s' ev hr hev ih =>
    have hr' := h₁.trans hr
    have hdrains (hn : ∀ k family, ev ≠ .listen k family ∧ ev ≠ .bind k family) :=
      ih.drains (hr'.drains_step (hr'.sound h0) hev ih.shuttingDown hn) [ev]
    cases ev with
    | listen socket family =>
      exact ih.joins (joins_addListener s' socket family) rfl
        (shuttingDown_addEndpoint s' _ _ _ _) rfl
    | bind socket family =>
      exact ih.joins (joins_addDatagram s' socket family) rfl
        (shuttingDown_addEndpoint s' _ _ _ _) rfl
    | complete | shutdown | refuse => exact hdrains fun _ _ => ⟨nofun, nofun⟩

/-- After a shutdown, a registered endpoint is closing, unless its socket was handed to the server
after the shutdown. -/
theorem Run.closing_or_added (h0 : Server.ofSettings settings now = .ok s₀) (h : Run s₀ evs s)
    (h' : Run (s.shutdown order) evs' s') : ∀ id ∈ s'.directory.ids,
    (s'.endpoints.get id).closing ∨ ∃ ev ∈ evs', ev.adds? =
      some ((s'.endpoints.get id).kind, (s'.endpoints.get id).family, (s'.endpoints.get id).socket) := by
  intro id hid
  have hr := (h.snoc (.shutdown order) trivial).trans h'
  exact (h.barred h0 h').closing id ((hr.sound h0).lt_nextId hid)

/-- The stream of the visit is closing after the shutdown, also when a listener comes after it. -/
theorem closing_or_added_visit :
    ((((afterVisit 2).shutdown .reversed).step (.listen 2 .v4)).endpoints.get 1).closing := by
  have hf : Fresh ((afterVisit 2).shutdown .reversed) 2 := ⟨by decide, rfl⟩
  have hr : Run ((afterVisit 2).shutdown .reversed) [.listen 2 .v4] _ := .snoc _ .start hf
  have hid : 1 ∈ (((afterVisit 2).shutdown .reversed).step (.listen 2 .v4)).directory.ids :=
    Directory.contains_iff.1 rfl
  refine (Run.closing_or_added ofSettings_visited (run_visit 2) hr 1 hid).resolve_right ?_
  rintro ⟨ev, hm, he⟩
  obtain rfl := List.mem_singleton.1 hm
  cases he

/-- Not everything is closing after a shutdown: a listener that is added then goes on listening. -/
theorem added_after_shutdown : ¬ ∀ (settings : Settings) (now : Int) (s₀ s s' : Server)
    (evs evs' : List ServerEvent) (order : VisitingOrder),
    Server.ofSettings settings now = .ok s₀ → Run s₀ evs s → Run (s.shutdown order) evs' s' →
    ∀ id ∈ s'.directory.ids, (s'.endpoints.get id).closing := by
  intro h
  have hf : Fresh (visited.shutdown .listed) 0 := ⟨nofun, rfl⟩
  have hid : 0 ∈ ((visited.shutdown .listed).step (.listen 0 .v4)).directory.ids :=
    Directory.contains_iff.1 rfl
  have hc := h _ _ _ _ _ [] [.listen 0 .v4] .listed ofSettings_visited .start
    (.snoc _ .start hf) 0 hid
  exact absurd hc (by decide)

end Server

end OrderedEcho
