import OrderedEcho.Proofs.Server.Run

/-!
# Completions find their endpoints

An operation in flight says to which endpoint it belongs, and that endpoint is registered; its id
stands for it and for nothing else as long as the server runs.  So a completion is always handled by
the endpoint that posted the operation (`Run.completions_dispatched`), and what the server has for
completions that belong nowhere, for receives without a slot and for entries that do not fit is
never used.
-/

namespace OrderedEcho

namespace Server

variable {s₀ s s' : Server} {evs evs' : List ServerEvent} {B : Book} {busy : List EndpointId}
  {held : Nat} {id : EndpointId} {k : SocketId} {i : Nat} {c : Completion} {op : Operation}
  {socket : Socket} {settings : Settings} {now : Int}

/-- The completion of an operation in flight finds an endpoint that has something in flight. -/
theorem Sound.dispatched (h : Sound B busy held s)
    (ht : (s.sockets.get k).take? c.operation.kind i = some (op, socket))
    (hret : op.ReturnsAs c.operation) :
    ∃ id, c.operation.endpoint.filter s.directory.contains = some id ∧
      (s.endpoints.get id).socket = k ∧ 0 < (s.endpoints.get id).outstanding ∧
      (c.operation.kind = .receive → c.operation.slot.isSome) := by
  have hop := (Socket.gaveBack_of_take? ht).op_mem_lane
  obtain ⟨id, hid, rfl, hruns⟩ := h.owner hop
  refine ⟨id, ?_, rfl, h.outstanding_pos (h.lt_nextId hid) hop, ?_⟩
  · rw [hret.endpoint, hruns.endpoint]
    exact Option.filter_eq_some_iff.2 ⟨rfl, Directory.contains_iff.2 hid⟩
  · intro hk
    rw [hret.slot]
    exact hruns.slot hk

/-- An endpoint that was once destroyed is never registered again. -/
theorem Grows.notMem_ids (hg : Grows s s') (h : Sound B busy held s) {B' : Book}
    {busy' : List EndpointId} {held' : Nat} (h' : Sound B' busy' held' s')
    (hid : id < s.directory.nextId) (hn : id ∉ s.directory.ids) : id ∉ s'.directory.ids := by
  intro hm
  have hd := (hg.endpoint id hid).destroyed (h.destroyed_of_notMem hid hn)
  exact absurd (((h'.mem_ids id).1 hm).2.symm.trans hd) (by decide)

/-- Every operation in flight names the endpoint on whose socket it is, which is registered, and its
own kind; a receive has a slot.  An id that was handed out stands for the same endpoint ever after,
and for none any more once that was destroyed.  So the completion of any operation in flight finds
its endpoint, which counts the operation, and no resequencer ever handed an entry back. -/
theorem Run.completions_dispatched (h0 : Server.ofSettings settings now = .ok s₀)
    (h : Run s₀ evs s) :
    (∀ k kind, ∀ op ∈ ((s.sockets.get k).lane kind).inFlight,
      ∃ id ∈ s.directory.ids, (s.endpoints.get id).socket = k ∧ op.endpoint = some id ∧
        op.kind = kind ∧ (kind = .receive → op.slot.isSome)) ∧
    (∀ evs' s', Run s evs' s' → ∀ id < s.directory.nextId,
      id < s'.directory.nextId ∧
      (s'.endpoints.get id).toEndpointInfo = (s.endpoints.get id).toEndpointInfo ∧
      (s'.endpoints.get id).socket = (s.endpoints.get id).socket ∧
      (id ∉ s.directory.ids → id ∉ s'.directory.ids)) ∧
    (∀ k i (c : Completion) op socket,
      (s.sockets.get k).take? c.operation.kind i = some (op, socket) → op.ReturnsAs c.operation →
      ∃ id, c.operation.endpoint.filter s.directory.contains = some id ∧
        (s.endpoints.get id).socket = k ∧ 0 < (s.endpoints.get id).outstanding ∧
        (c.operation.kind = .receive → c.operation.slot.isSome)) ∧
    ∀ id < s.directory.nextId, (s.endpoints.get id).id = id ∧ (s.endpoints.get id).rejected = 0 := by
  have hs := h.sound h0
  refine ⟨?_, ?_, ?_, ?_⟩
  · intro k kind op hop
    obtain ⟨id, hid, hk, hruns⟩ := hs.owner hop
    exact ⟨id, hid, hk, hruns.endpoint, hruns.kind, hruns.slot⟩
  · intro evs' s' h' id hid
    have hg := h.grows h0 h'
    have he := hg.endpoint id hid
    have hs' := (h.trans h').sound h0
    exact ⟨Nat.lt_of_lt_of_le hid hg.nextId, he.info, he.socket, hg.notMem_ids hs hs' hid⟩
  · intro k i c op socket ht hret
    exact hs.dispatched ht hret
  · intro id hid
    exact ⟨hs.id_eq id hid, (hs.endpoint hid).fitting⟩

/-- During the visit, the end of the stream is reported to the stream. -/
theorem completions_dispatched_visit :
    let c : Completion := {
      operation := {
        kind := .receive, endpoint := some 1, buffer := ⟨[], 4096⟩, capacity := 4096,
        slot := some 1 }
      result := .ok 0 }
    ∃ id, c.operation.endpoint.filter (afterVisit 2).directory.contains = some id ∧
      ((afterVisit 2).endpoints.get id).socket = 1 ∧
      0 < ((afterVisit 2).endpoints.get id).outstanding := by
  intro c
  obtain ⟨-, -, hfind, -⟩ := Run.completions_dispatched ofSettings_visited (run_visit 2)
  obtain ⟨id, hid, hk, hpos, -⟩ := hfind 1 0 c _ _ rfl ⟨rfl, rfl, rfl⟩
  exact ⟨id, hid, hk, hpos⟩

end Server

end OrderedEcho
