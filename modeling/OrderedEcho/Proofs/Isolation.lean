import OrderedEcho.Proofs.VisitingOrder

/-!
# Connections do not disturb each other

Endpoints share the pool, the directory and the list of those that are starved.  Still a completion
changes nothing about any other endpoint than its own, except that one to which receives are owed may
catch up on some of them (`Run.isolation`).  This holds whatever the completion was, and whatever the
socket of its endpoint refused on the way.
-/

namespace OrderedEcho

namespace Server

variable {s₀ s : Server} {evs : List ServerEvent} {a b : EndpointId} {socket : SocketId} {i : Nat}
  {c : Completion} {order : VisitingOrder} {settings : Settings} {now : Int}

/-- When an operation of endpoint `a` completes, any other endpoint keeps its state, its socket and
its registration if no receives are owed to it.  If some are, it catches up on as many of them as it
may, and changes in no other way unless its own socket refuses one. -/
theorem Run.isolation (h0 : Server.ofSettings settings now = .ok s₀) (h : Run s₀ evs s)
    (hp : s.Possible (.complete socket i c order)) (ha : c.operation.endpoint = some a)
    (hb : b < s.directory.nextId) (hne : b ≠ a) :
    let s' := s.step (.complete socket i c order)
    let e := s.endpoints.get b
    (e.deferred = 0 → Keeps b s s') ∧
    (¬ (s.sockets.get e.socket).RefusedSince (s'.sockets.get e.socket) →
      ∃ ops, CatchesUp b ops s s') := by
  intro s' e
  have hs := h.sound h0
  obtain ⟨⟨op, k', ht, hret⟩, hf⟩ := hp
  obtain ⟨id, harr⟩ := hs.arrives h ht hret order
  obtain rfl : a = id :=
    Option.some.inj (ha.symm.trans (hret.endpoint.trans harr.runs.endpoint))
  have hs' : s' = ((s.modifySocket socket fun _ => k').complete a c).resumeStarved order :=
    (step_complete ht).trans (harr.handle_eq order)
  have hl := (handled_complete harr hs (harr.informs h hs hf)).toLater
  have hk := harr.keeps_complete hs hb hne hf
  have hb' := Nat.lt_of_lt_of_le hb hl.grows.nextId
  rw [hs']
  constructor
  · intro hd
    exact hk.trans (keeps_resumeStarved hl.sound hb' (hk.endpoint ▸ hd) order)
  · intro hr
    obtain ⟨ops, hc, -⟩ := catchesUp_resumeStarved hl.sound hb' order
      (by rwa [hk.endpoint, hk.socket])
    exact ⟨ops, hk.trans_catchesUp hc⟩

/-- Of the two streams in the crowd, the second one comes first when an accept has failed.  It gets
its receive, and the first one gets none. -/
theorem isolation_crowded :
    let s := crowded.step (.complete 0 0 failedAccept .reversed)
    (∃ ops, CatchesUp 2 ops crowded s ∧ ops.length = 1) ∧ CatchesUp 1 [] crowded s := by
  intro s
  have hcatch (b : EndpointId) (hb : b < 3) (hne : b ≠ 0) :=
    (Run.isolation ofSettings_scarce run_crowded (possible_failedAccept .reversed) rfl hb hne).2
  obtain ⟨ops, hc⟩ := hcatch 2 (by decide) (by decide) (Socket.not_refusedSince rfl)
  obtain ⟨ops', hc'⟩ := hcatch 1 (by decide) (by decide) (Socket.not_refusedSince rfl)
  have hle : ops.length ≤ 1 := hc.link.le
  have hle' : ops'.length ≤ 1 := hc'.link.le
  have hrest : 0 = 1 - ops.length := congrArg Endpoint.deferred hc.link.endpoint
  have hrest' : 1 = 1 - ops'.length := congrArg Endpoint.deferred hc'.link.endpoint
  obtain rfl : ops' = [] := List.eq_nil_of_length_eq_zero (by omega)
  exact ⟨⟨ops, hc, by omega⟩, hc'⟩

end Server

end OrderedEcho
