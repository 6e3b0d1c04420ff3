import OrderedEcho.Proofs.Server.Provision

/-!
# How many receives endpoints have

A receive of an endpoint is in flight, or it is owed to the endpoint.  A datagram endpoint has as
many of them as the settings say, and it is never closed before the server is shut down
(`Run.datagram_fanOut`).  A stream has as many as it was given when it was accepted
(`Run.stream_fanOut`): if the pool was nearly exhausted then, it was given fewer, and it never gets
the others (`stream_fanOut_scarce`).
-/

namespace OrderedEcho

theorem Pool.share_le (p : Pool) (n : Nat) : p.share n ≤ n := by
  unfold share
  split
  · exact Nat.le_refl n
  · exact Nat.min_le_left n _

theorem Pool.share_pos (p : Pool) {n : Nat} (h : 0 < n) : 0 < p.share n := by
  unfold share
  split
  · exact h
  · omega

namespace Server

variable {s₀ s s' : Server} {evs evs' : List ServerEvent} {id : EndpointId} {settings : Settings}
  {now : Int} {socket : SocketId} {family : AddressFamily}

/-! ## Streams -/

/-- A stream has as many receives as it was given when it was accepted, which is what was left in
the pool then.  Without a limit, that is its fan-out. -/
theorem Run.stream_fanOut (h0 : Server.ofSettings settings now = .ok s₀) (h : Run s₀ evs s)
    (hid : id ∈ s.directory.ids) (hk : (s.endpoints.get id).kind = .stream)
    (hc : (s.endpoints.get id).closing = false) :
    let e := s.endpoints.get id
    let receives := ((s.sockets.get e.socket).lane .receive).inFlight.length + e.deferred
    Once s₀ evs (fun s₁ ev =>
      ev.brings? = some e.socket ∧ receives = s₁.pool.share settings.fanOut) ∧
    receives ≤ settings.fanOut ∧ (settings.limit = none → receives = settings.fanOut) := by
  intro e receives
  have hF : Entitled s₀ evs e.toEndpointInfo e.socket receives :=
    (h.provided h0).1.fanOut id ((h.sound h0).lt_nextId hid) hc
  have hset : s₀.settings = settings := (provided_ofSettings h0).2
  unfold Entitled at hF
  rw [hk, hset] at hF
  refine ⟨hF, ?_⟩
  obtain ⟨before, s₁, ev, after, -, hr, -, hshare⟩ := hF
  refine ⟨hshare ▸ Pool.share_le _ _, fun hlim => ?_⟩
  have hlim₁ : s₁.pool.limit = none :=
    ((Run.start.grows h0 hr).limit.trans (eq_of_ofSettings h0).2.2.2).trans hlim
  rw [hshare]
  exact Pool.share_of_unlimited hlim₁ _

/-- A server for streams whose pool has three operations only. -/
def scarce : Server where
  settings := { protocol := .tcp, fanOut := 2, workers := 1, limit := some 3 }
  pool := { bufferSize := 4096, cacheSize := 1024, limit := some 3 }
  endpoints := { blank := .absent }
  meter := .startingAt 0

theorem ofSettings_scarce : Server.ofSettings
    { protocol := .tcp, fanOut := 2, workers := 1, limit := some 3 } 0 = .ok scarce := rfl

/-- The server when the client of the visit has come. -/
def afterArrival : Server := (visit.take 2).foldl step scarce

theorem run_arrival : Run scarce (visit.take 2) afterArrival := by
  have h1 : Run scarce (visit.take 1) ((visit.take 1).foldl step scarce) := .snoc _ .start ⟨nofun, rfl⟩
  refine .snoc _ h1 ⟨⟨_, _, rfl, ⟨rfl, rfl, rfl⟩⟩, fun a ha => ?_⟩
  obtain rfl := Option.some.inj ha
  exact ⟨by decide, rfl⟩

theorem mem_ids_arrival : 1 ∈ afterArrival.directory.ids := Directory.contains_iff.1 rfl

/-- Two of the three operations are with the listener, and the echo takes the third.  The stream is
owed the receive that was tried, but not the other. -/
theorem stream_fanOut_arrival : (afterArrival.endpoints.get 1).deferred = 1 ∧
    Once scarce (visit.take 2) fun s₁ ev => ev.brings? = some 1 ∧ 1 = s₁.pool.share 2 :=
  ⟨rfl, (Run.stream_fanOut ofSettings_scarce run_arrival mem_ids_arrival rfl rfl).1⟩

/-- Not every stream has its fan-out. -/
theorem stream_fanOut_scarce : ¬ ∀ (settings : Settings) (now : Int) (s₀ s : Server)
    (evs : List ServerEvent) (id : EndpointId), Server.ofSettings settings now = .ok s₀ →
    Run s₀ evs s → id ∈ s.directory.ids → (s.endpoints.get id).kind = .stream →
    (s.endpoints.get id).closing = false →
    ((s.sockets.get (s.endpoints.get id).socket).lane .receive).inFlight.length +
      (s.endpoints.get id).deferred = settings.fanOut := by
  intro h
  have hone := h _ _ _ _ _ _ ofSettings_scarce run_arrival mem_ids_arrival rfl rfl
  exact absurd hone (by decide)

/-! ## Datagram endpoints -/

theorem addDatagram_of_ok (h : (s.addDatagram socket family).1 = .ok id) :
    let e := (s.addDatagram socket family).2.endpoints.get id
    id < (s.addDatagram socket family).2.directory.nextId ∧ e.kind = .datagram ∧
      e.socket = socket ∧ e.closing = false := by
  have hj := joins_addDatagram s socket family
  generalize s.addDatagram socket family = x at h hj
  cases hj with
  | joined ha hl =>
    obtain rfl := Except.ok.inj h
    refine ⟨?_, ha.link.kind, ha.link.socket, ?_⟩
    · rw [ha.nextId]
      exact Nat.lt_succ_self _
    · exact Link.closing_postMany (fun _ => Link.closing_postNewReceive) hl
  | failed => cases h

/-- A datagram endpoint keeps its fan-out as long as it is open.  If it could be added, it stays
open until the server is shut down. -/
theorem Run.datagram_fanOut (h0 : Server.ofSettings settings now = .ok s₀) (h : Run s₀ evs s) :
    (∀ id ∈ s.directory.ids, (s.endpoints.get id).kind = .datagram →
      (s.endpoints.get id).closing = false →
      ((s.sockets.get (s.endpoints.get id).socket).lane .receive).inFlight.length +
        (s.endpoints.get id).deferred = settings.fanOut) ∧
    (∀ socket family id evs' s', Fresh s socket → (s.addDatagram socket family).1 = .ok id →
      Run (s.step (.bind socket family)) evs' s' → (∀ order, .shutdown order ∉ evs') →
      id ∈ s'.directory.ids ∧ (s'.endpoints.get id).kind = .datagram ∧
        (s'.endpoints.get id).socket = socket ∧ (s'.endpoints.get id).closing = false) := by
  refine ⟨fun id hid hk hc => ?_, fun socket family id evs' s' hf hok hr' hn => ?_⟩
  · have hF : Entitled s₀ evs (s.endpoints.get id).toEndpointInfo (s.endpoints.get id).socket
        (((s.sockets.get (s.endpoints.get id).socket).lane .receive).inFlight.length +
          (s.endpoints.get id).deferred) :=
      (h.provided h0).1.fanOut id ((h.sound h0).lt_nextId hid) hc
    unfold Entitled at hF
    rw [hk] at hF
    exact hF.trans (congrArg Settings.fanOut (provided_ofSettings h0).2)
  · obtain ⟨hid, hk, hsock, hc⟩ := addDatagram_of_ok hok
    have hbind := h.snoc (.bind socket family) hf
    have hlast := hbind.lasts h0 hr' hn
    have hs' := (hbind.trans hr').sound h0
    have hlt := Nat.lt_of_lt_of_le hid hlast.nextId
    have hg := hlast.endpoint id hid
    have hopen := (hlast.datagram id hid hk).trans hc
    refine ⟨(hs'.mem_ids id).2 ⟨hlt, Bool.eq_false_iff.2 fun hd => ?_⟩,
      (congrArg EndpointInfo.kind hg.info).trans hk, hg.socket.trans hsock, hopen⟩
    exact absurd (hopen.symm.trans ((hs'.endpoint hlt).lifecycle.closing_of_destroyed hd))
      (by decide)

/-- A server for datagrams that posts two receives at a time. -/
def mirroring : Server where
  settings := { protocol := .udp, fanOut := 2, workers := 1 }
  pool := { bufferSize := 4096, cacheSize := 1024 }
  endpoints := { blank := .absent }
  meter := .startingAt 0

theorem ofSettings_mirroring :
    Server.ofSettings { protocol := .udp, fanOut := 2, workers := 1 } 0 = .ok mirroring := rfl

/-- The first receive of a datagram endpoint fails. -/
def setback : ServerEvent := .complete 0 0 {
  operation := {
    kind := .receive, endpoint := some 0, buffer := ⟨[], 4096⟩, capacity := 4096, slot := some 0 }
  result := .error ⟨.connectionRefused, "port unreachable"⟩ } .listed

/-- A failed receive neither closes a datagram endpoint nor costs it a receive. -/
theorem datagram_fanOut_setback :
    let s := (mirroring.step (.bind 0 .v4)).step setback
    0 ∈ s.directory.ids ∧ (s.endpoints.get 0).closing = false ∧
      (s.sockets.get 0).receives.inFlight.length + (s.endpoints.get 0).deferred = 2 := by
  have hf : Fresh mirroring 0 := ⟨nofun, rfl⟩
  have hp : (mirroring.step (.bind 0 .v4)).Possible setback :=
    ⟨⟨_, _, rfl, ⟨rfl, rfl, rfl⟩⟩, nofun⟩
  have hbind : Run mirroring [.bind 0 .v4] (mirroring.step (.bind 0 .v4)) := .snoc _ .start hf
  obtain ⟨hids, hk, -, hc⟩ := (Run.datagram_fanOut ofSettings_mirroring .start).2 0 .v4 0 [setback] _
    hf rfl (.snoc _ .start hp) (by simp [setback])
  exact ⟨hids, hc, (Run.datagram_fanOut ofSettings_mirroring (hbind.snoc _ hp)).1 0 hids hk hc⟩

end Server

end OrderedEcho
