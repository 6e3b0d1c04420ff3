import OrderedEcho.Proofs.OperationAccount
import OrderedEcho.Proofs.Server.Accepts
import OrderedEcho.Proofs.Wakeup

/-!
# What an exhausted pool is used for

An accept that completes is posted again and keeps its operation.  So receives that are owed get an
operation only when a receive or a send completes, and there must be one in flight.  Between
completions every operation of the pool is an accept in flight or belongs to the `work` of a link,
which ends with a receive or a send that is in flight now.  Hence nothing can come back exactly if
accepts hold the whole pool (`Run.work_unless_accepts`).  A limit above the fan-outs of all listeners
rules that out, but a smaller one does not (`work_cramped`).
-/

namespace OrderedEcho

theorem sum_map_le_mul_countP {α : Type} {f : α → Nat} {p : α → Bool} {n : Nat} {l : List α}
    (h : ∀ a ∈ l, f a ≤ if p a then n else 0) : (l.map f).sum ≤ n * l.countP p := by
  induction l with
  | nil => exact Nat.le_refl _
  | cons a l ih =>
    have ha := h a List.mem_cons_self
    have hl := ih fun b hb => h b (List.mem_cons_of_mem a hb)
    rw [List.map_cons, List.sum_cons, List.countP_cons, Nat.mul_add]
    by_cases hp : p a
    · rw [if_pos hp] at ha ⊢
      omega
    · rw [if_neg hp] at ha ⊢
      omega

namespace Link

variable {L : Ledger} {e : Endpoint} {k : Socket} {p : Pool}

/-- The operations of a link that are not used for accepts. -/
def work (l : Link) : Nat :=
  (l.socket.lane .receive).inFlight.length + (l.socket.lane .send).inFlight.length +
    l.endpoint.resequencer.pending.length

theorem load_eq_accepts_add_work (l : Link) :
    l.load = (l.socket.lane .accept).inFlight.length + l.work := by
  unfold load work
  rw [Socket.length_inFlight]
  omega

/-- What waits to be sent waits for a receive that is in flight. -/
theorem Sound.work_pos_iff (h : Sound L e k [] false) :
    0 < work ⟨e, k, p⟩ ↔
      0 < (k.lane .receive).inFlight.length + (k.lane .send).inFlight.length := by
  unfold work
  dsimp only
  constructor
  · intro hw
    by_contra h0
    have hnone : (k.lane .receive).inFlight = [] := List.eq_nil_of_length_eq_zero (by omega)
    have hr : k.receiving = [] := by
      unfold Socket.receiving
      rw [hnone, List.filterMap_nil]
    have hp : e.resequencer.pending.length = 0 :=
      congrArg List.length (Resequencer.pending_eq_nil (h.isIdle_of_receiving hr))
    omega
  · intro hf
    omega

end Link

namespace Server

variable {B : Book} {busy : List EndpointId} {held n : Nat} {r : EndpointId → Nat} {s₀ s : Server}
  {evs : List ServerEvent} {id : EndpointId} {settings : Settings} {now : Int}

/-- The number of accepts in flight. -/
def acceptsInFlight (s : Server) : Nat :=
  (s.directory.ids.map fun j =>
    ((s.sockets.get (s.endpoints.get j).socket).lane .accept).inFlight.length).sum

/-- The number of registered listeners. -/
def listeners (s : Server) : Nat :=
  s.directory.ids.countP fun j => (s.endpoints.get j).kind = .listener

theorem Sound.outstanding_eq_accepts_add_work (h : Sound B busy 0 s) :
    s.pool.outstanding =
      s.acceptsInFlight + (s.directory.ids.map fun j => (s.link j).work).sum := by
  have hload : s.load = (s.directory.ids.map fun j => (s.link j).load).sum :=
    h.sum_ids fun _ hi hn => h.load_link_eq_zero hi hn
  rw [h.funds.outstanding, Nat.add_zero, hload]
  simp only [Link.load_eq_accepts_add_work]
  exact List.sum_map_add

/-- A listener has at most as many accepts as it was given, and nothing else has accepts. -/
theorem Accepting.acceptsInFlight_le (h : Accepting n r s) (hs : Sound B busy held s) :
    s.acceptsInFlight ≤ n * s.listeners := by
  refine sum_map_le_mul_countP fun j hj => ?_
  have hl := h.links j (hs.lt_nextId hj)
  have hle : ((s.sockets.get (s.endpoints.get j).socket).lane .accept).inFlight.length ≤
      (s.link j).socket.accepting := Nat.le_add_right _ _
  split
  · next hk =>
    have := hl.le (of_decide_eq_true hk)
    omega
  · next hk =>
    have := hl.zero fun he => hk (decide_eq_true he)
    omega

/-- Listeners have no more accepts in flight than they were given. -/
theorem Run.acceptsInFlight_le (h0 : Server.ofSettings settings now = .ok s₀) (h : Run s₀ evs s) :
    s.acceptsInFlight ≤ settings.fanOut * s.listeners :=
  (h.accepting h0).acceptsInFlight_le (h.sound h0)

/-- Suppose that no socket refused a post while it was open.  Receives are owed only while all
operations are in use, so those that are not in an accept are at work. -/
theorem Run.exists_work_iff (h0 : Server.ofSettings settings now = .ok s₀) (h : Run s₀ evs s)
    (hw : ∀ k, (s.sockets.get k).Willing) (hid : id ∈ s.directory.ids)
    (hd : 0 < (s.endpoints.get id).deferred) :
    (∃ j ∈ s.directory.ids,
        let k := s.sockets.get (s.endpoints.get j).socket
        0 < (k.lane .receive).inFlight.length + (k.lane .send).inFlight.length) ↔
      settings.limit ≠ some s.acceptsInFlight := by
  have hs := h.sound h0
  have hsum := hs.outstanding_eq_accepts_add_work
  have hwork : (∃ j ∈ s.directory.ids, 0 < (s.link j).work) ↔
      (s.directory.ids.map fun j => (s.link j).work).sum ≠ 0 := by
    simp [List.sum_eq_zero_iff, Nat.pos_iff_ne_zero]
  rw [h.limit_eq_outstanding h0 hw (hs.lt_nextId hid) hd]
  calc (∃ j ∈ s.directory.ids, _) ↔ ∃ j ∈ s.directory.ids, 0 < (s.link j).work :=
        exists_congr fun j => and_congr_right fun hj =>
          (hs.endpoint (hs.lt_nextId hj)).work_pos_iff.symm
    _ ↔ (s.directory.ids.map fun j => (s.link j).work).sum ≠ 0 := hwork
    _ ↔ some s.pool.outstanding ≠ some s.acceptsInFlight := by
        rw [Ne, Ne, Option.some_inj]
        omega

/-- Accepts in flight are never more than the listeners may have.  Suppose that moreover no socket
refused a post while it was open: while receives are owed to some endpoint, a receive or a send is
in flight, unless all operations that the settings allow are accepts in flight. -/
theorem Run.work_unless_accepts (h0 : Server.ofSettings settings now = .ok s₀) (h : Run s₀ evs s) :
    s.acceptsInFlight ≤ settings.fanOut * s.listeners ∧
    ((∀ k, (s.sockets.get k).Willing) →
      (∃ id ∈ s.directory.ids, 0 < (s.endpoints.get id).deferred) →
      ((∃ j ∈ s.directory.ids,
          let k := s.sockets.get (s.endpoints.get j).socket
          0 < (k.lane .receive).inFlight.length + (k.lane .send).inFlight.length) ↔
        settings.limit ≠ some s.acceptsInFlight)) :=
  ⟨h.acceptsInFlight_le h0, fun hw ⟨_, hid, hd⟩ => h.exists_work_iff h0 hw hid hd⟩

/-- When the client of the visit has come, the send of its bytes is in flight. -/
theorem work_unless_accepts_arrival : ∃ j ∈ afterArrival.directory.ids,
    let k := afterArrival.sockets.get (afterArrival.endpoints.get j).socket
    0 < (k.lane .receive).inFlight.length + (k.lane .send).inFlight.length :=
  ((Run.work_unless_accepts ofSettings_scarce run_arrival).2 willing_arrival
    ⟨1, mem_ids_arrival, Nat.one_pos⟩).2 (by decide)

/-- A server for streams whose pool has one operation only. -/
def cramped : Server where
  settings := { protocol := .tcp, fanOut := 1, workers := 1, limit := some 1 }
  pool := { bufferSize := 4096, cacheSize := 1024, limit := some 1 }
  endpoints := { blank := .absent }
  meter := .startingAt 0

theorem ofSettings_cramped : Server.ofSettings
    { protocol := .tcp, fanOut := 1, workers := 1, limit := some 1 } 0 = .ok cramped := rfl

/-- A receive can wait for good, though sockets refuse nothing: if the limit is the fan-out of the
only listener, its accepts take the whole pool, and the bytes of a client are not even echoed. -/
theorem work_cramped : ¬ ∀ (settings : Settings) (now : Int) (s₀ s : Server)
    (evs : List ServerEvent) (id : EndpointId), Server.ofSettings settings now = .ok s₀ →
    Run s₀ evs s → (∀ k, (s.sockets.get k).Willing) → id ∈ s.directory.ids →
    0 < (s.endpoints.get id).deferred → ∃ j ∈ s.directory.ids,
      let k := s.sockets.get (s.endpoints.get j).socket
      0 < (k.lane .receive).inFlight.length + (k.lane .send).inFlight.length := by
  intro h
  have hlisten : Run cramped (visit.take 1) ((visit.take 1).foldl step cramped) :=
    .snoc _ .start ⟨nofun, rfl⟩
  have hr : Run cramped (visit.take 2) ((visit.take 2).foldl step cramped) := by
    refine .snoc _ hlisten ⟨⟨_, _, rfl, ⟨rfl, rfl, rfl⟩⟩, fun a ha => ?_⟩
    obtain rfl := Option.some.inj ha
    exact ⟨by decide, rfl⟩
  have htaken : ∀ k, (((visit.take 2).foldl step cramped).sockets.get k).history.all
      SocketEvent.isTaken = true
    | 0 | 1 => rfl
    | _ + 2 => rfl
  have hid : 1 ∈ ((visit.take 2).foldl step cramped).directory.ids := Directory.contains_iff.1 rfl
  have hsome := h _ _ _ _ _ 1 ofSettings_cramped hr (fun k => Socket.willing_of_taken (htaken k))
    hid Nat.one_pos
  exact absurd hsome (by decide)

end Server

end OrderedEcho
