import Mathlib.Algebra.BigOperators.Finprod
import OrderedEcho.Proofs.Server.Run

/-!
# The account of operations in a run

The pool counts the operations that are alive.  Between acts, each of them is in flight on a socket
or waits to be sent, so none is counted that is not there, and none is forgotten
(`Run.operation_account`).  In particular the pool is whole again when no endpoint is left.
-/

namespace OrderedEcho

theorem Directory.nodup_ids (d : Directory) : d.ids.Nodup :=
  List.pairwise_map.2 (d.members.pairwise.imp Nat.ne_of_lt)

namespace Server

variable {s₀ s : Server} {evs : List ServerEvent} {B : Book} {busy : List EndpointId}
  {held : Nat} {i : EndpointId} {settings : Settings} {now : Int}

/-- The sockets of all endpoints. -/
def inUse (s : Server) : Finset SocketId :=
  (Finset.range s.directory.nextId).image fun i => (s.endpoints.get i).socket

section Sockets

variable {f : Socket → Nat}

/-- Nothing is in flight on any other socket. -/
theorem Sound.support_sockets_subset (h : Sound B busy held s)
    (hf : ∀ k : Socket, (∀ kind, (k.lane kind).inFlight = []) → f k = 0) :
    (Function.support fun k => f (s.sockets.get k)) ⊆ s.inUse := by
  intro k hk
  by_contra hn
  have hunowned : ∀ i < s.directory.nextId, (s.endpoints.get i).socket ≠ k := fun i hi he =>
    hn (Finset.mem_coe.2 (Finset.mem_image.2 ⟨i, Finset.mem_range.2 hi, he⟩))
  exact hk (hf _ (h.unowned k hunowned))

/-- What is counted of the operations in flight is counted of the sockets of endpoints. -/
theorem Sound.sum_sockets (h : Sound B busy held s)
    (hf : ∀ k : Socket, (∀ kind, (k.lane kind).inFlight = []) → f k = 0) :
    ∑ᶠ k, f (s.sockets.get k) =
      ∑ i ∈ Finset.range s.directory.nextId, f (s.sockets.get (s.endpoints.get i).socket) := by
  -- endpoints have different sockets, so a sum over endpoints is one over their sockets
  have hinj : Set.InjOn (fun i => (s.endpoints.get i).socket)
      (Finset.range s.directory.nextId : Set EndpointId) := fun i hi j hj he =>
    h.socket_inj i (Finset.mem_range.1 hi) j (Finset.mem_range.1 hj) he
  rw [finsum_eq_sum_of_support_subset _ (h.support_sockets_subset hf)]
  exact Finset.sum_image hinj

end Sockets

theorem length_inFlight_eq_zero (k : Socket) (h : ∀ kind, (k.lane kind).inFlight = []) :
    k.inFlight.length = 0 := by
  simp only [Socket.length_inFlight, h, List.length_nil, Nat.add_zero]

theorem Sound.support_subset (h : Sound B busy held s) :
    (Function.support fun k => (s.sockets.get k).inFlight.length) ⊆ s.inUse :=
  h.support_sockets_subset length_inFlight_eq_zero

theorem Sound.sum_inFlight (h : Sound B busy held s) :
    ∑ᶠ k, (s.sockets.get k).inFlight.length =
      ∑ i ∈ Finset.range s.directory.nextId,
        (s.sockets.get (s.endpoints.get i).socket).inFlight.length :=
  h.sum_sockets length_inFlight_eq_zero

/-- An endpoint that is not registered has nothing on its link. -/
theorem Sound.load_link_eq_zero (h : Sound B busy held s) (hi : i < s.directory.nextId)
    (hn : i ∉ s.directory.ids) : (s.link i).load = 0 := by
  have hl := h.endpoint hi
  have h0 := hl.lifecycle.settled (h.destroyed_of_notMem hi hn)
  have hp := Resequencer.pending_eq_nil (hl.isIdle h0)
  show (s.sockets.get (s.endpoints.get i).socket).inFlight.length + _ = 0
  rw [← hl.lifecycle.outstanding, h0, Nat.zero_add]
  exact List.length_eq_zero_iff.2 hp

/-- Nothing waits to be sent by an endpoint that is not registered. -/
theorem Sound.pending_eq_nil (h : Sound B busy held s) (hi : i < s.directory.nextId)
    (hn : i ∉ s.directory.ids) : (s.endpoints.get i).resequencer.pending = [] :=
  List.length_eq_zero_iff.1 (Nat.add_eq_zero_iff.1 (h.load_link_eq_zero hi hn)).2

/-- Endpoints that are not registered do not count. -/
theorem Sound.sum_ids (h : Sound B busy held s) {f : EndpointId → Nat}
    (hf : ∀ i < s.directory.nextId, i ∉ s.directory.ids → f i = 0) :
    ∑ i ∈ Finset.range s.directory.nextId, f i = (s.directory.ids.map f).sum := by
  rw [← List.sum_toFinset _ s.directory.nodup_ids]
  refine (Finset.sum_subset (fun i hi => ?_) fun i hi hn => ?_).symm
  · exact Finset.mem_range.2 (h.lt_nextId (List.mem_toFinset.1 hi))
  · exact hf i (Finset.mem_range.1 hi) fun hm => hn (List.mem_toFinset.2 hm)

theorem Sound.sum_pending (h : Sound B busy held s) :
    ∑ i ∈ Finset.range s.directory.nextId, (s.endpoints.get i).resequencer.pending.length =
      (s.directory.ids.map fun i => (s.endpoints.get i).resequencer.pending.length).sum :=
  h.sum_ids fun _ hi hn => congrArg List.length (h.pending_eq_nil hi hn)

theorem Sound.load_eq_sums (h : Sound B busy held s) :
    s.load = ∑ᶠ k, (s.sockets.get k).inFlight.length +
      (s.directory.ids.map fun i => (s.endpoints.get i).resequencer.pending.length).sum := by
  rw [h.sum_inFlight, ← h.sum_pending]
  exact Finset.sum_add_distrib

/-- The pool counts the operations in flight on any socket and those that wait to be sent by any
registered endpoint, and they are no more than the settings allow.  There are none if no endpoint is
registered. -/
theorem Run.operation_account (h0 : Server.ofSettings settings now = .ok s₀) (h : Run s₀ evs s) :
    (Function.support fun k => (s.sockets.get k).inFlight.length).Finite ∧
    s.pool.outstanding = ∑ᶠ k, (s.sockets.get k).inFlight.length +
      (s.directory.ids.map fun i => (s.endpoints.get i).resequencer.pending.length).sum ∧
    (∀ n, settings.limit = some n → s.pool.outstanding ≤ n) ∧
    (s.directory.ids = [] → s.pool.outstanding = 0) := by
  have hs := h.sound h0
  have hlimit : s.pool.limit = settings.limit :=
    ((Run.start.grows h0 h).limit).trans (eq_of_ofSettings h0).2.2.2
  refine ⟨s.inUse.finite_toSet.subset hs.support_subset, ?_, ?_, ?_⟩
  · rw [hs.funds.outstanding, hs.load_eq_sums, Nat.add_zero]
  · intro n hn
    exact hs.funds.within n (hlimit.trans hn)
  · intro hempty
    rw [hs.funds.outstanding, Nat.add_zero]
    apply Finset.sum_eq_zero
    intro i hi
    exact hs.load_link_eq_zero (Finset.mem_range.1 hi) (hempty ▸ List.not_mem_nil)

/-- During the visit, the accept of the listener and the send of the stream are in flight. -/
theorem operation_account_visit :
    (afterVisit 3).pool.outstanding = 2 ∧
      ∑ᶠ k, ((afterVisit 3).sockets.get k).inFlight.length = 2 := by
  obtain ⟨-, hsum, -⟩ := Run.operation_account ofSettings_visited (run_visit 3)
  have h2 : (afterVisit 3).pool.outstanding = 2 := rfl
  have h0 : ((afterVisit 3).directory.ids.map fun i =>
      ((afterVisit 3).endpoints.get i).resequencer.pending.length).sum = 0 := rfl
  exact ⟨h2, by rw [← h2, hsum, h0, Nat.add_zero]⟩

end Server

end OrderedEcho
