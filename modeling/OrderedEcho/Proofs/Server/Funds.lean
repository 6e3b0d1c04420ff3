import Mathlib.Algebra.BigOperators.Group.Finset.Basic
import OrderedEcho.Proofs.Server.Frame

/-!
# The pool and the endpoints

The pool of a server counts what is on the links of its endpoints, and what the acts that are going
on hold beside (`Server.Funded`).  Seen from one endpoint, the other endpoints are the rest
(`Funded.link`), and they keep their load while it acts (`Touches.loadBut_eq`).
-/

namespace OrderedEcho

namespace Server

variable {s s' : Server} {i j : EndpointId} {held : Nat}

/-- The number of operations on the links of all endpoints. -/
def load (s : Server) : Nat := ∑ i ∈ Finset.range s.directory.nextId, (s.link i).load

/-- The number of operations on the links of all endpoints but `i`. -/
def loadBut (s : Server) (i : EndpointId) : Nat :=
  ∑ j ∈ (Finset.range s.directory.nextId).erase i, (s.link j).load

theorem load_eq (hi : i < s.directory.nextId) : s.load = (s.link i).load + s.loadBut i :=
  (Finset.add_sum_erase _ _ (Finset.mem_range.2 hi)).symm

/-- The pool counts what is on the links, and `held` more. -/
structure Funded (held : Nat) (s : Server) : Prop where
  outstanding : s.pool.outstanding = s.load + held
  within : ∀ n, s.pool.limit = some n → s.pool.outstanding ≤ n

theorem Funded.congr (h : Funded held s) (hp : s'.pool = s.pool) (hl : s'.load = s.load) :
    Funded held s' := by
  refine ⟨?_, ?_⟩
  · rw [hp, hl]
    exact h.outstanding
  · rw [hp]
    exact h.within

theorem Funded.link (h : Funded held s) (hi : i < s.directory.nextId) :
    Link.Funded (s.loadBut i) (s.link i) held := by
  refine ⟨?_, h.within⟩
  show s.pool.outstanding = _
  rw [h.outstanding, load_eq hi, Nat.add_right_comm]

theorem Funded.of_link (hi : i < s.directory.nextId)
    (h : Link.Funded (s.loadBut i) (s.link i) held) : Funded held s := by
  refine ⟨?_, h.within⟩
  rw [load_eq hi, Nat.add_right_comm]
  exact h.outstanding

theorem Funded.release (h : Funded (held + 1) s) (op : Operation) : Funded held (s.release op) := by
  have ho : (s.release op).pool.outstanding = s.pool.outstanding - 1 :=
    Pool.outstanding_release s.pool op
  have hl : (s.release op).load = s.load := rfl
  have := h.outstanding
  refine ⟨by omega, fun n hn => ?_⟩
  have := h.within n ((Pool.limit_release s.pool op).symm.trans hn)
  omega

/-! ## What keeps the load -/

theorem load_link_congr (hs : (s'.endpoints.get j).socket = (s.endpoints.get j).socket)
    (hr : (s'.endpoints.get j).resequencer = (s.endpoints.get j).resequencer)
    (hk : ∀ kind, ((s'.sockets.get (s.endpoints.get j).socket).lane kind).inFlight =
      ((s.sockets.get (s.endpoints.get j).socket).lane kind).inFlight) :
    (s'.link j).load = (s.link j).load := by
  unfold link Link.load
  dsimp only
  rw [hs, hr]
  simp only [Socket.length_inFlight, hk]

theorem load_congr (hn : s'.directory.nextId = s.directory.nextId)
    (h : ∀ j < s.directory.nextId, (s'.link j).load = (s.link j).load) : s'.load = s.load := by
  unfold load
  rw [hn]
  exact Finset.sum_congr rfl fun j hj => h j (Finset.mem_range.1 hj)

theorem Touches.loadBut_eq (ht : Touches i s s')
    (hne : ∀ j < s.directory.nextId, j ≠ i →
      (s.endpoints.get j).socket ≠ (s.endpoints.get i).socket) :
    s'.loadBut i = s.loadBut i := by
  unfold loadBut
  rw [ht.directory]
  refine Finset.sum_congr rfl fun j hj => ?_
  obtain ⟨hji, hj⟩ := Finset.mem_erase.1 hj
  have he := ht.endpoint j hji
  refine load_link_congr (by rw [he]) (by rw [he]) fun _ => ?_
  rw [ht.sockets _ (hne j (Finset.mem_range.1 hj) hji)]

theorem Adds.loadBut_eq {info : EndpointInfo} {socket : SocketId} (ha : Adds info socket s s')
    (hid : info.id = s.directory.nextId)
    (hne : ∀ j < s.directory.nextId, (s.endpoints.get j).socket ≠ socket) :
    s'.loadBut info.id = s.load := by
  unfold loadBut load
  rw [ha.nextId, hid, Finset.range_add_one, Finset.erase_insert Finset.notMem_range_self]
  refine Finset.sum_congr rfl fun j hj => ?_
  have hj := Finset.mem_range.1 hj
  have he := ha.endpoint j (hid ▸ Nat.ne_of_lt hj)
  refine load_link_congr (by rw [he]) (by rw [he]) fun _ => ?_
  rw [ha.sockets _ (hne j hj)]

end Server

end OrderedEcho
