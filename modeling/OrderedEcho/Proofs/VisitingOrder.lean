import OrderedEcho.Proofs.Link.Bytes
import OrderedEcho.Proofs.OperationAccount
import OrderedEcho.Proofs.Server.Keeps
import OrderedEcho.Proofs.Wakeup

/-!
# The order in which starved endpoints try again

Starved endpoints may try again in any order, and which of them gets the operations that came back
depends on it.  What they get together does not, if sockets refuse nothing while they are open: as
many receives are posted as the pool has operations for, or all that are owed, and those that are
left are owed as before (`Run.supplied_in_any_order`).

The pool pays for each receive that is posted (`CatchesUp.load`), and in the end it is exhausted
unless nothing is owed any more (`spent_foldl_resume`), which leaves one possible number.
-/

namespace OrderedEcho

namespace Server

variable {F F' : EndpointInfo → SocketId → Nat → Prop} {todo ids : List EndpointId} {B B' : Book}
  {busy : List EndpointId} {held : Nat} {s s' s₀ : Server} {i j : EndpointId}
  {ops : List Operation} {evs : List ServerEvent} {settings : Settings} {now : Int}

/-- The number of receives that are owed to the starved endpoints. -/
def owed (s : Server) : Nat := (s.starved.toList.map fun j => (s.endpoints.get j).deferred).sum

/-- The number of receives owed to the starved endpoints for which the pool has an operation. -/
def supply (s : Server) : Nat :=
  match s.pool.limit with
  | some limit => min (limit - s.pool.outstanding) s.owed
  | none => s.owed

/-! ## Sums over starved endpoints -/

/-- No endpoint is starved twice, so a sum over the starved ones is one over all endpoints if the
others do not count. -/
theorem Provided.sum_starved (hp : Provided F todo s) (hs : Sound B busy held s)
    {f : EndpointId → Nat} (hf : ∀ j < s.directory.nextId, j ∉ s.starved.toList → f j = 0) :
    (s.starved.toList.map f).sum = ∑ j ∈ Finset.range s.directory.nextId, f j := by
  rw [← List.sum_toFinset _ s.starved.nodup_toList]
  refine Finset.sum_subset (fun j hj => ?_) fun j hj hn => ?_
  · exact Finset.mem_range.2 (hs.lt_nextId (hp.starved j (List.mem_toFinset.1 hj)))
  · exact hf j (Finset.mem_range.1 hj) fun hm => hn (List.mem_toFinset.2 hm)

/-- All that is owed is owed to starved endpoints. -/
theorem Provided.owed_eq (hp : Provided F [] s) (hs : Sound B busy held s) :
    s.owed = ∑ j ∈ Finset.range s.directory.nextId, (s.endpoints.get j).deferred :=
  hp.sum_starved hs fun _ hj hn => by_contra fun hd => hn (hp.mem_starved hs hj hd)

/-! ## One endpoint -/

theorem CatchesUp.begins (h : CatchesUp j ops s s') :
    (s.link j).socket.Begins .receive ops (s'.link j).socket := by
  show Socket.Begins _ _ _ (s'.sockets.get (s'.endpoints.get j).socket)
  rw [h.socket_eq]
  exact h.link.socket

/-- Each receive that was posted is one operation more. -/
theorem CatchesUp.load (h : CatchesUp j ops s s') :
    (s'.link j).load = (s.link j).load + ops.length := by
  have hr : (s'.link j).endpoint.resequencer.pending = (s.link j).endpoint.resequencer.pending := by
    show (s'.endpoints.get j).resequencer.pending = _
    rw [h.link.endpoint]
    rfl
  unfold Link.load
  rw [h.begins.length_inFlight, hr]
  omega

/-- A receive that was owed is in flight instead. -/
theorem CatchesUp.fanOut (h : CatchesUp j ops s s') : (s'.link j).fanOut = (s.link j).fanOut := by
  have hd : (s'.link j).endpoint.deferred + ops.length = (s.link j).endpoint.deferred :=
    h.link.deferred
  unfold Link.fanOut
  rw [h.begins.lane_self, List.length_append]
  omega

/-! ## Who is starved afterwards -/

/-- Receives are owed to every starved endpoint, and none of the list is starved yet. -/
def Earnest (todo : List EndpointId) (s : Server) : Prop :=
  ∀ j ∈ s.starved.toList, (s.endpoints.get j).deferred ≠ 0 ∧ j ∉ todo

/-- An endpoint that tried again is starved only if receives are still owed to it. -/
theorem earnest_resume (h : Earnest (i :: todo) s) (hs : Sound B busy held s) (hi : i ∉ todo)
    (ht : ∀ k, ((s.resume i).sockets.get k).TookAll) : Earnest todo (s.resume i) := by
  obtain ⟨-, he⟩ | ⟨s', hm, hne, ha, hlink, he⟩ := hs.resume_cases i
  · rw [he]
    exact fun j hj => ⟨(h j hj).1, fun hx => (h j hj).2 (List.mem_cons_of_mem _ hx)⟩
  · have htook := hlink ▸ tookAll_of_retire (he ▸ ht) i
    obtain ⟨ops, hc, -, hw⟩ := Link.catchesUp_settle_resume
      (hs.closing_of_deferred (hs.lt_nextId hm) hne) ((hs.mem_ids i).1 hm).2 htook.not_refusedSince
    rw [he]
    intro j hj
    have hj := starved_retire_subset s' i hj
    rw [ha.starved, Ascending.mem_starved_iff] at hj
    rw [deferred_retire]
    rcases hj with ⟨hwaits, rfl⟩ | hj
    · have hleft := hlink ▸ hc.deferred
      have hlt := hw hwaits
      refine ⟨?_, hi⟩
      show (s'.link j).endpoint.deferred ≠ 0
      omega
    · obtain ⟨hx, hn⟩ := h j hj
      rw [ha.endpoint j fun hji => hn (hji ▸ List.mem_cons_self)]
      exact ⟨hx, fun hm => hn (List.mem_cons_of_mem _ hm)⟩

theorem earnest_foldl_resume (h : Earnest ids s) (hs : Sound B [] held s) (hids : ids.Nodup)
    (ht : ∀ k, ((ids.foldl resume s).sockets.get k).TookAll) : Earnest [] (ids.foldl resume s) := by
  induction ids generalizing s with
  | nil => exact h
  | cons i ids ih =>
    obtain ⟨hi, hids⟩ := List.nodup_cons.1 hids
    have hs' := (later_foldl_resume [i] hs).sound
    have hg := (later_foldl_resume ids hs').grows
    exact ih (earnest_resume h hs hi fun k => (ht k).earlier (hg.history k)) hs' hids ht

/-! ## All endpoints -/

/-- The socket of no endpoint is touched. -/
theorem Sound.socket_resume_of_unowned (hs : Sound B busy held s) {k : SocketId}
    (hk : ¬ Owned s k) (i : EndpointId) : (s.resume i).sockets.get k = s.sockets.get k := by
  obtain ⟨-, h⟩ | ⟨s', hi, -, ha, -, h⟩ := hs.resume_cases i
  · rw [h]
  · have hne : k ≠ (s.endpoints.get i).socket := fun he => hk ⟨i, hs.lt_nextId hi, he.symm⟩
    rw [h, socket_retire_of_ne s' (ha.socket_eq.symm ▸ hne), ha.sockets k hne]

theorem Sound.not_owned_resume (hs : Sound B [] held s) {k : SocketId} (hk : ¬ Owned s k)
    (i : EndpointId) : ¬ Owned (s.resume i) k := by
  rintro ⟨j, hj, he⟩
  rw [hs.nextId_resume] at hj
  exact hk ⟨j, hj, ((later_foldl_resume [i] hs).grows.endpoint j hj).socket.symm.trans he⟩

theorem Sound.socket_foldl_resume (hs : Sound B [] held s) {k : SocketId} (hk : ¬ Owned s k)
    (ids : List EndpointId) : (ids.foldl resume s).sockets.get k = s.sockets.get k :=
  (hs.foldl_resume (P := fun s' => ¬ Owned s' k ∧ s'.sockets.get k = s.sockets.get k) ⟨hk, rfl⟩
    (fun _ i hs' h => ⟨hs'.not_owned_resume h.1 i,
      (hs'.socket_resume_of_unowned h.1 i).trans h.2⟩) ids).2

/-- When a list of endpoints try again, each of them catches up, and nobody else touches the
others. -/
theorem Sound.exists_catchesUp (hs : Sound B [] held s) (hids : ids.Nodup)
    (ht : ∀ k, ((ids.foldl resume s).sockets.get k).TookAll) :
    ∃ ops : EndpointId → List Operation, ∀ j < s.directory.nextId,
      CatchesUp j (ops j) s (ids.foldl resume s) ∧ (j ∉ ids → ops j = []) := by
  have hone (j : EndpointId) : ∃ ops, j < s.directory.nextId →
      CatchesUp j ops s (ids.foldl resume s) ∧ (j ∉ ids → ops = []) := by
    by_cases hj : j < s.directory.nextId ∧ j ∈ ids
    · obtain ⟨ops, hc, -⟩ := catchesUp_foldl_resume hs hj.1 hids (ht _).not_refusedSince
      exact ⟨ops, fun _ => ⟨hc, fun hn => absurd hj.2 hn⟩⟩
    · exact ⟨[], fun hlt => ⟨(keeps_foldl_resume hs hlt (Or.inl fun hm => hj ⟨hlt, hm⟩)).catchesUp,
        fun _ => rfl⟩⟩
  choose ops hops using hone
  exact ⟨ops, hops⟩

section Totals

variable {ops : EndpointId → List Operation}

/-- The pool paid for the receives that were posted. -/
theorem outstanding_catchesUp (hs : Sound B [] 0 s) (hs' : Sound B' [] 0 s')
    (hn : s'.directory.nextId = s.directory.nextId)
    (hc : ∀ j < s.directory.nextId, CatchesUp j (ops j) s s') :
    s'.pool.outstanding =
      s.pool.outstanding + ∑ j ∈ Finset.range s.directory.nextId, (ops j).length := by
  rw [hs.funds.outstanding, hs'.funds.outstanding, Nat.add_zero, Nat.add_zero, load, load, hn,
    ← Finset.sum_add_distrib]
  exact Finset.sum_congr rfl fun j hj => (hc j (Finset.mem_range.1 hj)).load

/-- They are owed no longer. -/
theorem owed_catchesUp (hp : Provided F [] s) (hs : Sound B [] 0 s) (hp' : Provided F' [] s')
    (hs' : Sound B' [] 0 s') (hn : s'.directory.nextId = s.directory.nextId)
    (hc : ∀ j < s.directory.nextId, CatchesUp j (ops j) s s') :
    s'.owed + ∑ j ∈ Finset.range s.directory.nextId, (ops j).length = s.owed := by
  rw [hp.owed_eq hs, hp'.owed_eq hs', hn, ← Finset.sum_add_distrib]
  exact Finset.sum_congr rfl fun j hj => (hc j (Finset.mem_range.1 hj)).link.deferred

/-- If receives are still owed, the pool is exhausted. -/
theorem Spent.exhausted_of_owed (h : Spent [] s) (hp : Provided F [] s) (hs : Sound B [] 0 s)
    (ho : s.owed ≠ 0) : s.pool.limit = some s.pool.outstanding := by
  rw [hp.owed_eq hs] at ho
  obtain ⟨j, hj, hd⟩ := Finset.exists_ne_zero_of_sum_ne_zero ho
  obtain ⟨limit, hlim, hle⟩ := Pool.isSome_exhausted_iff.1
    ((h j (Finset.mem_range.1 hj) hd).resolve_left List.not_mem_nil)
  rw [hlim, Nat.le_antisymm (hs.funds.within limit hlim) hle]

/-- As many receives were posted as the pool had operations for, or all that were owed. -/
theorem sum_catchesUp (hp : Provided F [] s) (hs : Sound B [] 0 s) (hp' : Provided F' [] s')
    (hs' : Sound B' [] 0 s') (hspent : Spent [] s') (hg : Grows s s')
    (hn : s'.directory.nextId = s.directory.nextId)
    (hc : ∀ j < s.directory.nextId, CatchesUp j (ops j) s s') :
    ∑ j ∈ Finset.range s.directory.nextId, (ops j).length = s.supply := by
  have hout := outstanding_catchesUp hs hs' hn hc
  have howed := owed_catchesUp hp hs hp' hs' hn hc
  have hex := hspent.exhausted_of_owed hp' hs'
  have hwithin := hs'.funds.within
  rw [hg.limit] at hex hwithin
  unfold supply
  split
  · next limit hl =>
    have hle := hwithin limit hl
    by_cases h0 : s'.owed = 0
    · omega
    · have hlimit := Option.some.inj (hl.symm.trans (hex h0))
      omega
  · next hl =>
    have h0 : s'.owed = 0 := by
      by_contra h0
      cases hl.symm.trans (hex h0)
    omega

end Totals

/-! ## What all of them get -/

/-- From `s` to `s'` the starved endpoints got their receives, as far as the pool had operations for
them. -/
structure Supplied (s s' : Server) : Prop where
  /-- As many receives were posted, each for an endpoint to which it was owed. -/
  posted : ∃ ops : EndpointId → List Operation,
    (∀ j < s.directory.nextId, CatchesUp j (ops j) s s' ∧ (j ∉ s.starved.toList → ops j = [])) ∧
    (s.starved.toList.map fun j => (ops j).length).sum = s.supply
  /-- The pool gave an operation for each of them. -/
  outstanding : s'.pool.outstanding = s.pool.outstanding + s.supply
  /-- On no other socket anything happened. -/
  unowned : ∀ k, ¬ Owned s k → s'.sockets.get k = s.sockets.get k
  /-- The other receives are still owed. -/
  owed : s'.owed = s.owed - s.supply
  fanOut : ∀ j < s.directory.nextId, (s'.link j).fanOut = (s.link j).fanOut
  /-- Just those endpoints are starved to which receives are owed. -/
  starved : ∀ j, j ∈ s'.starved.toList ↔
    j ∈ s'.directory.ids ∧ 0 < (s'.endpoints.get j).deferred

/-- The starved endpoints try again in some order. -/
theorem Provided.supplied (hp : Provided F [] s) (hs : Sound B [] 0 s)
    (hids : ids.Perm s.starved.toList)
    (hw : ∀ k, ((s.resumeAll ids).sockets.get k).Willing) : Supplied s (s.resumeAll ids) := by
  have hl := later_clearStarved hs
  have hnodup : ids.Nodup := hids.nodup_iff.2 s.starved.nodup_toList
  have hmem {j : EndpointId} (hj : j < s.directory.nextId) (hx : (s.endpoints.get j).deferred ≠ 0) :
      j ∈ ids := hids.symm.subset (hp.mem_starved hs hj hx)
  have hl' : Later B [] 0 _ (s.resumeAll ids) := later_foldl_resume ids hl.sound
  have hp' : Provided F [] (s.resumeAll ids) := (tends_foldl_resume ids hl.sound
    ⟨hp.fanOut, fun j hj _ hx => Or.inr (hmem hj hx), nofun⟩).provided
  have ht (k : SocketId) := (hw k).tookAll (hl'.sound.orderly_all k)
  -- what each endpoint gets
  obtain ⟨ops, hops⟩ := hl.sound.exists_catchesUp hnodup ht
  have hc (j : EndpointId) (hj : j < s.directory.nextId) :
      CatchesUp j (ops j) s (s.resumeAll ids) := (keeps_clearStarved s j).trans_catchesUp (hops j hj).1
  have hnil (j : EndpointId) (hj : j < s.directory.nextId) (hn : j ∉ s.starved.toList) :
      ops j = [] := (hops j hj).2 fun hm => hn (hids.subset hm)
  -- how much they get together
  have hspent : Spent [] (s.resumeAll ids) :=
    spent_foldl_resume ids (fun j hj hx => Or.inl (hmem hj hx)) hl.sound ht
  have hn : (s.resumeAll ids).directory.nextId = s.directory.nextId :=
    hl.sound.nextId_foldl_resume ids
  have hsum := sum_catchesUp hp hs hp' hl'.sound hspent (hl.grows.trans hl'.grows) hn hc
  have howed := owed_catchesUp hp hs hp' hl'.sound hn hc
  have hout := outstanding_catchesUp hs hl'.sound hn hc
  refine ⟨⟨ops, fun j hj => ⟨hc j hj, hnil j hj⟩, ?_⟩, hsum ▸ hout,
    fun k hk => hl.sound.socket_foldl_resume hk ids, by omega, fun j hj => (hc j hj).fanOut,
    fun j => ⟨fun hj => ⟨hp'.starved j hj, Nat.pos_of_ne_zero ?_⟩, fun hj => ?_⟩⟩
  · rw [hp.sum_starved hs fun j hj hm => congrArg List.length (hnil j hj hm)]
    exact hsum
  · exact (earnest_foldl_resume (s := { s with starved := .empty }) nofun hl.sound hnodup ht j hj).1
  · exact hp'.mem_starved hl'.sound (hl'.sound.lt_nextId hj.1) (Nat.ne_of_gt hj.2)

/-- After every completion the starved endpoints try again, and they may do so in any order.  In
whichever order they do, they get what the pool has for them, unless a socket refuses something
while it is open. -/
theorem Run.supplied_in_any_order (h0 : Server.ofSettings settings now = .ok s₀)
    (h : Run s₀ evs s) {k : SocketId} {n : Nat} {c : Completion} {order : VisitingOrder}
    (hev : s.Possible (.complete k n c order)) :
    ∃ s', s.interim? k n c = some s' ∧ ∀ ids, ids.Perm s'.starved.toList →
      (∃ order, s.step (.complete k n c order) = s'.resumeAll ids) ∧
      ((∀ k, ((s'.resumeAll ids).sockets.get k).Willing) → Supplied s' (s'.resumeAll ids)) := by
  obtain ⟨s', hs', -, hl, hp⟩ := h.interim h0 hev
  refine ⟨s', hs', fun ids hids => ⟨?_, fun hw => hp.supplied hl.sound hids hw⟩⟩
  obtain ⟨order', harrange⟩ := VisitingOrder.exists_arrange_eq hids
  have hev' : s.Possible (.complete k n c order') := hev
  obtain ⟨s'', hs'', hstep, -⟩ := h.interim h0 hev'
  obtain rfl := Option.some.inj (hs'.symm.trans hs'')
  exact ⟨order', by rw [hstep, resumeStarved, harrange]⟩

/-! ## A crowd

A second client comes to the server that is almost exhausted, and then an accept fails. -/

/-- An accept of the first listener completes. -/
def acceptEnds (result : Except IoError Nat) (accepted : Option Accepted) : Completion where
  operation := { kind := .accept, endpoint := some 0, buffer := ⟨[], 0⟩, capacity := 0 }
  result
  accepted

def secondArrival : ServerEvent :=
  .complete 0 0 (acceptEnds (.ok 0) (some ⟨2, ⟨.v4 0x7f000001, 4001, 0⟩⟩)) .listed

/-- Both streams wait for a receive. -/
def crowded : Server := afterArrival.step secondArrival

def failedAccept : Completion := acceptEnds (.error ⟨.permissionDenied, "accept failed"⟩) none

/-- The accept that failed is not posted again, which leaves one operation for the streams. -/
def relieved : Server := (crowded.interim? 0 0 failedAccept).getD crowded

theorem run_crowded : Run scarce (visit.take 2 ++ [secondArrival]) crowded := by
  refine run_arrival.snoc secondArrival ⟨⟨_, _, rfl, ⟨rfl, rfl, rfl⟩⟩, fun a ha => ?_⟩
  obtain rfl := Option.some.inj ha
  exact ⟨by decide, rfl⟩

theorem possible_failedAccept (order : VisitingOrder) :
    crowded.Possible (.complete 0 0 failedAccept order) :=
  ⟨⟨_, _, rfl, ⟨rfl, rfl, rfl⟩⟩, nofun⟩

theorem willing_relieved (h : ids = [1, 2] ∨ ids = [2, 1]) (k : SocketId) :
    ((relieved.resumeAll ids).sockets.get k).Willing := by
  have htaken : ∀ k, ((relieved.resumeAll [1, 2]).sockets.get k).history.all
        SocketEvent.isTaken = true ∧
      ((relieved.resumeAll [2, 1]).sockets.get k).history.all SocketEvent.isTaken = true
    | 0 | 1 | 2 => ⟨rfl, rfl⟩
    | _ + 3 => ⟨rfl, rfl⟩
  rcases h with rfl | rfl
  · exact Socket.willing_of_taken (htaken k).1
  · exact Socket.willing_of_taken (htaken k).2

/-- The stream that tries first gets the operation, and the other one stays starved. -/
theorem supplied_relieved : relieved.owed = 2 ∧ relieved.supply = 1 ∧
    (∀ ids, ids = [1, 2] ∨ ids = [2, 1] →
      (relieved.resumeAll ids).owed = relieved.owed - relieved.supply) ∧
    (relieved.resumeAll [1, 2]).starved.toList = [2] ∧
    (relieved.resumeAll [2, 1]).starved.toList = [1] := by
  refine ⟨rfl, rfl, fun ids h => ?_, rfl, rfl⟩
  obtain ⟨s', hs', hsupplied⟩ := Run.supplied_in_any_order ofSettings_scarce run_crowded
    (possible_failedAccept .listed)
  obtain rfl : relieved = s' := Option.some.inj hs'
  have hids : ids.Perm relieved.starved.toList := by
    rcases h with rfl | rfl <;> decide
  exact ((hsupplied ids hids).2 (willing_relieved h)).owed

end Server

end OrderedEcho
