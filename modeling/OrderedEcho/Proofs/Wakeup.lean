import Mathlib.Algebra.Order.BigOperators.Group.Finset
import OrderedEcho.Proofs.FanOut
import OrderedEcho.Proofs.Server.Shutdown

/-!
# Receives that are owed

An endpoint to which receives are owed is starved, so it tries again after every completion
(`Run.no_lost_wakeup`).  If sockets refuse nothing while they are open, no receive is owed while the
pool has an operation left for it: after every completion all operations that came back are handed
out again, as far as there are receives that wait for them (`Spent`).
-/

namespace OrderedEcho

theorem Pool.isSome_exhausted_mono {p p' : Pool} (hl : p'.limit = p.limit)
    (ho : p.outstanding ≤ p'.outstanding) (h : p.exhausted?.isSome) : p'.exhausted?.isSome := by
  obtain ⟨limit, hlim, hle⟩ := Pool.isSome_exhausted_iff.1 h
  exact Pool.isSome_exhausted_iff.2 ⟨limit, hl.trans hlim, Nat.le_trans hle ho⟩

/-- The socket refused nothing before it was closed. -/
def Socket.Willing (k : Socket) : Prop :=
  ∀ before kind op e after, k.history = before ++ .post kind op (some e) :: after →
    .close ∈ before

/-- Nothing is posted on a closed socket, so one that was willing took every post. -/
theorem Socket.Willing.tookAll {k : Socket} (h : k.Willing) (ho : k.Orderly) : k.TookAll := by
  intro kind op e hm
  obtain ⟨before, after, hh⟩ := List.append_of_mem hm
  obtain ⟨before', between, hb⟩ := List.append_of_mem (h before kind op e after hh)
  have hsplit : k.history = before' ++ .close :: (between ++ .post kind op (some e) :: after) := by
    rw [hh, hb, List.append_assoc, List.cons_append]
  cases ho.eq_close hsplit (List.mem_append_right _ List.mem_cons_self)

theorem Socket.willing_of_taken {k : Socket} (h : k.history.all SocketEvent.isTaken = true) :
    k.Willing := by
  intro before kind op e after hh
  have hm := List.mem_append_right before
    (List.mem_cons_self (a := .post kind op (some e)) (l := after))
  cases List.all_eq_true.1 h _ (hh ▸ hm)

namespace Server

variable {F F' : EndpointInfo → SocketId → Nat → Prop} {todo : List EndpointId} {B B' : Book}
  {busy : List EndpointId} {held : Nat} {s s' s₀ : Server} {i j : EndpointId} {info : EndpointInfo}
  {socket : SocketId} {evs : List ServerEvent} {settings : Settings} {now : Int}

/-- Receives are owed only while the pool is exhausted, except to endpoints in the list, which are
about to try again. -/
def Spent (todo : List EndpointId) (s : Server) : Prop :=
  ∀ j < s.directory.nextId, (s.endpoints.get j).deferred ≠ 0 →
    j ∈ todo ∨ s.pool.exhausted?.isSome

/-! ## Trying again -/

theorem spent_resume (h : Spent (i :: todo) s) (hs : Sound B [] held s)
    (ht : ∀ k, ((s.resume i).sockets.get k).TookAll) : Spent todo (s.resume i) := by
  have hrest (j : EndpointId) (hj : j ∈ i :: todo) (hne : j ≠ i) : j ∈ todo :=
    (List.mem_cons.1 hj).resolve_left hne
  intro j hj hx
  rw [hs.nextId_resume] at hj
  obtain ⟨hn, he⟩ | ⟨s', hi, h0, ha, hlink, he⟩ := hs.resume_cases i
  · rw [he] at hx ⊢
    refine (h j hj hx).imp_left fun hm => hrest j hm ?_
    rintro rfl
    exact hn ⟨hs.mem_ids_of_deferred hj hx, hx⟩
  · have htook := hlink ▸ tookAll_of_retire (he ▸ ht) i
    have hd : (s.link i).endpoint.destroyed = false := ((hs.mem_ids i).1 hi).2
    obtain ⟨hle, hspent⟩ :=
      (Link.resumed_resume hd).spent (hs.closing_of_deferred (hs.lt_nextId hi) h0) htook
    rw [← hlink] at hle hspent
    have hpool : (s.resume i).pool = s'.pool := by rw [he, pool_retire]
    rw [hpool]
    by_cases hji : j = i
    · subst hji
      rw [he, deferred_retire] at hx
      exact Or.inr (hspent hx)
    · rw [(hs.resume_of_ne hj hji).1] at hx
      refine (h j hj hx).imp (fun hm => hrest j hm hji) fun hex => ?_
      exact Pool.isSome_exhausted_mono ha.link.limit hle hex

theorem spent_foldl_resume (ids : List EndpointId) (h : Spent ids s) (hs : Sound B [] held s)
    (ht : ∀ k, ((ids.foldl resume s).sockets.get k).TookAll) : Spent [] (ids.foldl resume s) := by
  induction ids generalizing s with
  | nil => exact h
  | cons i ids ih =>
    have hs' := (later_foldl_resume [i] hs).sound
    have hg := (later_foldl_resume ids hs').grows
    exact ih (spent_resume h hs fun k => (ht k).earlier (hg.history k)) hs' ht

/-- When the starved endpoints have tried again, the pool is exhausted or nothing is owed. -/
theorem Provided.spent (h : Provided F [] s) (hs : Sound B [] held s) {order : VisitingOrder}
    (ht : ∀ k, ((s.resumeStarved order).sockets.get k).TookAll) :
    Spent [] (s.resumeStarved order) := by
  have hl := later_clearStarved hs
  exact spent_foldl_resume (order.arrange s.starved.toList)
    (fun j hj hx => Or.inl (VisitingOrder.mem_arrange.2 (h.mem_starved hs hj hx))) hl.sound ht

/-! ## New endpoints -/

theorem Sound.outstanding_le (hs : Sound B busy 0 s) (hs' : Sound B' busy 0 s')
    (hn : s.directory.nextId ≤ s'.directory.nextId)
    (hl : ∀ j < s.directory.nextId, (s'.link j).load = (s.link j).load) :
    s.pool.outstanding ≤ s'.pool.outstanding := by
  rw [hs.funds.outstanding, hs'.funds.outstanding, Nat.add_zero, Nat.add_zero]
  have hsub := Finset.range_mono hn
  calc s.load = ∑ j ∈ Finset.range s.directory.nextId, (s'.link j).load :=
        Finset.sum_congr rfl fun j hj => (hl j (Finset.mem_range.1 hj)).symm
    _ ≤ s'.load := Finset.sum_le_sum_of_subset hsub

section NewEndpoint

variable {post : Link → PostResult × Link} {x : Except PostError EndpointId × Server}

/-- Nothing is owed to a new endpoint: it would be starved, but whoever is starved was registered
before. -/
theorem Joins.deferred_new (hj : Joins s info socket post x) (hid : info.id = s.directory.nextId)
    (hs : Sound B [] held s) (hs' : Sound B' [] held x.2) (hp : Provided F [] s)
    (hp' : Provided F' [] x.2) : (x.2.endpoints.get info.id).deferred = 0 := by
  by_contra hx
  have hlt : info.id < x.2.directory.nextId := by
    rw [hj.nextId, hid]
    exact Nat.lt_succ_self _
  have hw := (hp'.waiting _ hlt (hs'.closing_of_deferred hlt hx) hx).resolve_right
    List.not_mem_nil
  exact absurd (hs.lt_nextId (hp.starved _ (hj.starved_subset hw))) (hid ▸ Nat.lt_irrefl _)

/-- A new endpoint takes operations from the pool only. -/
theorem Joins.spent (hj : Joins s info socket post x) (hf : Fresh s socket)
    (hid : info.id = s.directory.nextId) (hs : Sound B [] 0 s) (hs' : Sound B' [] 0 x.2)
    (hp : Provided F [] s) (hp' : Provided F' [] x.2) (h : Spent [] s) : Spent [] x.2 := by
  have hne {j : EndpointId} (hlt : j < s.directory.nextId) : j ≠ info.id :=
    hid ▸ Nat.ne_of_lt hlt
  have hle : s.pool.outstanding ≤ x.2.pool.outstanding := by
    refine hs.outstanding_le hs' (hj.grows hid).nextId fun j hlt => ?_
    have he := hj.endpoint_of_ne (hne hlt)
    refine load_link_congr (by rw [he]) (by rw [he]) fun _ => ?_
    rw [hj.socket_of_ne (hf.1 j hlt)]
  intro j hlt hx
  rw [hj.nextId] at hlt
  rcases Nat.lt_succ_iff_lt_or_eq.1 hlt with hold | rfl
  · rw [hj.endpoint_of_ne (hne hold)] at hx
    exact (h j hold hx).imp_right (Pool.isSome_exhausted_mono (hj.grows hid).limit hle)
  · exact absurd (hid ▸ hj.deferred_new hid hs hs' hp hp') hx

end NewEndpoint

/-! ## Runs -/

/-- The server when the completion has been handled, except that the starved endpoints have not
tried again, if it is a completion after which they do. -/
def interim? (s : Server) (k : SocketId) (n : Nat) (c : Completion) : Option Server :=
  match (s.sockets.get k).take? c.operation.kind n with
  | some (_, socket) => (c.operation.endpoint.filter s.directory.contains).map
      (complete (s.modifySocket k fun _ => socket) · c)
  | none => none

/-- Every completion finds its endpoint, and when it has been handled, the starved endpoints try
again. -/
theorem Run.interim (h0 : Server.ofSettings settings now = .ok s₀) (hr : Run s₀ evs s)
    {k : SocketId} {n : Nat} {c : Completion} {order : VisitingOrder}
    (hev : s.Possible (.complete k n c order)) :
    ∃ s', s.interim? k n c = some s' ∧ s.step (.complete k n c order) = s'.resumeStarved order ∧
      Later (book s₀ (evs ++ [.complete k n c order])) [] 0 s s' ∧
      Provided (fun _ _ _ => True) [] s' := by
  have hs := hr.sound h0
  obtain ⟨⟨op, k', htake, hret⟩, hf⟩ := hev
  obtain ⟨i, ha⟩ := hs.arrives hr htake hret order
  have hc := ha.informs hr hs hf
  have hp := (hr.provided h0).1.mono fun _ _ _ _ => trivial
  have htends := tends_complete ha hs hp hc.accept fun _ _ => trivial
  refine ⟨_, ?_, (step_complete htake).trans (ha.handle_eq order),
    (handled_complete ha hs hc).toLater, htends.provided⟩
  unfold interim?
  rw [htake]
  dsimp only
  rw [ha.endpoint_filter]
  rfl

/-- If no socket refused a post, receives are owed only while the pool is exhausted. -/
theorem Run.spent (h0 : Server.ofSettings settings now = .ok s₀) (h : Run s₀ evs s)
    (ht : ∀ k, (s.sockets.get k).TookAll) : Spent [] s := by
  induction h with
  | start =>
    intro j hj
    rw [(eq_of_ofSettings h0).1] at hj
    exact absurd hj (Nat.not_lt_zero j)
  | @snoc evs s ev hr hev ih =>
    have hs := hr.sound h0
    have hl := (hr.step hs hev).1
    have hspent := ih fun k => (ht k).earlier (hl.grows.history k)
    have hp := (hr.provided h0).1
    have hp' := ((hr.snoc ev hev).provided h0).1
    cases ev with
    | listen socket family =>
      exact (joins_addListener s socket family).spent hev rfl hs hl.sound hp hp' hspent
    | bind socket family =>
      exact (joins_addDatagram s socket family).spent hev rfl hs hl.sound hp hp' hspent
    | shutdown =>
      intro j hj hx
      exact absurd ((down_shutdown hs _).deferred_eq_zero hl.sound hj) hx
    | refuse => exact hspent
    | complete =>
      obtain ⟨s', -, he, hlater, hstarved⟩ := hr.interim h0 hev
      rw [he] at ht ⊢
      exact hstarved.spent hlater.sound ht

/-- While receives are owed, as many operations are alive as the settings allow. -/
theorem Run.limit_eq_outstanding (h0 : Server.ofSettings settings now = .ok s₀)
    (h : Run s₀ evs s) (hw : ∀ k, (s.sockets.get k).Willing) (hi : i < s.directory.nextId)
    (hd : 0 < (s.endpoints.get i).deferred) : settings.limit = some s.pool.outstanding := by
  have hs := h.sound h0
  have hex := (h.spent h0 (fun k => (hw k).tookAll (hs.orderly_all k)) i hi
    (Nat.ne_of_gt hd)).resolve_left List.not_mem_nil
  obtain ⟨limit, hlim, hle⟩ := Pool.isSome_exhausted_iff.1 hex
  have hwithin := hs.funds.within limit hlim
  rw [← h.limit_eq h0, hlim, Nat.le_antisymm hwithin hle]

/-- A registered endpoint to which receives are owed is starved, and starved endpoints are
registered.  If moreover no socket refused a post while it was open, receives are owed only while as
many operations are alive as the settings allow. -/
theorem Run.no_lost_wakeup (h0 : Server.ofSettings settings now = .ok s₀) (h : Run s₀ evs s) :
    (∀ id ∈ s.directory.ids, 0 < (s.endpoints.get id).deferred → id ∈ s.starved.toList) ∧
    (∀ id ∈ s.starved.toList, id ∈ s.directory.ids) ∧
    ((∀ k, (s.sockets.get k).Willing) → ∀ id < s.directory.nextId,
      0 < (s.endpoints.get id).deferred → settings.limit = some s.pool.outstanding) := by
  have hs := h.sound h0
  have hp := (h.provided h0).1
  refine ⟨fun id hid hd => ?_, hp.starved, fun hw id hid hd => h.limit_eq_outstanding h0 hw hid hd⟩
  exact hp.mem_starved hs (hs.lt_nextId hid) (Nat.ne_of_gt hd)

theorem willing_arrival (k : SocketId) : (afterArrival.sockets.get k).Willing := by
  have htaken : ∀ k, (afterArrival.sockets.get k).history.all SocketEvent.isTaken = true
    | 0 | 1 => rfl
    | _ + 2 => rfl
  exact Socket.willing_of_taken (htaken k)

/-- When the client of the visit has come, the stream is starved, and the pool is exhausted. -/
theorem no_lost_wakeup_arrival :
    1 ∈ afterArrival.starved.toList ∧ some 3 = some afterArrival.pool.outstanding := by
  obtain ⟨hstarved, -, hspent⟩ := Run.no_lost_wakeup ofSettings_scarce run_arrival
  exact ⟨hstarved 1 mem_ids_arrival Nat.one_pos,
    hspent willing_arrival 1 (by decide) Nat.one_pos⟩

end Server

end OrderedEcho
