import Mathlib.Data.List.Perm.Basic
import OrderedEcho.Proofs.OperationAccount
import OrderedEcho.Proofs.Server.Keeps

/-!
# When the operations of a closed endpoint fail

An endpoint that was closed because of an error still has operations in flight.  While these fail,
one after the other and in any order, nothing happens to the other endpoints (`Run.failing`), since
nobody is waiting for the operations that come free.  Nothing is posted on the closed socket, so each
failure leaves one operation less in flight (`Run.length_inFlight_failing`).  When the last one has
failed the endpoint is gone, and if it was the last one to come, the directory and the pool are what
they were before (`Sound.restored`).
-/

namespace OrderedEcho

namespace Directory

theorem mem_members_iff {d : Directory} {info : EndpointInfo} :
    info ∈ d.members.toList ↔ d.get? info.id = some info := by
  unfold get?
  refine ⟨fun hm => ?_, List.mem_of_find?_eq_some⟩
  cases hf : d.members.toList.find? fun b => b.id == info.id with
  | none => exact absurd (List.find?_eq_none.1 hf info hm) (by simp)
  | some b =>
    have hb := List.mem_of_find?_eq_some hf
    have hid : b.id = info.id := by simpa using List.find?_some hf
    rw [List.inj_on_of_nodup_map d.nodup_ids hb hm hid]

/-- A directory is determined by what it finds. -/
theorem members_ext {d d' : Directory} (h : ∀ j, d'.get? j = d.get? j) :
    d'.members = d.members := by
  refine Ascending.ext (List.Perm.eq_of_pairwise (fun a b _ _ hab hba => ?_) d'.members.pairwise
    d.members.pairwise ?_)
  · exact absurd hba (Nat.lt_asymm hab)
  · refine (List.perm_ext_iff_of_nodup d'.nodup_ids.of_map d.nodup_ids.of_map).2 fun info => ?_
    rw [mem_members_iff, mem_members_iff, h]

end Directory

namespace Server

variable {s₀ s s₁ s' : Server} {evs evs' : List ServerEvent} {id i j : EndpointId}
  {socket : SocketId} {settings : Settings} {now : Int} {B B' : Book} {op : Operation}
  {k' : Socket} {c : Completion} {held : Nat}

/-- An operation on the socket fails. -/
def FailsOn (socket : SocketId) (ev : ServerEvent) : Prop :=
  ∃ i c e order, ev = .complete socket i c order ∧ c.result = .error e

/-! ## One failure -/

theorem Sound.nextId_resumeStarved (hs : Sound B [] held s) (order : VisitingOrder) :
    (s.resumeStarved order).directory.nextId = s.directory.nextId :=
  (later_clearStarved hs).sound.nextId_foldl_resume _

/-- Unless the completion delivers a connection, nobody is registered. -/
theorem Arrives.nextId_complete (h : Arrives B B' s socket i op k' c) (hs : Sound B [] held s)
    (hc : c.delivered? = none) :
    ((s.modifySocket socket fun _ => k').complete i c).directory.nextId = s.directory.nextId := by
  obtain ⟨s', hh, he⟩ := h.handles hs
  rw [he, nextId_retire]
  cases hh with
  | acts ha => rw [ha.directory, h.touches.directory]
  | turnsAway ha | opens _ ha => cases hc.symm.trans ha

/-! ## Runs -/

/-- While operations of a closing endpoint fail, the other endpoints are left alone, provided that
nothing is owed to them. -/
theorem Run.failing (h0 : Server.ofSettings settings now = .ok s₀) (h : Run s₀ evs s)
    (hid : id < s.directory.nextId) (hsocket : (s.endpoints.get id).socket = socket)
    (hd : ∀ j < s.directory.nextId, (s.endpoints.get j).deferred = 0)
    (h' : Run s evs' s') (hfail : ∀ ev ∈ evs', FailsOn socket ev) :
    (∀ j < s.directory.nextId, j ≠ id → Keeps j s s') ∧
      s'.directory.nextId = s.directory.nextId ∧ completed evs' id = evs'.length := by
  induction h' with
  | start => exact ⟨fun j _ _ => .refl j s, rfl, rfl⟩
  | @snoc evs' s' ev hr hp ih =>
    obtain ⟨hkeeps, hnext, hcount⟩ := ih fun ev hev => hfail ev (List.mem_append_left _ hev)
    obtain ⟨i, c, e, order, rfl, hres⟩ := hfail ev (List.mem_append_right _ List.mem_cons_self)
    have hr' := h.trans hr
    have hs' := hr'.sound h0
    obtain ⟨⟨op, k', ht, hret⟩, hf⟩ := hp
    obtain ⟨id', ha⟩ := hs'.arrives hr' ht hret order
    have hc := delivered?_of_error hres
    -- the operation is one of the closing endpoint, whose socket nobody else has
    obtain rfl : id' = id := by
      refine hs'.socket_inj id' (hs'.lt_nextId ha.registered) id (hnext ▸ hid) ?_
      rw [ha.owner, ((h.grows h0 hr).endpoint id hid).socket, hsocket]
    have hl := handled_complete ha hs' (ha.informs hr' hs' hf)
    rw [step_complete ht, ha.handle_eq]
    refine ⟨fun j hj hji => ?_, ?_, ?_⟩
    · have hj' : j < s'.directory.nextId := hnext ▸ hj
      have hk := (hkeeps j hj hji).trans (ha.keeps_complete hs' hj' hji hf)
      have hj'' := Nat.lt_of_lt_of_le hj' hl.grows.nextId
      refine hk.trans (keeps_resumeStarved hl.sound hj'' ?_ order)
      rw [hk.endpoint]
      exact hd j hj
    · rw [hl.sound.nextId_resumeStarved, ha.nextId_complete hs' hc, hnext]
    · rw [completed_append_complete hret ha.runs, if_pos rfl, hcount, List.length_append,
        List.length_singleton]

/-! ## The end of the endpoint -/

theorem Keeps.load (h : Keeps j s s') : (s'.link j).load = (s.link j).load :=
  load_link_congr (by rw [h.endpoint]) (by rw [h.endpoint]) fun kind => by rw [h.socket]

/-- Since nothing is posted on a closed socket, each failure leaves one operation less in flight. -/
theorem Run.length_inFlight_failing (h0 : Server.ofSettings settings now = .ok s₀)
    (h : Run s₀ evs s) (hid : id < s.directory.nextId)
    (hclosed : (s.sockets.get (s.endpoints.get id).socket).closed) (h' : Run s evs' s')
    (hcount : completed evs' id = evs'.length) :
    (s'.sockets.get (s.endpoints.get id).socket).inFlight.length + evs'.length =
      (s.sockets.get (s.endpoints.get id).socket).inFlight.length := by
  have hs := h.sound h0
  have hs' := (h.trans h').sound h0
  have hg := h.grows h0 h'
  have hid' := Nat.lt_of_lt_of_le hid hg.nextId
  obtain ⟨n, hn⟩ := (hs'.orderly_all _).closes ((hs.orderly_all _).closed_iff.1 hclosed)
    (hg.history (s.endpoints.get id).socket)
  have htaken := Socket.taken_closes hn
  have hbefore := (hs.endpoint hid).tallied.taken
  have hafter := (hs'.endpoint hid').tallied.taken
  rw [(hg.endpoint id hid).socket] at hafter
  have hdone : ((book s₀ evs).of (s.endpoints.get id)).done = completed evs id :=
    congrArg (completed evs) (hs.id_eq id hid)
  have hdone' : ((book s₀ (evs ++ evs')).of (s'.endpoints.get id)).done =
      completed evs id + completed evs' id := by
    refine (congrArg (completed (evs ++ evs')) (hs'.id_eq id hid')).trans ?_
    unfold completed
    rw [completions_append, List.countP_append]
  omega

/-- A closing endpoint with nothing in flight is not registered. -/
theorem Sound.notMem_ids (hs : Sound B [] held s) (hc : (s.endpoints.get id).closing)
    (hq : (s.sockets.get (s.endpoints.get id).socket).inFlight.length = 0) :
    id ∉ s.directory.ids := by
  intro hm
  obtain ⟨hid, hd⟩ := (hs.mem_ids id).1 hm
  have hpos := hs.live id hid List.not_mem_nil hc hd
  rw [(hs.endpoint hid).lifecycle.outstanding, hq] at hpos
  exact absurd hpos (by decide)

/-- One endpoint came and went, and the others were left alone. -/
theorem Sound.restored (hs : Sound B [] held s) (hs' : Sound B' [] held s')
    (hkeeps : ∀ j < s.directory.nextId, Keeps j s s')
    (hnext : s'.directory.nextId = s.directory.nextId + 1)
    (hgone : s.directory.nextId ∉ s'.directory.ids) :
    s'.directory.members = s.directory.members ∧ s'.pool.outstanding = s.pool.outstanding := by
  have hnone {d : Directory} {j : EndpointId} (hn : j ∉ d.ids) : d.get? j = none := by
    rw [← Directory.contains_iff, Directory.contains, Option.isSome_iff_ne_none] at hn
    exact not_not.1 hn
  have hlast : s.directory.nextId < s'.directory.nextId := hnext ▸ Nat.lt_succ_self _
  refine ⟨Directory.members_ext fun j => ?_, ?_⟩
  · rcases Nat.lt_or_ge j s.directory.nextId with hj | hj
    · exact (hkeeps j hj).entry
    · rw [hnone fun hm => Nat.not_lt.2 hj (hs.lt_nextId hm), hnone fun hm => ?_]
      have hlt := hnext ▸ hs'.lt_nextId hm
      exact hgone (Nat.le_antisymm hj (Nat.lt_succ_iff.1 hlt) ▸ hm)
  · rw [hs'.funds.outstanding, hs.funds.outstanding]
    unfold Server.load
    rw [hnext, Finset.sum_range_succ, hs'.load_link_eq_zero hlast hgone, Nat.add_zero,
      Finset.sum_congr rfl fun j hj => (hkeeps j (Finset.mem_range.1 hj)).load]

end Server

end OrderedEcho
