import OrderedEcho.Proofs.Server.Run

/-!
# The end of endpoints

An endpoint counts what is in flight on its socket, and it is destroyed no sooner than that is
nothing (`Run.flight_account`).  It is also destroyed no later than that, if it is closing
(`Run.closing_reclaimed`), so no closing endpoint is left behind.
-/

namespace OrderedEcho

namespace Server

variable {s₀ s s' : Server} {evs evs' : List ServerEvent} {id : EndpointId} {B : Book}
  {busy : List EndpointId} {held : Nat} {settings : Settings} {now : Int}

theorem Sound.at_rest (h : Sound B busy held s) (hid : id < s.directory.nextId)
    (hd : (s.endpoints.get id).destroyed) :
    (s.sockets.get (s.endpoints.get id).socket).inFlight = [] ∧
      (s.endpoints.get id).resequencer.isIdle := by
  have hl := h.endpoint hid
  have h0 := hl.lifecycle.settled hd
  exact ⟨List.eq_nil_of_length_eq_zero (hl.lifecycle.outstanding ▸ h0), hl.isIdle h0⟩

/-- Between acts, a closing endpoint with nothing in flight was destroyed. -/
theorem Sound.destroyed_of_quiet (h : Sound B [] held s) (hid : id < s.directory.nextId)
    (hc : (s.endpoints.get id).closing)
    (hn : (s.sockets.get (s.endpoints.get id).socket).inFlight = []) :
    (s.endpoints.get id).destroyed := by
  by_contra hd
  have hpos := h.live id hid List.not_mem_nil hc (by simpa using hd)
  rw [(h.endpoint hid).lifecycle.outstanding, hn] at hpos
  exact absurd hpos (by decide)

/-- An endpoint counts the operations that its socket started and whose completions were not handled
yet.  It is registered until it is destroyed; then nothing is in flight and nothing waits, and that
stays so. -/
theorem Run.flight_account (h0 : Server.ofSettings settings now = .ok s₀) (h : Run s₀ evs s)
    (hid : id < s.directory.nextId) :
    let e := s.endpoints.get id
    let k := s.sockets.get e.socket
    e.outstanding = k.inFlight.length ∧
    e.outstanding + completed evs id = k.taken ∧
    (id ∈ s.directory.ids ↔ e.destroyed = false) ∧
    (e.destroyed → ∀ evs' s', Run s evs' s' →
      let e' := s'.endpoints.get id
      e'.destroyed ∧ (s'.sockets.get e'.socket).inFlight = [] ∧ e'.resequencer.isIdle) := by
  intro e k
  have hs := h.sound h0
  have hl : Link.Sound (book s₀ evs e.toEndpointInfo e.socket) e k [] false := hs.endpoint hid
  have hcompleted : completed evs e.id = completed evs id := by rw [hs.id_eq id hid]
  refine ⟨hl.lifecycle.outstanding, ?_, ?_, fun hd evs' s' h' => ?_⟩
  · rw [hl.lifecycle.outstanding, hl.tallied.taken, ← hcompleted]
    rfl
  · rw [hs.mem_ids id, and_iff_right hid]
  · have hg := h.grows h0 h'
    have hd' := (hg.endpoint id hid).destroyed hd
    exact ⟨hd', ((h.trans h').sound h0).at_rest (Nat.lt_of_lt_of_le hid hg.nextId) hd'⟩

/-- After the visit, the stream is destroyed for good. -/
theorem flight_account_visit :
    let s := afterVisit 4
    (s.endpoints.get 1).destroyed ∧ 1 ∉ s.directory.ids ∧ ∀ evs s', Run s evs s' →
      (s'.endpoints.get 1).destroyed ∧
        (s'.sockets.get (s'.endpoints.get 1).socket).inFlight = [] ∧
        (s'.endpoints.get 1).resequencer.isIdle := by
  have hid : 1 < (afterVisit 4).directory.nextId := by decide
  obtain ⟨-, -, hids, hd⟩ := Run.flight_account ofSettings_visited (run_visit 4) hid
  exact ⟨rfl, fun h => absurd (hids.1 h) (by decide), hd rfl⟩

/-- A closing endpoint that is registered has something in flight.  As soon as it has nothing in
flight, nothing waits either, it is no longer registered, and its socket is closed. -/
theorem Run.closing_reclaimed (h0 : Server.ofSettings settings now = .ok s₀) (h : Run s₀ evs s)
    (hid : id < s.directory.nextId) (hc : (s.endpoints.get id).closing) :
    let e := s.endpoints.get id
    let k := s.sockets.get e.socket
    (id ∈ s.directory.ids → k.inFlight ≠ []) ∧
    (k.inFlight = [] → e.resequencer.isIdle ∧ id ∉ s.directory.ids ∧ k.closed) := by
  intro e k
  have hs := h.sound h0
  have hl : Link.Sound (book s₀ evs e.toEndpointInfo e.socket) e k [] false := hs.endpoint hid
  have hids (hn : k.inFlight = []) : id ∉ s.directory.ids := fun hm =>
    absurd (((hs.mem_ids id).1 hm).2.symm.trans (hs.destroyed_of_quiet hid hc hn)) (by decide)
  refine ⟨fun hm hn => hids hn hm, fun hn => ?_⟩
  have hd := hs.destroyed_of_quiet hid hc hn
  exact ⟨(hs.at_rest hid hd).2, hids hn, hl.lifecycle.closed (Or.inr hd)⟩

/-- During the visit, the stream is closing while its echo is in flight.  After that it is gone. -/
theorem closing_reclaimed_visit :
    ((afterVisit 3).endpoints.get 1).closing ∧ 1 ∈ (afterVisit 3).directory.ids ∧
      ((afterVisit 3).sockets.get 1).inFlight ≠ [] ∧
    ((afterVisit 4).endpoints.get 1).closing ∧ 1 ∉ (afterVisit 4).directory.ids ∧
      ((afterVisit 4).sockets.get 1).closed := by
  have h3 : 1 < (afterVisit 3).directory.nextId := by decide
  have h4 : 1 < (afterVisit 4).directory.nextId := by decide
  have hids : 1 ∈ (afterVisit 3).directory.ids :=
    Directory.contains_iff.1 rfl
  have hgone := (Run.closing_reclaimed ofSettings_visited (run_visit 4) h4 rfl).2 rfl
  exact ⟨rfl, hids, (Run.closing_reclaimed ofSettings_visited (run_visit 3) h3 rfl).1 hids, rfl,
    hgone.2.1, hgone.2.2⟩

end Server

end OrderedEcho
