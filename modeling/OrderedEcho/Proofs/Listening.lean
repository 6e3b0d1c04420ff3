import OrderedEcho.Proofs.FanOut
import OrderedEcho.Proofs.Server.Accepts

/-!
# Endpoints that can act again

An endpoint acts when one of its operations completes or when its deferred receives are retried.  So
one with neither is dead, and if it is registered it stays so forever.  A closing endpoint has an
operation in flight until it is destroyed, and an open stream or datagram endpoint has at least one
receive in flight or deferred.  A listener has its accepts, but they may end one by one
(`Run.accepts_or_alive`), and when the last one has ended the listener is dead (`dead_listener`).
-/

namespace OrderedEcho

namespace Server

variable {B : Book} {busy : List EndpointId} {held : Nat} {s₀ s : Server} {evs : List ServerEvent}
  {id : EndpointId} {settings : Settings} {now : Int}

/-- An endpoint that is not a listener was given at least one receive. -/
theorem Run.fanOut_pos (h0 : Server.ofSettings settings now = .ok s₀) (h : Run s₀ evs s)
    (hid : id < s.directory.nextId) (hk : (s.endpoints.get id).kind ≠ .listener)
    (hc : (s.endpoints.get id).closing = false) : 0 < (s.link id).fanOut := by
  obtain ⟨-, hpos, -⟩ := Settings.check_eq_ok_iff.1 (check_of_ofSettings h0)
  have hset : s₀.settings = settings := (provided_ofSettings h0).2
  have hF : Entitled s₀ evs (s.endpoints.get id).toEndpointInfo (s.endpoints.get id).socket
      (s.link id).fanOut := (h.provided h0).1.fanOut id hid hc
  unfold Entitled at hF
  rw [hset] at hF
  split at hF
  · contradiction
  · rw [hF]
    exact hpos
  · obtain ⟨before, s₁, ev, after, -, -, -, hshare⟩ := hF
    rw [hshare]
    exact Pool.share_pos _ hpos

theorem Sound.outstanding_pos_of_lane (hs : Sound B busy held s) (hid : id < s.directory.nextId)
    (kind : OperationKind)
    (h : 0 < ((s.sockets.get (s.endpoints.get id).socket).lane kind).inFlight.length) :
    0 < (s.endpoints.get id).outstanding := by
  obtain ⟨op, hop⟩ := List.exists_mem_of_length_pos h
  exact hs.outstanding_pos hid hop

/-- An open listener has as many accepts as its fan-out, less those that its socket refused and those
that ended.  A registered endpoint with nothing in flight has deferred receives, unless it is a
listener whose accepts were all refused or have ended. -/
theorem Run.accepts_or_alive (h0 : Server.ofSettings settings now = .ok s₀) (h : Run s₀ evs s)
    (hid : id ∈ s.directory.ids) :
    let e := s.endpoints.get id
    let k := s.sockets.get e.socket
    (e.kind = .listener → e.closing = false →
      (k.lane .accept).inFlight.length + k.refusedAccepts + endedAccepts s₀ evs id =
        settings.fanOut) ∧
    (0 < e.outstanding ∨ 0 < e.deferred ∨ e.kind = .listener ∧ e.closing = false ∧
      k.refusedAccepts + endedAccepts s₀ evs id = settings.fanOut) := by
  intro e k
  have hs := h.sound h0
  obtain ⟨hlt, hdest⟩ := (hs.mem_ids id).1 hid
  have haccepts (hk : e.kind = .listener) (hc : e.closing = false) :
      (k.lane .accept).inFlight.length + k.refusedAccepts + endedAccepts s₀ evs id =
        settings.fanOut := ((h.accepting h0).links id hlt).eq hk hc
  refine ⟨haccepts, ?_⟩
  cases hc : e.closing with
  | true => exact Or.inl (hs.live id hlt List.not_mem_nil hc hdest)
  | false =>
    by_cases hk : e.kind = .listener
    · rcases Nat.eq_zero_or_pos (k.lane .accept).inFlight.length with hnone | hsome
      · have := haccepts hk hc
        exact Or.inr (Or.inr ⟨hk, rfl, by omega⟩)
      · exact Or.inl (hs.outstanding_pos_of_lane hlt .accept hsome)
    · have hpos : 0 < (k.lane .receive).inFlight.length + e.deferred := h.fanOut_pos h0 hlt hk hc
      rcases Nat.eq_zero_or_pos e.deferred with hnone | hsome
      · rw [hnone] at hpos
        exact Or.inl (hs.outstanding_pos_of_lane hlt .receive hpos)
      · exact Or.inr (Or.inl hsome)

/-- An accept of a listener fails for good. -/
def dismissal : ServerEvent := .complete 0 0 {
  operation := { kind := .accept, endpoint := some 0, buffer := ⟨[], 0⟩, capacity := 0 }
  result := .error ⟨.permissionDenied, "not allowed"⟩ } .listed

/-- Of the two accepts of a listener one is left when the other has ended. -/
theorem accepts_or_alive_dismissal :
    let s := (scarce.step (.listen 0 .v4)).step dismissal
    (s.sockets.get 0).accepts.inFlight.length + 1 = 2 ∧ 0 < (s.endpoints.get 0).outstanding := by
  have hf : Fresh scarce 0 := ⟨nofun, rfl⟩
  have hlisten : Run scarce [.listen 0 .v4] (scarce.step (.listen 0 .v4)) := .snoc _ .start hf
  have hp : (scarce.step (.listen 0 .v4)).Possible dismissal :=
    ⟨⟨_, _, rfl, ⟨rfl, rfl, rfl⟩⟩, nofun⟩
  have hid : 0 ∈ ((scarce.step (.listen 0 .v4)).step dismissal).directory.ids :=
    Directory.contains_iff.1 rfl
  obtain ⟨haccepts, halive⟩ := Run.accepts_or_alive ofSettings_scarce (hlisten.snoc _ hp) hid
  refine ⟨haccepts rfl rfl, halive.resolve_right ?_⟩
  rintro (hd | ⟨-, -, hended⟩)
  · exact absurd hd (by decide)
  · exact absurd hended (by decide)

/-- A listener whose only accept has ended is registered and open, and nothing will make it act
again. -/
theorem dead_listener : ¬ ∀ (settings : Settings) (now : Int) (s₀ s : Server)
    (evs : List ServerEvent) (id : EndpointId), Server.ofSettings settings now = .ok s₀ →
    Run s₀ evs s → id ∈ s.directory.ids → 0 < (s.endpoints.get id).outstanding ∨
      (s.endpoints.get id).resequencer.isIdle = false ∨ 0 < (s.endpoints.get id).deferred := by
  intro h
  have hp : (afterVisit 1).Possible dismissal := ⟨⟨_, _, rfl, ⟨rfl, rfl, rfl⟩⟩, nofun⟩
  have hid : 0 ∈ ((afterVisit 1).step dismissal).directory.ids := Directory.contains_iff.1 rfl
  have hdead := h _ _ _ _ _ 0 ofSettings_visited ((run_visit 1).snoc dismissal hp) hid
  exact absurd hdead (by decide)

end Server

end OrderedEcho
