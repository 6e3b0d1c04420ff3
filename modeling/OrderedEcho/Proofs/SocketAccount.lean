import OrderedEcho.Proofs.Server.Run

/-!
# The end of sockets

Nothing is asked of a socket after it was closed, and no socket is forgotten: a socket that was
handed to the server belongs to a registered endpoint, or it is closed (`Run.socket_account`).  It
is closed because its endpoint was aborted or destroyed, or because it never had one: a connection
that arrives while its listener or the server is closing is turned away.
-/

namespace OrderedEcho

namespace Server

variable {s₀ s : Server} {evs : List ServerEvent} {B : Book} {busy : List EndpointId}
  {held : Nat} {i : EndpointId} {k : SocketId} {settings : Settings} {now : Int}

/-- The socket was handed to the server. -/
def Brought (evs : List ServerEvent) (k : SocketId) : Prop := ∃ ev ∈ evs, ev.brings? = some k

/-- An endpoint closes its socket when it is aborted or destroyed, and at no other time. -/
theorem Sound.close_mem_iff (h : Sound B busy held s) (hi : i < s.directory.nextId)
    (hk : (s.endpoints.get i).socket = k) : .close ∈ (s.sockets.get k).history ↔
      (s.endpoints.get i).aborted ∨ (s.endpoints.get i).destroyed := by
  subst hk
  have hl := h.endpoint hi
  rw [← hl.orderly.closed_iff]
  exact ⟨hl.lifecycle.reason, hl.lifecycle.closed⟩

/-- A socket that was handed to the server has got an endpoint, or it was turned away. -/
theorem Run.owned_or_turnedAway (h0 : Server.ofSettings settings now = .ok s₀) (h : Run s₀ evs s)
    (hk : Brought evs k) : Owned s k ∨
      Once s₀ evs (fun s ev => ev.brings? = some k ∧ s.TurnsAway ev) ∧
        .close ∈ (s.sockets.get k).history := by
  induction h with
  | start =>
    obtain ⟨ev, hev, -⟩ := hk
    cases hev
  | @snoc evs s ev hr hp ih =>
    obtain ⟨hl, hplaced⟩ := hr.step (hr.sound h0) hp
    obtain ⟨ev', hev, hb⟩ := hk
    rcases List.mem_append.1 hev with hold | hnew
    · refine (ih ⟨ev', hold, hb⟩).imp hl.grows.owned fun ⟨ho, hc⟩ => ⟨ho.append [ev], ?_⟩
      exact (hl.grows.history k).subset hc
    · obtain rfl := List.mem_singleton.1 hnew
      exact (hplaced k hb).imp_right fun ⟨ht, hc⟩ => ⟨hr.once ⟨hb, ht⟩, hc⟩

/-- Once a socket is closed, nothing but a further close is asked of it.  It is closed if and only
if its endpoint was aborted or destroyed, or it was turned away and has no endpoint.  Otherwise its
endpoint is registered. -/
theorem Run.socket_account (h0 : Server.ofSettings settings now = .ok s₀) (h : Run s₀ evs s)
    (hk : Brought evs k) :
    let socket := s.sockets.get k
    (∀ before after, socket.history = before ++ .close :: after → ∀ x ∈ after, x = .close) ∧
    (socket.closed ↔ .close ∈ socket.history) ∧
    (.close ∈ socket.history ↔
      (∃ id < s.directory.nextId, (s.endpoints.get id).socket = k ∧
        ((s.endpoints.get id).aborted ∨ (s.endpoints.get id).destroyed)) ∨
      (∀ id < s.directory.nextId, (s.endpoints.get id).socket ≠ k) ∧
        Once s₀ evs fun s ev => ev.brings? = some k ∧ s.TurnsAway ev) ∧
    ((∃ id ∈ s.directory.ids, (s.endpoints.get id).socket = k) ∨ .close ∈ socket.history) := by
  intro socket
  have hs := h.sound h0
  have ho : socket.Orderly := hs.orderly_all k
  have hplace := h.owned_or_turnedAway h0 hk
  refine ⟨?_, ho.closed_iff, ?_, ?_⟩
  · intro before after hh x hx
    exact ho.eq_close hh hx
  · constructor
    · intro hc
      by_cases howned : Owned s k
      · obtain ⟨i, hi, he⟩ := howned
        exact Or.inl ⟨i, hi, he, (hs.close_mem_iff hi he).1 hc⟩
      · exact Or.inr ⟨not_owned_iff.1 howned, (hplace.resolve_left howned).1⟩
    · rintro (⟨i, hi, he, hend⟩ | ⟨hunowned, -⟩)
      · exact (hs.close_mem_iff hi he).2 hend
      · exact (hplace.resolve_left (not_owned_iff.2 hunowned)).2
  · rcases hplace with ⟨i, hi, he⟩ | ⟨-, hc⟩
    · cases hd : (s.endpoints.get i).destroyed with
      | false => exact Or.inl ⟨i, (hs.mem_ids i).2 ⟨hi, hd⟩, he⟩
      | true => exact Or.inr ((hs.close_mem_iff hi he).2 (Or.inr hd))
    · exact Or.inr hc

/-- If the server shuts down before the client of the visit comes, the client is turned away. -/
example :
    (([visit[0], .shutdown .listed, visit[1]].foldl step visited).sockets.get 1).closed = true :=
  rfl

/-- During the visit, the socket of the stream is open.  After that it is closed, and the socket of
the listener is not. -/
theorem socket_account_visit :
    .close ∉ ((afterVisit 3).sockets.get 1).history ∧
    .close ∈ ((afterVisit 4).sockets.get 1).history ∧
    ∃ id ∈ (afterVisit 4).directory.ids, ((afterVisit 4).endpoints.get id).socket = 0 := by
  have h3 : Brought (visit.take 3) 1 := ⟨_, List.mem_cons_of_mem _ List.mem_cons_self, rfl⟩
  have h4 : Brought (visit.take 4) 1 := ⟨_, List.mem_cons_of_mem _ List.mem_cons_self, rfl⟩
  have h0 : Brought (visit.take 4) 0 := ⟨_, List.mem_cons_self, rfl⟩
  obtain ⟨-, hopen, -⟩ := Run.socket_account ofSettings_visited (run_visit 3) h3
  obtain ⟨-, hclosed, -⟩ := Run.socket_account ofSettings_visited (run_visit 4) h4
  obtain ⟨-, hlisten, -, hid⟩ := Run.socket_account ofSettings_visited (run_visit 4) h0
  refine ⟨fun hm => absurd (hopen.2 hm) (by decide), hclosed.1 rfl, hid.resolve_right fun hm => ?_⟩
  exact absurd (hlisten.2 hm) (by decide)

end Server

end OrderedEcho
