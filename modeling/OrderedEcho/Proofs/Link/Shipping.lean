import OrderedEcho.Proofs.Link.Lifecycle

/-!
# Sends on their way

Until a stream is aborted, its socket started every send that it was asked for, and a send that was
started is in flight until it comes back.  `Shipped` says both; the predicate `R` says which
operations have come back.
-/

namespace OrderedEcho

namespace Link

variable {P : Slot → Entry Operation → Prop} {R R' : Operation → Prop} {st st' : Stage}
  {e e' : Endpoint} {k k' : Socket} {kind : OperationKind} {op : Operation} {x : IoError}

/-- Sends were started, and are in flight or came back. -/
structure Shipped (R : Operation → Prop) (e : Endpoint) (k : Socket) : Prop where
  started : e.kind ≠ .datagram → e.aborted = false → k.started .send = k.handed .send
  answered : ∀ op ∈ k.started .send, op ∈ (k.lane .send).inFlight ∨ R op

/-- What happens in other lanes does not matter, nor does it if the endpoint is aborted. -/
theorem Shipped.congr (h : Shipped R e k) (hk : e'.kind = e.kind) (ha : e.aborted → e'.aborted)
    (hs : k'.started .send = k.started .send) (hh : k'.handed .send = k.handed .send)
    (hl : (k'.lane .send).inFlight = (k.lane .send).inFlight) : Shipped R e' k' := by
  refine ⟨fun hne hna => ?_, ?_⟩
  · rw [hs, hh]
    refine h.started (hk ▸ hne) (Bool.eq_false_iff.2 fun hx => ?_)
    exact absurd (hna.symm.trans (ha hx)) (by decide)
  · rw [hs, hl]
    exact h.answered

theorem Shipped.mono (h : Shipped R e k) (hR : ∀ op, R op → R' op) : Shipped R' e k :=
  ⟨h.started, fun op hop => (h.answered op hop).imp_right (hR op)⟩

theorem Shipped.took_of_ne (h : Shipped R e k) (hp : k.Took kind op k') (hk : kind ≠ .send)
    (hkind : e'.kind = e.kind) (ha : e.aborted → e'.aborted) : Shipped R e' k' :=
  h.congr hkind ha (hp.started_of_ne hk) (Socket.handed_of_post_ne hp.history hk)
    (hp.lane_of_ne _ (Ne.symm hk))

theorem Shipped.refused_of_ne (h : Shipped R e k) (hp : k.Refused kind op x k')
    (hk : kind ≠ .send) (hkind : e'.kind = e.kind) (ha : e.aborted → e'.aborted) :
    Shipped R e' k' :=
  h.congr hkind ha (hp.started _) (Socket.handed_of_post_ne hp.history hk) (hp.lane _)

theorem Shipped.took (h : Shipped R e k) (hp : k.Took .send op k') (hkind : e'.kind = e.kind)
    (ha : e'.aborted = e.aborted) : Shipped R e' k' := by
  refine ⟨fun hne hna => ?_, ?_⟩
  · rw [hp.started, Socket.handed_of_post hp.history, h.started (hkind ▸ hne) (ha ▸ hna)]
  · rw [hp.started, hp.lane_self]
    intro y hy
    rcases List.mem_append.1 hy with hy | hy
    · exact (h.answered y hy).imp_left (List.mem_append_left _)
    · exact Or.inl (List.mem_append_right _ hy)

/-- A send that is refused on a datagram endpoint, or on one that is aborted, is no exception. -/
theorem Shipped.refused (h : Shipped R e k) (hp : k.Refused .send op x k')
    (hx : e'.kind = .datagram ∨ e'.aborted = true) : Shipped R e' k' := by
  refine ⟨fun hne hna => ?_, ?_⟩
  · rcases hx with hk | ha
    · exact absurd hk hne
    · exact absurd (hna.symm.trans ha) (by decide)
  · rw [hp.started, hp.lane]
    exact h.answered

theorem Shipped.gaveBack (h : Shipped R e k) (hp : k.GaveBack kind op k')
    (hR : ∀ y, R y ∨ y = op → R' y) : Shipped R' e.finish k' := by
  have hs := Socket.started_congr hp.history .send
  refine ⟨?_, fun y hy => ?_⟩
  · rw [hs, Socket.handed_congr hp.history]
    exact h.started
  · rcases h.answered y (hs ▸ hy) with hy | hy
    · exact (hp.mem_or_eq hy).imp_right fun he => hR y (Or.inr he)
    · exact Or.inr (hR y (Or.inl hy))

theorem Shipped.close {l : Link} (h : Shipped R l.endpoint l.socket) (fatal : Bool) :
    Shipped R (l.close fatal).endpoint (l.close fatal).socket :=
  h.congr (congrArg EndpointInfo.kind (Grows.close l fatal).info) (Grows.close l fatal).aborted
    (started_close l fatal .send) (handed_close l fatal .send) (inFlight_close l fatal .send)

theorem Shipped.move (h : Move P st st') (hs : Shipped R st.link.endpoint st.link.socket) :
    Shipped R st'.link.endpoint st'.link.socket := by
  cases h with
  | allocate | release | equip | forget | rest => exact hs
  | reject | park | pass | sendLost | defer => exact hs.congr rfl id rfl rfl rfl
  | receive _ hp => exact hs.took_of_ne hp (by decide) rfl id
  | accept _ hp => exact hs.took_of_ne hp (by decide) rfl id
  | receiveRefused _ hp => exact hs.refused_of_ne hp (by decide) rfl id
  | acceptRefused _ hp => exact hs.refused_of_ne hp (by decide) rfl id
  | send _ _ hp => exact hs.took hp rfl rfl
  | sendRefused _ hk _ hp => exact hs.refused hp (Or.inl hk)
  | @sendFatal l _ _ _ _ _ r _ socket _ _ hp =>
    have hk : Shipped R { l.endpoint with resequencer := r, aborted := true } socket :=
      hs.refused hp (Or.inr rfl)
    exact (Shipped.close (l := ⟨_, _, l.pool⟩) hk true).congr rfl id rfl rfl rfl
  | close fatal _ => exact hs.close fatal

end Link

end OrderedEcho
