import OrderedEcho.Inbox
import OrderedEcho.Proofs.Link.Gains
import OrderedEcho.Proofs.Link.Sound
import OrderedEcho.Proofs.Resequencing

/-!
# Receives that are answered

As long as its socket refuses nothing, an endpoint that fills a slot sends what its resequencer
releases, and nothing else happens to it (`Ships`).  So a completed receive after which the endpoint
goes on comes to two things: its entry is taken and what is next is sent, and a new receive is
started (`answers_received`).
-/

namespace OrderedEcho

/-- What fills the slot of a completed receive, if its endpoint goes on. -/
def Completion.answer (c : Completion) : Entry Operation :=
  match c.result with
  | .ok n => .data (c.operation.truncate n).becomeSend
  | .error _ => .skip

/-- An endpoint goes on after a receive with this result.  The end of a stream closes it, and a
failed receive does, except on a datagram socket. -/
def EndpointKind.GoesOn : EndpointKind → Except IoError Nat → Prop
  | .datagram, _ => True
  | .stream, .ok n => n ≠ 0
  | _, _ => False

/-- The operations that the entries hold. -/
def contents (es : List (Slot × Entry Operation)) : List Operation :=
  es.filterMap fun w => w.2.data?

theorem contents_cons (w : Slot × Entry Operation) (es : List (Slot × Entry Operation)) :
    contents (w :: es) = w.2.data?.toList ++ contents es := by
  unfold contents
  rw [List.filterMap_cons]
  cases w.2.data? with
  | none => rfl
  | some op => rfl

theorem contents_append (es es' : List (Slot × Entry Operation)) :
    contents (es ++ es') = contents es ++ contents es' := List.filterMap_append

namespace Link

variable {L : Ledger} {l l' l₁ : Link} {es out : List (Slot × Entry Operation)} {t : Slot}
  {x : Entry Operation} {op : Operation} {c : Completion}

/-- The resequencer took the entries `es`, and what it released was sent. -/
structure Ships (es out : List (Slot × Entry Operation)) (l l' : Link) : Prop where
  resequences : Resequencer.Resequences es out l.endpoint.resequencer l'.endpoint.resequencer
  nextReceive : l'.endpoint.resequencer.nextReceive = l.endpoint.resequencer.nextReceive
  endpoint : l'.endpoint = { l.endpoint with
    outstanding := l.endpoint.outstanding + (contents out).length
    resequencer := l'.endpoint.resequencer }
  socket : l.socket.Begins .send (contents out) l'.socket
  limit : l'.pool.limit = l.pool.limit

/-! ## Sending -/

theorem ships_of_release? (h : l.endpoint.resequencer.release? = none)
    (hs : ∀ t ∈ l.endpoint.resequencer.slots, l.endpoint.resequencer.nextSend ≤ t) :
    Ships [] [] l l :=
  ⟨Resequencer.resequences_of_release? h hs, rfl, rfl, .refl _ _, rfl⟩

/-- The first entry was released and sent before. -/
theorem Ships.release {r : Resequencer Operation}
    (hr : l.endpoint.resequencer.release? = some ((t, x), r))
    (he : l₁.endpoint = { l.endpoint with
      outstanding := l.endpoint.outstanding + x.data?.toList.length, resequencer := r })
    (hk : l.socket.Begins .send x.data?.toList l₁.socket) (hl : l₁.pool.limit = l.pool.limit)
    (h : Ships es out l₁ l') : Ships es ((t, x) :: out) l l' := by
  have hres : l₁.endpoint.resequencer = r := by rw [he]
  refine ⟨h.resequences.release (hres ▸ hr), ?_, ?_, ?_, h.limit.trans hl⟩
  · rw [h.nextReceive, hres]
    exact (Resequencer.release?_eq_some_iff.1 hr).2.2.2
  · rw [h.endpoint, he, contents_cons, List.length_append, Nat.add_assoc]
  · rw [contents_cons]
    exact hk.trans h.socket

/-- An operation is sent, or the socket refuses it. -/
theorem begins_send (hd : l.endpoint.destroyed = false) (op : Operation) :
    ((l.send op).2.endpoint = l.endpoint.start ∧ l.socket.Begins .send [op] (l.send op).2.socket ∧
      (l.send op).2.pool = l.pool) ∨ l.socket.RefusedSince (l.send op).2.socket := by
  unfold send
  rw [if_neg (by rw [hd]; decide)]
  split
  · next socket hp => exact Or.inl ⟨rfl, (Socket.took_of_post hp).begins, rfl⟩
  · next e socket hp =>
    have href := (Socket.refused_of_post hp).refusedSince
    refine Or.inr ?_
    dsimp only
    split
    · exact href
    · exact href.mono List.prefix_rfl (Grows.close (release { l with socket } op) true).history

theorem ships_drainUpTo (hd : l.endpoint.destroyed = false) (n : Nat)
    (hn : l.endpoint.resequencer.waiting.toList.length ≤ n)
    (hs : ∀ t ∈ l.endpoint.resequencer.slots, l.endpoint.resequencer.nextSend ≤ t) :
    (∃ out, Ships [] out l (l.drainUpTo n).2) ∨ l.socket.RefusedSince (l.drainUpTo n).2.socket := by
  induction n generalizing l with
  | zero =>
    have hw : l.endpoint.resequencer.waiting.toList = [] := List.eq_nil_of_length_eq_zero (by omega)
    refine Or.inl ⟨[], ships_of_release? ?_ hs⟩
    unfold Resequencer.release?
    rw [Ascending.uncons?_eq_none_iff.2 hw]
  | succ n ih =>
    unfold drainUpTo
    split
    · next h => exact Or.inl ⟨[], ships_of_release? h hs⟩
    · next t x r h =>
      have hrest := Resequencer.le_slots_of_release? h
      have hr : r.waiting.toList.length ≤ n := by
        rw [(Resequencer.release?_eq_some_iff.1 h).2.1, List.length_cons] at hn
        omega
      cases x with
      | skip =>
        rcases ih (l := { l with endpoint := { l.endpoint with resequencer := r } }) hd hr hrest
          with ⟨out, ho⟩ | href
        · refine Or.inl ⟨_, .release h ?_ ?_ ?_ ho⟩
          · rfl
          · exact .refl _ _
          · rfl
        · exact Or.inr href
      | data op =>
        rcases begins_send (l := { l with endpoint := { l.endpoint with resequencer := r } }) hd op
          with ⟨he, hk, hp⟩ | href
        · have hres := congrArg Endpoint.resequencer he
          rcases ih (by rw [he]; exact hd) (by rw [hres]; exact hr) (by rw [hres]; exact hrest)
            with ⟨out, ho⟩ | href
          · exact Or.inl ⟨_, ho.release h he hk (by rw [hp])⟩
          · exact Or.inr (href.mono hk.history_prefix List.prefix_rfl)
        · exact Or.inr (href.mono List.prefix_rfl (spares_drainUpTo n _).history)

/-- An entry that the resequencer takes is held back, and nothing else happens. -/
theorem park_of_insert (ha : l.endpoint.aborted = false) {r : Resequencer Operation}
    (hi : l.endpoint.resequencer.insert t x = .ok r) :
    l.park t x = { l with endpoint := { l.endpoint with resequencer := r } } := by
  unfold park
  rw [if_neg (by rw [ha]; decide), hi]

theorem ships_fill (hs : Accounted l.endpoint l.socket [t] false)
    (ha : l.endpoint.aborted = false) (hd : l.endpoint.destroyed = false) (x : Entry Operation) :
    (∃ out, Ships [(t, x)] out l (l.fill t x)) ∨ l.socket.RefusedSince (l.fill t x).socket := by
  have hacc := hs.accepts ha List.mem_cons_self
  obtain ⟨r, hi⟩ : ∃ r, l.endpoint.resequencer.insert t x = .ok r :=
    ⟨_, Resequencer.insert_eq_ok_iff.2 ⟨hacc, rfl⟩⟩
  have hnext : r.nextSend = l.endpoint.resequencer.nextSend := by
    rw [(Resequencer.insert_eq_ok_iff.1 hi).2]
  have hsorted : ∀ u ∈ r.slots, r.nextSend ≤ u := fun u hu => by
    rw [hnext]
    rcases (Resequencer.mem_slots_of_insert hi).1 hu with rfl | hu
    · exact hacc.1
    · exact (hs.mem_slots hu).2.1
  unfold fill
  rw [park_of_insert ha hi]
  rcases ships_drainUpTo (l := { l with endpoint := { l.endpoint with resequencer := r } }) hd _
    (Nat.le_refl _) hsorted with ⟨out, ho⟩ | href
  · refine Or.inl ⟨out, .insert hi ho.resequences, ho.nextReceive.trans ?_, ho.endpoint,
      ho.socket, ho.limit⟩
    rw [(Resequencer.insert_eq_ok_iff.1 hi).2]
  · exact Or.inr href

/-! ## Answering -/

/-- A new receive is posted for the one that completed, and there is nothing to settle. -/
theorem gains_settle {y : PostResult × Link}
    (h : (y.1 = .ok () ∧ ∃ op, Gains [op] l y.2) ∨ l.socket.RefusedSince y.2.socket)
    (hr : ¬ l.socket.RefusedSince (settle y).2.socket) :
    (settle y).1 = false ∧ ∃ op, Gains [op] l (settle y).2 := by
  obtain ⟨res, l'⟩ := y
  rcases h with ⟨hok, hg⟩ | href
  · obtain rfl : res = .ok () := hok
    exact ⟨rfl, hg⟩
  · exact absurd (href.mono List.prefix_rfl (grows_settle res l').history) hr

/-- Without a limit, a new receive is started unless the socket refuses it. -/
theorem gains_postNewReceive_of_limit (hnr : ¬ l.Refuses) (hl : l.pool.limit = none) :
    (l.postNewReceive.1 = .ok () ∧ ∃ op, Gains [op] l l.postNewReceive.2) ∨
      l.socket.RefusedSince l.postNewReceive.2.socket :=
  (gains_postNewReceive hnr).imp_right fun h => by
    obtain ⟨op, e, -, hs⟩ := h.resolve_left fun ⟨_, _, hx⟩ => hx hl
    exact hs.refusedSince

/-- Filling the slot may close the endpoint, and otherwise it posts a new receive. -/
theorem echo_cases (l : Link) (op : Operation) (t : Slot) (n : Nat) :
    let l₁ := l.fill t (.data (op.truncate n).becomeSend)
    (l₁.endpoint.closing = true ∧ l.echo op t n = (false, l₁)) ∨
      l.echo op t n = settle l₁.postNewReceive := by
  unfold echo
  dsimp only
  split
  · next hc => exact Or.inl ⟨hc, rfl⟩
  · exact Or.inr rfl

/-- A receive that is not the end of a stream is echoed. -/
theorem received_ok {n : Nat} (hgo : l.endpoint.kind.GoesOn (.ok n)) :
    l.received op t (.ok n) = l.echo op t n := by
  unfold received
  split
  · next hk h =>
    rw [hk] at hgo
    exact absurd (Except.ok.inj h) hgo
  · next h _ =>
    cases h
    rfl
  · next h => cases h
  · next h _ => cases h

/-- A failed receive is posted again, if the endpoint goes on after it. -/
theorem received_error {e : IoError} (hc : l.endpoint.closing = false)
    (hgo : l.endpoint.kind.GoesOn (.error e)) :
    l.received op t (.error e) = settle ((l.fill t .skip).postReceive op) := by
  have hk : l.endpoint.kind = .datagram := by
    cases hkind : l.endpoint.kind with
    | datagram => rfl
    | listener | stream =>
      rw [hkind] at hgo
      exact hgo.elim
  unfold received
  rw [hk]
  dsimp only
  unfold retry
  rw [if_neg (by rw [hc]; decide)]

/-- The endpoint fills the slot of the receive.  Then it posts a new one, unless filling the slot
has closed it. -/
theorem received_cases (hc : l.endpoint.closing = false)
    (hgo : l.endpoint.kind.GoesOn c.result) :
    let l₁ := l.fill t c.answer
    (l₁.endpoint.closing = true ∧ l.received c.operation t c.result = (false, l₁)) ∨
      ∃ y, l.received c.operation t c.result = settle y ∧
        (y = l₁.postNewReceive ∨ y = l₁.postReceive c.operation) := by
  unfold Completion.answer
  cases hr : c.result with
  | ok n =>
    rw [hr] at hgo
    rw [received_ok hgo]
    exact (echo_cases l c.operation t n).imp_right fun he => ⟨_, he, Or.inl rfl⟩
  | error e =>
    rw [hr] at hgo
    exact Or.inr ⟨_, received_error hc hgo, Or.inr rfl⟩

theorem grows_received (hc : l.endpoint.closing = false) (hd : l.endpoint.destroyed = false)
    (hgo : l.endpoint.kind.GoesOn c.result) :
    Grows (l.fill t c.answer) (l.received c.operation t c.result).2 := by
  have hd₁ := (spares_fill l t c.answer).destroyed.trans hd
  obtain ⟨-, hy⟩ | ⟨⟨res, l'⟩, hy, hpost | hpost⟩ := received_cases (t := t) hc hgo
  · rw [hy]
    exact .refl _
  · rw [hy]
    exact (hpost ▸ posted_postNewReceive hd₁ : Posted _ _ _).grows.trans (grows_settle res l')
  · rw [hy]
    exact (hpost ▸ posted_postReceive hd₁ c.operation : Posted _ _ _).grows.trans
      (grows_settle res l')

/-- The entry of the receive is taken and what is next is sent, and a new receive is started, unless
the socket refuses something. -/
theorem answers_received (hs : Sound L l.endpoint l.socket [t] false)
    (hc : l.endpoint.closing = false) (hl : l.pool.limit = none)
    (hgo : l.endpoint.kind.GoesOn c.result)
    (hr : ¬ l.socket.RefusedSince (l.received c.operation t c.result).2.socket) :
    (l.received c.operation t c.result).1 = false ∧
      ∃ out l₁ op, Ships [(t, c.answer)] out l l₁ ∧
        Gains [op] l₁ (l.received c.operation t c.result).2 := by
  have hd := hs.lifecycle.destroyed_of_open hc
  have hgrows := (grows_received (t := t) hc hd hgo).history
  have hcases := received_cases (t := t) hc hgo
  have hships := ships_fill hs.accounted (hs.lifecycle.aborted_of_open hc) hd c.answer
  have hd₁ := (spares_fill l t c.answer).destroyed.trans hd
  generalize l.fill t c.answer = l₁ at hgrows hcases hships hd₁
  obtain ⟨out, ho⟩ := hships.resolve_right fun href => hr (href.mono List.prefix_rfl hgrows)
  have hopen : l₁.endpoint.closing = false := by
    rw [ho.endpoint]
    exact hc
  obtain ⟨hx, -⟩ | ⟨y, hy, hpost⟩ := hcases
  · exact absurd (hopen.symm.trans hx) (by decide)
  · have hnr := not_refuses hopen hd₁
    have hgain : (y.1 = .ok () ∧ ∃ op, Gains [op] l₁ y.2) ∨ l₁.socket.RefusedSince y.2.socket := by
      rcases hpost with rfl | rfl
      · exact gains_postNewReceive_of_limit hnr (ho.limit.trans hl)
      · exact (gains_postReceive hnr c.operation).imp_right fun ⟨_, _, _, hs⟩ => hs.refusedSince
    rw [hy] at hr ⊢
    obtain ⟨hwaits, op, hg⟩ := gains_settle hgain fun hx =>
      hr (hx.mono ho.socket.history_prefix List.prefix_rfl)
    exact ⟨hwaits, out, l₁, op, ho, hg⟩

end Link

/-! ## What a number of answered receives comes to -/

namespace Endpoint

variable {e e' e'' e₁ e₂ : Endpoint} {k k' k'' k₁ k₂ : Socket}
  {es es' out out' out₁ out₂ : List (Slot × Entry Operation)} {n m : Nat}

/-- The endpoint without what changes when receives are answered. -/
def frame (e : Endpoint) : Endpoint :=
  { e with outstanding := 0, deferred := 0, resequencer := .ofFirst 0 }

theorem ext_frame (hf : e.frame = e'.frame) (ho : e.outstanding = e'.outstanding)
    (hd : e.deferred = e'.deferred) (hr : e.resequencer = e'.resequencer) : e = e' := by
  obtain ⟨info, socket, outstanding, closing, aborted, destroyed, deferred, rejected, r⟩ := e
  obtain ⟨info', socket', outstanding', closing', aborted', destroyed', deferred', rejected', r'⟩ := e'
  unfold frame at hf
  simp_all

/-- Endpoints with the same frame agree in all that does not change. -/
theorem of_frame {β : Type} {f : Endpoint → β} (hf : ∀ e, f e.frame = f e)
    (h : e'.frame = e.frame) : f e' = f e := by
  rw [← hf e', h, hf]

/-- A receive in each slot of `es` completed and was answered: `out` was released and sent, and `n`
receives were started.  These are as many as completed, and those that were owed before. -/
structure Answers (es out : List (Slot × Entry Operation)) (n : Nat) (e : Endpoint) (k : Socket)
    (e' : Endpoint) (k' : Socket) : Prop where
  frame : e'.frame = e.frame
  resequences : Resequencer.Resequences es out e.resequencer e'.resequencer
  nextReceive : e'.resequencer.nextReceive = e.resequencer.nextReceive + n
  outstanding : e'.outstanding + es.length = e.outstanding + (contents out).length + n
  deferred : e'.deferred + n = e.deferred + es.length
  settled : e'.deferred = if es = [] then e.deferred else 0
  sends : k'.handed .send = k.handed .send ++ contents out
  receives : (k'.handed .receive).map Operation.slot = (k.handed .receive).map Operation.slot ++
    (List.range' e.resequencer.nextReceive n).map some

theorem Answers.refl (h : ∀ w ∈ e.resequencer.waiting.toList, e.resequencer.nextSend < w.1) :
    Answers [] [] 0 e k e k :=
  ⟨rfl, .refl h, rfl, rfl, rfl, rfl, (List.append_nil _).symm, (List.append_nil _).symm⟩

/-- A receive comes back, its slot is filled, a new one is started, and then those that were owed. -/
theorem answers_completed {l₁ l₂ : Link} {p : Pool} {t : Slot} {x : Entry Operation}
    {op op' : Operation} {ops : List Operation} (hpos : 0 < e.outstanding)
    (hb : k.GaveBack .receive op k') (ho : Link.Ships [(t, x)] out ⟨e.finish, k', p⟩ l₁)
    (hg : Link.Gains [op'] l₁ l₂) (hc : l₂.endpoint.CatchesUp l₂.socket ops e' k'')
    (hall : ops.length = l₂.endpoint.deferred) :
    Answers [(t, x)] out (e.deferred + 1) e k e' k'' := by
  have he₁ : l₁.endpoint = { e.finish with
      outstanding := e.finish.outstanding + (contents out).length
      resequencer := l₁.endpoint.resequencer } := ho.endpoint
  have he₂ : l₂.endpoint = l₁.endpoint.gain 1 := hg.endpoint
  have he' : e' = { l₂.endpoint.gain ops.length with deferred := 0 } := by
    rw [hc.endpoint, hall, Nat.sub_self]
  have hdef : ops.length = e.deferred := by
    rw [hall, he₂, he₁]
    rfl
  have hnext : l₁.endpoint.resequencer.nextReceive = e.resequencer.nextReceive := ho.nextReceive
  have hnext₂ : l₂.endpoint.resequencer.nextReceive = e.resequencer.nextReceive + 1 := by
    rw [he₂, ← hnext]
    rfl
  have hback := Socket.handed_congr hb.history
  rw [hdef] at he'
  refine ⟨?_, ho.resequences.congr rfl rfl ?_ ?_, ?_, ?_, ?_, ?_, ?_, ?_⟩
  · rw [he', he₂, he₁]
    rfl
  · rw [he', he₂]
    rfl
  · rw [he', he₂]
    rfl
  · rw [he']
    show l₂.endpoint.resequencer.nextReceive + e.deferred = _
    rw [hnext₂, Nat.add_assoc, Nat.add_comm 1]
  · rw [he', he₂, he₁]
    show e.outstanding - 1 + (contents out).length + 1 + e.deferred + 1 = _
    omega
  · rw [he']
    show 0 + (e.deferred + 1) = e.deferred + 1
    omega
  · rw [he']
    rfl
  · rw [hc.socket.handed_of_ne (by decide), hg.socket.handed_of_ne (by decide), ho.socket.handed,
      hback]
  · rw [hc.socket.handed, hg.socket.handed, ho.socket.handed_of_ne (by decide), hback,
      List.map_append, List.map_append, hg.slots, hc.slots, hdef, hnext, hnext₂, List.append_assoc,
      ← List.map_append, List.length_singleton, List.range'_append_1, Nat.add_comm 1]

theorem Answers.trans (h : Answers es out n e k e' k') (h' : Answers es' out' m e' k' e'' k'') :
    Answers (es ++ es') (out ++ out') (n + m) e k e'' k'' := by
  have ho := h.outstanding
  have ho' := h'.outstanding
  have hd := h.deferred
  have hd' := h'.deferred
  refine ⟨h'.frame.trans h.frame, h.resequences.trans h'.resequences, ?_, ?_, ?_, ?_, ?_, ?_⟩
  · rw [h'.nextReceive, h.nextReceive, Nat.add_assoc]
  · rw [contents_append, List.length_append, List.length_append]
    omega
  · rw [List.length_append]
    omega
  · rw [h'.settled, h.settled]
    by_cases hes' : es' = []
    · rw [if_pos hes', hes', List.append_nil]
    · rw [if_neg hes', if_neg fun hx => hes' (List.append_eq_nil_iff.1 hx).2]
  · rw [h'.sends, h.sends, contents_append, List.append_assoc]
  · rw [h'.receives, h.receives, h.nextReceive, List.append_assoc, ← List.map_append,
      List.range'_append_1]

/-- The order in which the receives completed does not show in the result. -/
theorem Answers.unique (h₁ : Answers es out₁ n e k e₁ k₁) (h₂ : Answers es' out₂ m e k e₂ k₂)
    (hp : es.Perm es') : e₁ = e₂ ∧ k₁.handed .send = k₂.handed .send ∧
      (k₁.handed .receive).map Operation.slot = (k₂.handed .receive).map Operation.slot := by
  obtain ⟨rfl, hnext, hwait⟩ := h₁.resequences.unique h₂.resequences hp
  have hlen := hp.length_eq
  have ho₁ := h₁.outstanding
  have ho₂ := h₂.outstanding
  have hd₁ := h₁.deferred
  have hd₂ := h₂.deferred
  have hdef : e₁.deferred = e₂.deferred := by
    rw [h₁.settled, h₂.settled]
    exact if_congr ⟨fun h => (h ▸ hp).nil_eq.symm, fun h => (h ▸ hp).eq_nil⟩ rfl rfl
  obtain rfl : n = m := by omega
  refine ⟨ext_frame (h₁.frame.trans h₂.frame.symm) (by omega) hdef ?_, ?_, ?_⟩
  · exact Resequencer.ext (h₁.nextReceive.trans h₂.nextReceive.symm) hnext hwait
  · rw [h₁.sends, h₂.sends]
  · rw [h₁.receives, h₂.receives]

end Endpoint

end OrderedEcho
