import Mathlib.Data.List.Induction
import OrderedEcho.Proofs.Link.Answers
import OrderedEcho.Proofs.Socket.Replies

/-!
# What a drain sends

A drain lets go exactly the entries that are next: those whose slots follow one another from the
slot that is to be released (`Resequencer.Splits`).  If the socket takes their sends, or if the
endpoint is a datagram one, they are all consumed (`Link.Sends`).  Otherwise the first refused send
is the last one, and everything after it is given up (`Link.Breaks`).

Nothing is assumed of the socket, which may be closed, nor of the endpoint, except that it was not
destroyed.
-/

namespace OrderedEcho

namespace Resequencer

variable {α : Type} {r : Resequencer α} {w : Slot × Entry α} {run rest : List (Slot × Entry α)}

/-- The slots of `run` follow one another from the slot that is next, and `rest` waits behind a
gap. -/
structure Splits (r : Resequencer α) (run rest : List (Slot × Entry α)) : Prop where
  waiting : r.waiting.toList = run ++ rest
  slots : run.map Prod.fst = List.range' r.nextSend run.length
  gap : r.nextSend + run.length ∉ rest.map Prod.fst

theorem Splits.release?_nil (h : r.Splits [] rest) : r.release? = none := by
  cases hr : r.release? with
  | none => rfl
  | some x =>
    obtain ⟨w, r'⟩ := x
    have hslots : r.slots = rest.map Prod.fst := congrArg (List.map Prod.fst) h.waiting
    refine absurd ?_ h.gap
    rw [← hslots, slots_of_release? hr, ← (release?_eq_some_iff.1 hr).1]
    exact List.mem_cons_self

theorem Splits.release?_cons (h : r.Splits (w :: run) rest) :
    ∃ r', r.release? = some (w, r') ∧ r'.Splits run rest := by
  have hp := r.waiting.pairwise
  have hwait := h.waiting
  rw [List.cons_append] at hwait
  rw [hwait] at hp
  have hslots := h.slots
  rw [List.map_cons, List.length_cons, List.range'_succ, List.cons.injEq] at hslots
  refine ⟨⟨r.nextReceive, r.nextSend + 1, ⟨run ++ rest, (List.pairwise_cons.1 hp).2⟩⟩, ?_, rfl,
    hslots.2, ?_⟩
  · exact release?_eq_some_iff.2 ⟨hslots.1, hwait, congrArg (· + 1) hslots.1.symm, rfl⟩
  · have hgap := h.gap
    rwa [List.length_cons, Nat.add_comm run.length, ← Nat.add_assoc] at hgap

/-- The entries that are next can be told from the others. -/
theorem exists_splits (hs : ∀ t ∈ r.slots, r.nextSend ≤ t) : ∃ run rest, r.Splits run rest := by
  induction hw : r.waiting.toList generalizing r with
  | nil => exact ⟨[], [], hw, rfl, List.not_mem_nil⟩
  | cons w ws ih =>
    cases hr : r.release? with
    | none => exact ⟨[], r.waiting.toList, rfl, rfl, nextSend_notMem_slots hr hs⟩
    | some x =>
      obtain ⟨w', r'⟩ := x
      obtain ⟨hfst, hcons, hnext, -⟩ := release?_eq_some_iff.1 hr
      have hws : r'.waiting.toList = ws := (List.cons.inj (hcons.symm.trans hw)).2
      obtain ⟨run, rest, h⟩ := ih (le_slots_of_release? hr) hws
      refine ⟨w' :: run, rest, ?_, ?_, ?_⟩
      · rw [hcons, h.waiting, List.cons_append]
      · rw [List.map_cons, h.slots, List.length_cons, List.range'_succ, hnext, hfst]
      · have hgap := h.gap
        rwa [hnext, hfst, Nat.add_assoc, Nat.add_comm 1] at hgap

end Resequencer

namespace Link

variable {l l' l'' l₁ : Link} {w : Slot × Entry Operation} {op : Operation} {t : Slot} {x : IoError}
  {es es' run rest after : List (Slot × Entry Operation)} {r : Resequencer Operation} {n : Nat}

/-- The entries `es` were released, and the socket was asked to send what they hold.  What it
refused is back in the pool. -/
structure Sends (es : List (Slot × Entry Operation)) (l l' : Link) : Prop where
  waiting : l.endpoint.resequencer.waiting.toList = es ++ l'.endpoint.resequencer.waiting.toList
  nextSend : l'.endpoint.resequencer.nextSend = l.endpoint.resequencer.nextSend + es.length
  nextReceive : l'.endpoint.resequencer.nextReceive = l.endpoint.resequencer.nextReceive
  endpoint : l'.endpoint = { l.endpoint with
    outstanding := l.endpoint.outstanding +
      (Reply.accepted (l.socket.replies .send (contents es))).length
    resequencer := l'.endpoint.resequencer }
  socket : l.socket.Asked .send (contents es) l'.socket
  pool : l'.pool =
    (Reply.refused (l.socket.replies .send (contents es))).foldl Pool.release l.pool

/-- The entries `es` were released and sent, and the socket refused what slot `t` held.  That closed
the endpoint and its socket, and `lost` was given up. -/
structure Breaks (es : List (Slot × Entry Operation)) (t : Slot) (op : Operation)
    (lost : List (Slot × Entry Operation)) (l l' : Link) : Prop where
  took : ∀ n < (contents es).length, l.socket.answer .send n = none
  refused : l.socket.answer .send (contents es).length ≠ none
  endpoint : l'.endpoint = { l.endpoint with
    outstanding := l.endpoint.outstanding + (contents es).length
    closing := true
    aborted := true
    deferred := 0
    resequencer :=
      { nextReceive := l.endpoint.resequencer.nextReceive, nextSend := t + 1, waiting := .empty } }
  closed : l'.socket.closed
  history : l'.socket.history = l.socket.history ++
    ((l.socket.replies .send (contents es ++ [op])).map fun r => .post .send r.1 r.2) ++ [.close]
  pool : l'.pool = (op :: contents lost).foldl Pool.release l.pool

/-! ## A run of entries -/

theorem Sends.refl (l : Link) : Sends [] l l :=
  ⟨rfl, rfl, rfl, rfl, .refl _ _, rfl⟩

theorem Sends.trans (h : Sends es l l') (h' : Sends es' l' l'') : Sends (es ++ es') l l'' := by
  have hr := h.socket.replies_append (contents es')
  have he := h.endpoint
  refine ⟨?_, ?_, h'.nextReceive.trans h.nextReceive, ?_, ?_, ?_⟩
  · rw [h.waiting, h'.waiting, List.append_assoc]
  · rw [h'.nextSend, h.nextSend, List.length_append, Nat.add_assoc]
  · rw [h'.endpoint, he, contents_append, hr, Socket.accepted_append, List.length_append,
      ← Nat.add_assoc]
  · rw [contents_append]
    exact h.socket.trans h'.socket
  · rw [h'.pool, h.pool, contents_append, hr, Socket.refused_append, List.foldl_append]

theorem Sends.single (hr : l.endpoint.resequencer.release? = some (w, r))
    (he : l'.endpoint = { l.endpoint with
      outstanding := l.endpoint.outstanding +
        (Reply.accepted (l.socket.replies .send (contents [w]))).length
      resequencer := r })
    (hk : l.socket.Asked .send (contents [w]) l'.socket)
    (hp : l'.pool =
      (Reply.refused (l.socket.replies .send (contents [w]))).foldl Pool.release l.pool) :
    Sends [w] l l' := by
  obtain ⟨hfst, hwait, hnext, hnr⟩ := Resequencer.release?_eq_some_iff.1 hr
  have hres : l'.endpoint.resequencer = r := by rw [he]
  refine ⟨?_, ?_, ?_, ?_, hk, hp⟩
  · rw [hres, hwait, List.singleton_append]
  · rw [hres, hnext, hfst, List.length_singleton]
  · rw [hres, hnr]
  · rw [hres, he]

/-- A send comes to what the socket answers. -/
theorem send_cases (hd : l.endpoint.destroyed = false) (op : Operation) :
    let k := (l.socket.post .send op).2
    (l.socket.answer .send 0 = none ∧
      l.send op = (true, { l with endpoint := l.endpoint.start, socket := k })) ∨
    (∃ e, l.socket.answer .send 0 = some e) ∧
      l.send op = (false, if l.endpoint.kind = .datagram then release { l with socket := k } op
        else (release { l with socket := k } op).close true) := by
  intro k
  have hfst := Socket.fst_post l.socket .send op
  unfold send
  rw [if_neg (by rw [hd]; decide)]
  rcases hp : l.socket.post .send op with ⟨_ | e, socket⟩
  · rw [hp] at hfst
    obtain rfl : k = socket := congrArg Prod.snd hp
    exact Or.inl ⟨hfst.symm, rfl⟩
  · rw [hp] at hfst
    obtain rfl : k = socket := congrArg Prod.snd hp
    exact Or.inr ⟨⟨e, hfst.symm⟩, rfl⟩

theorem drainUpTo_of_release? (h : l.endpoint.resequencer.release? = none) (n : Nat) :
    l.drainUpTo n = (0, l) := by
  cases n with
  | zero => rfl
  | succ n =>
    unfold drainUpTo
    rw [h]

/-- One entry is let go before the others. -/
theorem drainUpTo_succ (hr : l.endpoint.resequencer.release? = some ((t, .data op), r)) (n : Nat) :
    let sent := send { l with endpoint := { l.endpoint with resequencer := r } } op
    l.drainUpTo (n + 1) =
      ((if sent.1 then 1 else 0) + (sent.2.drainUpTo n).1, (sent.2.drainUpTo n).2) := by
  intro sent
  conv_lhs => unfold drainUpTo
  rw [hr]
  show (if sent.1 then (sent.2.drainUpTo n).1 + 1 else (sent.2.drainUpTo n).1,
    (sent.2.drainUpTo n).2) = _
  split
  · rw [Nat.add_comm]
  · rw [Nat.zero_add]

theorem drainUpTo_skip (hr : l.endpoint.resequencer.release? = some ((t, .skip), r)) (n : Nat) :
    l.drainUpTo (n + 1) =
      drainUpTo n { l with endpoint := { l.endpoint with resequencer := r } } := by
  conv_lhs => unfold drainUpTo
  rw [hr]

/-- An entry that is next is let go without any harm, if it holds nothing, if the socket takes it,
or if the endpoint is a datagram one. -/
theorem sends_of_release? (hd : l.endpoint.destroyed = false)
    (hr : l.endpoint.resequencer.release? = some (w, r))
    (hok : l.endpoint.kind = .datagram ∨
      ∀ n < (contents [w]).length, l.socket.answer .send n = none) :
    ∃ l₁, Sends [w] l l₁ ∧ l₁.endpoint.resequencer = r ∧ ∀ n, l.drainUpTo (n + 1) =
      ((Reply.accepted (l.socket.replies .send (contents [w]))).length + (l₁.drainUpTo n).1,
        (l₁.drainUpTo n).2) := by
  obtain ⟨t, op | -⟩ := w
  · have hask := Socket.asked_post l.socket .send op
    have hreply : l.socket.replies .send (contents [(t, .data op)]) =
      [(op, l.socket.answer .send 0)] := rfl
    have hdrain := drainUpTo_succ hr
    refine ⟨(send { l with endpoint := { l.endpoint with resequencer := r } } op).2, ?_⟩
    obtain ⟨ha, hsend⟩ | ⟨⟨e, ha⟩, hsend⟩ :=
      send_cases (l := { l with endpoint := { l.endpoint with resequencer := r } }) hd op
    · rw [hsend] at hdrain ⊢
      rw [ha] at hreply
      refine ⟨.single hr ?_ hask ?_, rfl, fun n => ?_⟩
      · rw [hreply]
        rfl
      · rw [hreply]
        rfl
      · rw [hdrain, hreply]
        rfl
    · have hk := hok.resolve_right fun h => by
        rw [h 0 Nat.one_pos] at ha
        cases ha
      rw [hsend, if_pos hk] at hdrain ⊢
      rw [ha] at hreply
      refine ⟨.single hr ?_ hask ?_, rfl, fun n => ?_⟩
      · rw [hreply]
        rfl
      · rw [hreply]
        rfl
      · rw [hdrain, hreply]
        rfl
  · refine ⟨{ l with endpoint := { l.endpoint with resequencer := r } },
      .single hr rfl (.refl _ _) rfl, rfl, fun n => ?_⟩
    rw [drainUpTo_skip hr]
    exact Prod.ext (Nat.zero_add _).symm rfl

/-- A drain begins with the entries that come first among those that are next, and goes on where
they end. -/
theorem drainUpTo_add (hd : l.endpoint.destroyed = false)
    (h : l.endpoint.resequencer.Splits (es ++ run) rest)
    (hok : l.endpoint.kind = .datagram ∨
      ∀ n < (contents es).length, l.socket.answer .send n = none) :
    ∃ l₁, Sends es l l₁ ∧ l₁.endpoint.resequencer.Splits run rest ∧
      ∀ n, l.drainUpTo (es.length + n) =
        ((Reply.accepted (l.socket.replies .send (contents es))).length + (l₁.drainUpTo n).1,
          (l₁.drainUpTo n).2) := by
  induction es generalizing l with
  | nil =>
    refine ⟨l, .refl l, h, fun n => ?_⟩
    rw [List.length_nil, Nat.zero_add]
    exact Prod.ext (Nat.zero_add _).symm rfl
  | cons w es ih =>
    obtain ⟨r, hr, hrest⟩ := h.release?_cons
    have hcons : contents (w :: es) = contents [w] ++ contents es := contents_append [w] es
    obtain ⟨l₁, hs₁, hres, hdrain⟩ := sends_of_release? hd hr <| hok.imp_right fun ha n hn =>
      ha n (by rw [hcons, List.length_append]; omega)
    have he := hs₁.endpoint
    obtain ⟨l₂, hs₂, hsplit, hdrain'⟩ := ih (l := l₁) (by rw [he]; exact hd) (hres ▸ hrest) <| by
      rw [he]
      refine hok.imp_right fun ha n hn => ?_
      rw [hs₁.socket.answer_self]
      exact ha _ (by rw [hcons, List.length_append]; omega)
    refine ⟨l₂, hs₁.trans hs₂, hsplit, fun n => ?_⟩
    rw [List.length_cons, Nat.add_right_comm, hdrain, hdrain', hcons, hs₁.socket.replies_append,
      Socket.accepted_append, List.length_append, Nat.add_assoc]

/-! ## The first refused send -/

/-- Either all that the entries hold would be taken, or one of them is the first that is refused. -/
theorem exists_refusal (k : Socket) (es : List (Slot × Entry Operation)) :
    (∀ n < (contents es).length, k.answer .send n = none) ∨
      ∃ before t op after, es = before ++ (t, .data op) :: after ∧
        (∀ n < (contents before).length, k.answer .send n = none) ∧
        k.answer .send (contents before).length ≠ none := by
  induction es using List.reverseRecOn with
  | nil => exact Or.inl nofun
  | append_singleton es w ih =>
    obtain hall | ⟨before, t, op, after, rfl, hall, ha⟩ := ih
    · by_cases ha : ∀ n < (contents [w]).length, k.answer .send ((contents es).length + n) = none
      · refine Or.inl fun n hn => ?_
        rw [contents_append, List.length_append] at hn
        rcases Nat.lt_or_ge n (contents es).length with hlt | hge
        · exact hall n hlt
        · obtain ⟨m, rfl⟩ := Nat.exists_eq_add_of_le hge
          exact ha m (by omega)
      · obtain ⟨t, op | -⟩ := w
        · refine Or.inr ⟨es, t, op, [], rfl, hall, fun hx => ha fun n hn => ?_⟩
          obtain rfl : n = 0 := Nat.lt_one_iff.1 hn
          exact hx
        · exact absurd nofun ha
    · exact Or.inr ⟨before, t, op, after ++ [w], by rw [List.append_assoc]; rfl, hall, ha⟩

/-- The first refused send of an endpoint that is not a datagram one ends the drain. -/
theorem breaks_drainUpTo (hd : l.endpoint.destroyed = false) (hk : l.endpoint.kind ≠ .datagram)
    (h : l.endpoint.resequencer.Splits (es ++ (t, .data op) :: after) rest)
    (hs : ∀ n < (contents es).length, l.socket.answer .send n = none)
    (ha : l.socket.answer .send (contents es).length ≠ none) (n : Nat) :
    (l.drainUpTo (es.length + (n + 1))).1 = (contents es).length ∧
      Breaks es t op (after ++ rest) l (l.drainUpTo (es.length + (n + 1))).2 := by
  obtain ⟨l₁, hs₁, hsplit, hdrain⟩ := drainUpTo_add hd h (Or.inr hs)
  obtain ⟨r, hr, hrest⟩ := hsplit.release?_cons
  have he := hs₁.endpoint
  have ha₁ : l₁.socket.answer .send 0 ≠ none := by
    rwa [hs₁.socket.answer_self]
  have hd₁ : l₁.endpoint.destroyed = false := by rw [he]; exact hd
  have hk₁ : l₁.endpoint.kind ≠ .datagram := by rw [he]; exact hk
  have hstep := drainUpTo_succ hr n
  obtain ⟨hx, -⟩ | ⟨-, hsend⟩ :=
    send_cases (l := { l₁ with endpoint := { l₁.endpoint with resequencer := r } }) hd₁ op
  · exact absurd hx ha₁
  rw [hsend, if_neg hk₁] at hstep
  have hask := hs₁.socket.trans (Socket.asked_post l₁.socket .send op)
  obtain ⟨-, -, hnext, hnr⟩ := Resequencer.release?_eq_some_iff.1 hr
  have hpending : r.pending = contents (after ++ rest) := congrArg contents hrest.waiting
  have hpool : l₁.pool = l.pool := by
    rw [hs₁.pool, Socket.refused_replies hs]
    rfl
  -- nothing waits after a fatal close, so the drain stops here
  rw [hdrain, hstep, drainUpTo_of_release? rfl]
  refine ⟨?_, hs, ha, ?_, ?_, ?_, ?_⟩
  · rw [Socket.accepted_replies hs]
    rfl
  · rw [endpoint_close]
    show ({ l₁.endpoint with
      closing := true, deferred := 0, aborted := true, resequencer := r.discard.2 } : Endpoint) = _
    rw [he, Socket.accepted_replies hs]
    unfold Resequencer.discard
    rw [hnr, hnext, hs₁.nextReceive]
  · rw [socket_close, if_pos ⟨rfl, hd₁⟩]
    rfl
  · rw [socket_close, if_pos ⟨rfl, hd₁⟩]
    exact congrArg (· ++ [SocketEvent.close]) hask.history
  · rw [pool_close, if_pos rfl]
    show r.pending.foldl Pool.release (l₁.pool.release op) = _
    rw [hpending, hpool, List.foldl_cons]

/-! ## Drains -/

/-- What a drain comes to, in terms of what is next. -/
theorem drain_of_splits (hd : l.endpoint.destroyed = false)
    (h : l.endpoint.resequencer.Splits run rest) :
    (Sends run l l.drain.2 ∧ l.drain.1 =
        (Reply.accepted (l.socket.replies .send (contents run))).length ∧
        (l.endpoint.kind = .datagram ∨
          ∀ n < (contents run).length, l.socket.answer .send n = none)) ∨
      l.endpoint.kind ≠ .datagram ∧ ∃ before t op after, run = before ++ (t, .data op) :: after ∧
        l.drain.1 = (contents before).length ∧ Breaks before t op (after ++ rest) l l.drain.2 := by
  have hlen : l.endpoint.resequencer.waiting.toList.length = run.length + rest.length := by
    rw [h.waiting, List.length_append]
  have hall (hok : l.endpoint.kind = .datagram ∨
      ∀ n < (contents run).length, l.socket.answer .send n = none) :
      Sends run l l.drain.2 ∧
        l.drain.1 = (Reply.accepted (l.socket.replies .send (contents run))).length := by
    have hrun : l.endpoint.resequencer.Splits (run ++ []) rest := by rwa [List.append_nil]
    obtain ⟨l₁, hs₁, hsplit, hdrain⟩ := drainUpTo_add hd hrun hok
    unfold drain
    rw [hlen, hdrain, drainUpTo_of_release? hsplit.release?_nil]
    exact ⟨hs₁, rfl⟩
  by_cases hk : l.endpoint.kind = .datagram
  · exact Or.inl ⟨(hall (Or.inl hk)).1, (hall (Or.inl hk)).2, Or.inl hk⟩
  obtain hnone | ⟨before, t, op, after, rfl, hs, ha⟩ := exists_refusal l.socket run
  · exact Or.inl ⟨(hall (Or.inr hnone)).1, (hall (Or.inr hnone)).2, Or.inr hnone⟩
  · refine Or.inr ⟨hk, before, t, op, after, rfl, ?_⟩
    have hbreaks := breaks_drainUpTo hd hk h hs ha (after.length + rest.length)
    unfold drain
    rwa [hlen, List.length_append, List.length_cons, show before.length + (after.length + 1) +
      rest.length = before.length + (after.length + rest.length + 1) by omega]

theorem Sends.started (h : Sends es l l') : (l'.socket.started .send).length =
    (l.socket.started .send).length +
      (Reply.accepted (l.socket.replies .send (contents es))).length := by
  rw [h.socket.started, List.length_append]

theorem Breaks.started (h : Breaks es t op rest l l') : (l'.socket.started .send).length =
    (l.socket.started .send).length + (contents es).length := by
  have hlast : Reply.accepted (([op].mapIdx fun n op =>
      (op, l.socket.answer .send ((contents es).length + n))) : List Reply) = [] := by
    cases ha : l.socket.answer .send (contents es).length with
    | none => exact absurd ha h.refused
    | some e => simp [Reply.accepted, ha]
  unfold Socket.started
  rw [h.history, List.filterMap_append, List.filterMap_append, Socket.started_posts,
    Socket.replies_append, Socket.accepted_append, Socket.accepted_replies h.took, hlast]
  simp [SocketEvent.started?]

/-- A drain of an endpoint that was not destroyed consumes what is next, in order.  A datagram
endpoint loses what the socket refuses, and any other one ends with the first refused send: its slot
is consumed, the endpoint and its socket are closed, and all that waited after it is given up.  The
drain returns the number of sends that were started. -/
theorem drain_consumes_run (hd : l.endpoint.destroyed = false)
    (hs : ∀ t ∈ l.endpoint.resequencer.slots, l.endpoint.resequencer.nextSend ≤ t) :
    ∃ run rest, l.endpoint.resequencer.Splits run rest ∧
      (l.endpoint.kind = .datagram → Sends run l l.drain.2) ∧
      (l.endpoint.kind ≠ .datagram →
        (∀ n < (contents run).length, l.socket.answer .send n = none) ∧ Sends run l l.drain.2 ∨
        ∃ before t op after, run = before ++ (t, .data op) :: after ∧
          Breaks before t op (after ++ rest) l l.drain.2) ∧
      (l.drain.2.socket.started .send).length = (l.socket.started .send).length + l.drain.1 ∧
      l.drain.2.endpoint.outstanding = l.endpoint.outstanding + l.drain.1 := by
  obtain ⟨run, rest, h⟩ := Resequencer.exists_splits hs
  refine ⟨run, rest, h, ?_⟩
  obtain ⟨hsends, hcount, hok⟩ | ⟨hk, before, t, op, after, hrun, hcount, hbreaks⟩ :=
    drain_of_splits hd h
  · rw [hcount]
    refine ⟨fun _ => hsends, fun hk => Or.inl ⟨hok.resolve_left hk, hsends⟩, hsends.started, ?_⟩
    rw [hsends.endpoint]
  · rw [hcount]
    refine ⟨fun hx => absurd hx hk, fun _ => Or.inr ⟨before, t, op, after, hrun, hbreaks⟩,
      hbreaks.started, ?_⟩
    rw [hbreaks.endpoint]

/-- A stream with something to send in slots 1, 3 and 5, where slot 2 is passed over and slot 4 is
still to come.  Its socket takes one send and refuses the next one. -/
def faltering : Link where
  endpoint :=
    { id := 1, kind := .stream, family := .v4, socket := 1, outstanding := 1
      resequencer :=
        { nextReceive := 6
          nextSend := 1
          waiting := [(1, .data (echoed 1)), (2, .skip), (3, .data (echoed 3)),
            (5, .data (echoed 5))].foldl Ascending.insert .empty } }
  socket := { sends := { refusals := .after 1 1 ⟨.brokenPipe, "the client is gone"⟩ } }
  pool := { bufferSize := 2, cacheSize := 0, outstanding := 4 }
where
  echoed (t : Slot) : Operation :=
    { kind := .send, endpoint := some 1, buffer := ⟨[104, 105], 2⟩, capacity := 2, slot := some t }

/-- What slot 1 holds is sent, and what slot 3 holds is refused, which is the end. -/
theorem drain_consumes_run_faltering :
    (∃ before t op after rest, Breaks before t op (after ++ rest) faltering faltering.drain.2) ∧
      faltering.drain.2.endpoint.outstanding = faltering.endpoint.outstanding + 1 := by
  obtain ⟨run, rest, -, -, hstream, -, hout⟩ :=
    drain_consumes_run (l := faltering) rfl (by decide)
  obtain ⟨-, hsends⟩ | ⟨before, t, op, after, -, hbreaks⟩ := hstream (by decide)
  · have hopen := congrArg Endpoint.closing hsends.endpoint
    cases hopen
  · exact ⟨⟨before, t, op, after, rest, hbreaks⟩, hout⟩

end Link

end OrderedEcho
