import Mathlib.Logic.Relation
import OrderedEcho.Link.Completed
import OrderedEcho.Proofs.Slots
import OrderedEcho.Proofs.Socket.History

/-!
# Moves of a link

Everything that an endpoint does is a sequence of elementary moves: it posts one operation, fills
one slot, lets one entry go, closes, or hands an operation back to the pool.  `Move` lists them with
all that is known when each is made, and the theorems `path_x` say that the functions on links are
such sequences.  So whatever holds before a function and is kept by each move holds after it, and
only this file follows the functions through their branches.

A `Stage` is a link in the middle of an act.  Beside the link it has what the act still owes: the
slots that it has to fill, the operations that it holds, and whether a waiting entry may be ripe for
release.  Between acts nothing is owed.

The predicate `P` says which entry may go into which slot.  A slot whose receive the socket refused
may always be passed over.
-/

namespace OrderedEcho

/-- An operation that is to be sent in slot `t` of endpoint `id`. -/
structure Operation.SendsFor (op : Operation) (id : EndpointId) (t : Slot) : Prop where
  kind : op.kind = .send
  endpoint : op.endpoint = some id
  slot : op.slot = some t

/-- The endpoint with its next slot handed out. -/
def Endpoint.assign (e : Endpoint) : Endpoint := { e with resequencer := e.resequencer.assign.2 }

/-- What may become of slot `t`: an entry for which `P` vouches, or a refused receive. -/
structure Socket.Justifies (k : Socket) (P : Slot → Entry Operation → Prop) (id : EndpointId)
    (t : Slot) (e : Entry Operation) : Prop where
  label : ∀ op, e = .data op → op.SendsFor id t
  reason : P t e ∨ e = .skip ∧ k.RefusedReceive t

theorem Socket.Justifies.mono {k k' : Socket} {P : Slot → Entry Operation → Prop} {id : EndpointId}
    {t : Slot} {e : Entry Operation} (h : k.Justifies P id t e) (hk : k.history <+: k'.history) :
    k'.Justifies P id t e :=
  ⟨h.label, h.reason.imp_right fun hr => ⟨hr.1, hr.2.mono hk⟩⟩

namespace Link

/-- What may become of slot `t` of the link's endpoint. -/
abbrev Justifies (l : Link) (P : Slot → Entry Operation → Prop) (t : Slot)
    (e : Entry Operation) : Prop :=
  l.socket.Justifies P l.endpoint.id t e

/-- A link in the middle of an act. -/
structure Stage where
  link : Link
  /-- Slots that are still to be filled. -/
  due : List Slot
  /-- The number of operations that are neither in the pool nor anywhere on the link. -/
  held : Nat
  /-- The first waiting entry may be next. -/
  ripe : Bool

/-- An elementary change of a link. -/
inductive Move (P : Slot → Entry Operation → Prop) : Stage → Stage → Prop
  | allocate {l due held ripe kind n op pool} (h : l.pool.allocate kind n = .ok (op, pool)) :
      Move P ⟨l, due, held, ripe⟩ ⟨{ l with pool }, due, held + 1, ripe⟩
  | release {l due held ripe} (op : Operation) :
      Move P ⟨l, due, held + 1, ripe⟩ ⟨l.release op, due, held, ripe⟩
  | equip {l due held ripe} (op : Operation) :
      Move P ⟨l, due, held, ripe⟩ ⟨{ l with pool := (l.pool.equip op).2 }, due, held, ripe⟩
  | receive {l due held ripe socket} {op : Operation} (hr : ¬ l.Refuses)
      (h : l.socket.Took .receive
        (op.asReceive l.endpoint.id l.endpoint.resequencer.nextReceive) socket) :
      Move P ⟨l, due, held + 1, ripe⟩
        ⟨{ l with endpoint := l.endpoint.assign.start, socket }, due, held, ripe⟩
  | receiveRefused {l due held ripe e socket} {op : Operation} (hr : ¬ l.Refuses)
      (h : l.socket.Refused .receive
        (op.asReceive l.endpoint.id l.endpoint.resequencer.nextReceive) e socket) :
      Move P ⟨l, due, held, ripe⟩
        ⟨{ l with endpoint := l.endpoint.assign, socket },
          l.endpoint.resequencer.nextReceive :: due, held, ripe⟩
  | accept {l due held ripe socket} {op : Operation} (hr : ¬ l.Refuses)
      (h : l.socket.Took .accept (op.asAccept l.endpoint.id) socket) :
      Move P ⟨l, due, held + 1, ripe⟩
        ⟨{ l with endpoint := l.endpoint.start, socket }, due, held, ripe⟩
  | acceptRefused {l due held ripe e socket} {op : Operation} (hr : ¬ l.Refuses)
      (h : l.socket.Refused .accept (op.asAccept l.endpoint.id) e socket) :
      Move P ⟨l, due, held, ripe⟩ ⟨{ l with socket }, due, held, ripe⟩
  | park {l t e due held ripe r} (ha : l.endpoint.aborted = false) (hj : l.Justifies P t e)
      (h : l.endpoint.resequencer.insert t e = .ok r) :
      Move P ⟨l, t :: due, held + e.weight, ripe⟩
        ⟨{ l with endpoint := { l.endpoint with resequencer := r } }, due, held, true⟩
  | reject {l t due held ripe} (ha : l.endpoint.aborted = false)
      (h : ¬ l.endpoint.resequencer.Accepts t) :
      Move P ⟨l, t :: due, held, ripe⟩
        ⟨{ l with endpoint := l.endpoint.reject }, due, held, ripe⟩
  | forget {l t due held ripe} (ha : l.endpoint.aborted = true) :
      Move P ⟨l, t :: due, held, ripe⟩ ⟨l, due, held, ripe⟩
  | pass {l t due held ripe r} (h : l.endpoint.resequencer.release? = some ((t, .skip), r)) :
      Move P ⟨l, due, held, ripe⟩
        ⟨{ l with endpoint := { l.endpoint with resequencer := r } }, due, held, ripe⟩
  | send {l t op due held ripe r socket} (hd : l.endpoint.destroyed = false)
      (h : l.endpoint.resequencer.release? = some ((t, .data op), r))
      (hp : l.socket.Took .send op socket) :
      Move P ⟨l, due, held, ripe⟩
        ⟨{ l with endpoint := { l.endpoint with resequencer := r }.start, socket }, due, held,
          ripe⟩
  | sendRefused {l t op due held ripe r e socket} (hd : l.endpoint.destroyed = false)
      (hk : l.endpoint.kind = .datagram)
      (h : l.endpoint.resequencer.release? = some ((t, .data op), r))
      (hp : l.socket.Refused .send op e socket) :
      Move P ⟨l, due, held, ripe⟩
        ⟨{ l with endpoint := { l.endpoint with resequencer := r }, socket }, due, held + 1,
          ripe⟩
  /-- A refused send closes any other endpoint than a datagram one, so the two are one move. -/
  | sendFatal {l t op due held ripe r e socket} (hd : l.endpoint.destroyed = false)
      (h : l.endpoint.resequencer.release? = some ((t, .data op), r))
      (hp : l.socket.Refused .send op e socket) :
      Move P ⟨l, due, held, ripe⟩
        ⟨({ l with endpoint := { l.endpoint with resequencer := r }, socket }.release op).close
          true, due, held, ripe⟩
  | sendLost {l t op due held ripe r} (hd : l.endpoint.destroyed = true)
      (h : l.endpoint.resequencer.release? = some ((t, .data op), r)) :
      Move P ⟨l, due, held, ripe⟩
        ⟨{ l with endpoint := { l.endpoint with resequencer := r } }, due, held + 1, ripe⟩
  | rest {l due held ripe} (h : l.endpoint.resequencer.release? = none) :
      Move P ⟨l, due, held, ripe⟩ ⟨l, due, held, false⟩
  | close {l due held ripe} (fatal : Bool) (h : fatal = false → l.endpoint.kind = .stream) :
      Move P ⟨l, due, held, ripe⟩ ⟨l.close fatal, due, held, ripe⟩
  | defer {l due held ripe} (n : Nat) (h : l.endpoint.closing → n ≤ l.endpoint.deferred) :
      Move P ⟨l, due, held, ripe⟩
        ⟨{ l with endpoint := { l.endpoint with deferred := n } }, due, held, ripe⟩

/-- A sequence of moves. -/
abbrev Path (P : Slot → Entry Operation → Prop) : Stage → Stage → Prop :=
  Relation.ReflTransGen (Move P)

variable {P : Slot → Entry Operation → Prop} {l : Link} {due : List Slot} {held : Nat} {ripe : Bool}

/-! ## Closing and filling -/

theorem path_releaseEntry (e : Entry Operation) :
    Path P ⟨l, due, held + e.weight, ripe⟩ ⟨l.releaseEntry e, due, held, ripe⟩ := by
  cases e with
  | data op => exact .single (.release op)
  | skip => exact .refl

theorem path_send {t : Slot} {op : Operation} {r : Resequencer Operation}
    (h : l.endpoint.resequencer.release? = some ((t, .data op), r)) :
    Path P ⟨l, due, held, ripe⟩
      ⟨(send { l with endpoint := { l.endpoint with resequencer := r } } op).2, due, held,
        ripe⟩ := by
  unfold send
  split
  · next hd => exact .head (.sendLost hd h) (.single (.release op))
  · next hd =>
    have hd : l.endpoint.destroyed = false := by simpa using hd
    split
    · next socket hp => exact .single (.send hd h (Socket.took_of_post hp))
    · next socket hp =>
      have hp := Socket.refused_of_post hp
      dsimp only
      split
      · next hk => exact .head (.sendRefused hd hk h hp) (.single (.release op))
      · exact .single (.sendFatal hd h hp)

theorem length_waiting_send (l : Link) (op : Operation) :
    (l.send op).2.endpoint.resequencer.waiting.toList.length ≤
      l.endpoint.resequencer.waiting.toList.length := by
  unfold send
  split
  · exact Nat.le_refl _
  · split
    · exact Nat.le_refl _
    · dsimp only
      split
      · exact Nat.le_refl _
      · exact Nat.zero_le _

/-- No entry is left that is next once all that waited could have gone. -/
theorem path_drainUpTo (n : Nat) (hn : l.endpoint.resequencer.waiting.toList.length ≤ n) :
    Path P ⟨l, due, held, ripe⟩ ⟨(l.drainUpTo n).2, due, held, false⟩ := by
  induction n generalizing l with
  | zero =>
    refine .single (.rest ?_)
    have hw : l.endpoint.resequencer.waiting.toList = [] := by simpa using hn
    unfold Resequencer.release?
    rw [Ascending.uncons?_eq_none_iff.2 hw]
  | succ n ih =>
    unfold drainUpTo
    split
    · next h => exact .single (.rest h)
    · next t e r h =>
      have hr : r.waiting.toList.length ≤ n := by
        rw [(Resequencer.release?_eq_some_iff.1 h).2.1, List.length_cons] at hn
        omega
      cases e with
      | skip => exact .head (.pass h) (ih hr)
      | data op => exact (path_send h).trans (ih (Nat.le_trans (length_waiting_send _ op) hr))

theorem path_drain : Path P ⟨l, due, held, ripe⟩ ⟨l.drain.2, due, held, false⟩ :=
  path_drainUpTo _ (Nat.le_refl _)

theorem path_fill {t : Slot} {e : Entry Operation} (h : l.Justifies P t e) :
    Path P ⟨l, t :: due, held + e.weight, ripe⟩ ⟨l.fill t e, due, held, false⟩ := by
  unfold fill park
  split
  · next ha =>
    have hf : (l.releaseEntry e).endpoint.aborted = true := by
      cases e with
      | data op => exact ha
      | skip => exact ha
    exact (path_releaseEntry e).trans (.head (.forget hf) path_drain)
  · next ha =>
    have ha : l.endpoint.aborted = false := by simpa using ha
    split
    · next r hi => exact .head (.park ha h hi) path_drain
    · next e' hi =>
      unfold Resequencer.insert at hi
      split at hi
      · cases hi
      · next hn =>
        obtain rfl := Except.error.inj hi
        exact .head (.reject ha hn) ((path_releaseEntry e).trans path_drain)

/-! ## Posting -/

theorem path_postReceive (op : Operation) :
    Path P ⟨l, due, held + 1, false⟩ ⟨(l.postReceive op).2, due, held, false⟩ := by
  unfold postReceive
  split
  · exact .single (.release op)
  · next hr =>
    refine .head (.equip op) ?_
    dsimp only
    split
    · next socket hp => exact .single (.receive hr (Socket.took_of_post hp))
    · next e socket hp =>
      have hp := Socket.refused_of_post hp
      refine .head (.receiveRefused hr hp) (.head (.release <| (l.pool.equip op).1.asReceive
        l.endpoint.id l.endpoint.resequencer.nextReceive) ?_)
      exact path_fill (e := .skip) ⟨by simp, Or.inr ⟨rfl, hp.refusedReceive rfl⟩⟩

theorem path_postNewReceive :
    Path P ⟨l, due, held, false⟩ ⟨l.postNewReceive.2, due, held, false⟩ := by
  unfold postNewReceive
  split
  · exact .refl
  · next hc =>
    split
    · next op pool ha => exact .head (.allocate ha) (path_postReceive op)
    · refine .single ?_
      unfold Endpoint.defer
      rw [if_neg hc]
      exact .defer _ fun h => absurd h hc

theorem path_postAccept (op : Operation) :
    Path P ⟨l, due, held + 1, ripe⟩ ⟨(l.postAccept op).2, due, held, ripe⟩ := by
  unfold postAccept
  split
  · exact .single (.release op)
  · next hr =>
    dsimp only
    split
    · next socket hp => exact .single (.accept hr (Socket.took_of_post hp))
    · next e socket hp =>
      exact .head (.acceptRefused hr (Socket.refused_of_post hp)) (.single (.release _))

theorem path_postNewAccept :
    Path P ⟨l, due, held, ripe⟩ ⟨l.postNewAccept.2, due, held, ripe⟩ := by
  unfold postNewAccept
  split
  · next op pool ha => exact .head (.allocate ha) (path_postAccept op)
  · exact .refl

theorem path_postMany {post : Link → PostResult × Link}
    (hpost : ∀ l : Link, Path P ⟨l, due, held, false⟩ ⟨(post l).2, due, held, false⟩) (n : Nat)
    (l : Link) : Path P ⟨l, due, held, false⟩ ⟨(postMany post n l).2, due, held, false⟩ := by
  induction n generalizing l with
  | zero => exact .refl
  | succ n ih =>
    have h := hpost l
    unfold postMany
    split
    · next l' hl =>
      rw [hl] at h
      exact h.trans (ih l')
    · next e l' hl =>
      rw [hl] at h
      exact h

/-! ## Retrying -/

theorem path_resume : Path P ⟨l, due, held, false⟩ ⟨l.resume.2, due, held, false⟩ := by
  have h : Path P ⟨l, due, held, false⟩ ⟨(postMany postNewReceive l.endpoint.deferred
      { l with endpoint := { l.endpoint with deferred := 0 } }).2, due, held, false⟩ :=
    .head (.defer 0 fun _ => Nat.zero_le _) (path_postMany (fun _ => path_postNewReceive) _ _)
  unfold resume
  split
  · next l' hl =>
    rw [hl] at h
    exact h
  · next i l' hl =>
    rw [hl] at h
    exact h.tail (.defer _ fun hc => Nat.le_of_eq (if_pos hc))

theorem path_settle (r : PostResult) :
    Path P ⟨l, due, held, ripe⟩ ⟨(settle (r, l)).2, due, held, ripe⟩ := by
  unfold settle
  split
  · next h => obtain ⟨-, rfl⟩ := Prod.mk.inj h; exact .refl
  · next h => obtain ⟨-, rfl⟩ := Prod.mk.inj h; exact .refl
  · next h => obtain ⟨-, rfl⟩ := Prod.mk.inj h; exact .refl
  · next h =>
    obtain ⟨-, rfl⟩ := Prod.mk.inj h
    split
    · unfold Endpoint.defer
      split
      · exact .refl
      · next hc => exact .single (.defer _ fun h => absurd h hc)
    · exact .single (.close true (by simp))

theorem path_settle_postNewReceive :
    Path P ⟨l, due, held, false⟩ ⟨(settle l.postNewReceive).2, due, held, false⟩ :=
  path_postNewReceive.trans (path_settle _)

theorem path_settle_resume :
    Path P ⟨l, due, held, false⟩ ⟨(settle l.resume).2, due, held, false⟩ :=
  path_resume.trans (path_settle _)

/-! ## Completions -/

/-- The first entry of a stream is a send of the accept's data, or nothing if the pool is empty. -/
theorem path_acceptEntry (data : List UInt8) :
    Path P ⟨l, due, held, ripe⟩
      ⟨(l.acceptEntry data).2, due, held + (l.acceptEntry data).1.weight, ripe⟩ := by
  unfold acceptEntry
  split
  · next op pool ha => exact .single (.allocate ha)
  · exact .refl

theorem path_welcome {data : List UInt8}
    (h : (l.acceptEntry data).2.Justifies P 0 (l.acceptEntry data).1) (n : Nat) :
    Path P ⟨l, 0 :: due, held, ripe⟩ ⟨(welcome data n l).2, due, held, false⟩ := by
  have hp : Path P ⟨l, 0 :: due, held, ripe⟩ ⟨(postMany postNewReceive n
      ((l.acceptEntry data).2.fill 0 (l.acceptEntry data).1)).2, due, held, false⟩ :=
    (path_acceptEntry data).trans
      ((path_fill h).trans (path_postMany (fun _ => path_postNewReceive) _ _))
  unfold welcome
  dsimp only
  split
  · next l' hl =>
    rw [hl] at hp
    exact hp
  · next i l' hl =>
    rw [hl] at hp
    exact hp.trans (path_settle _)

theorem path_echo {op : Operation} {t : Slot} {n : Nat}
    (h : l.Justifies P t (.data (op.truncate n).becomeSend)) :
    Path P ⟨l, t :: due, held + 1, ripe⟩ ⟨(l.echo op t n).2, due, held, false⟩ := by
  unfold echo
  dsimp only
  split
  · exact path_fill h
  · exact (path_fill h).trans path_settle_postNewReceive

theorem path_endOfStream {op : Operation} {t : Slot} (h : l.Justifies P t .skip)
    (hk : l.endpoint.kind = .stream) :
    Path P ⟨l, t :: due, held + 1, ripe⟩ ⟨l.endOfStream op t, due, held, false⟩ :=
  .head (.close false fun _ => hk) (.head (.release op) (path_fill (e := .skip) h))

/-- An endpoint that is closing for good forgets the slot of a failed receive. -/
theorem path_retry {op : Operation} {t : Slot} (h : l.Justifies P t .skip)
    (ha : l.endpoint.closing → l.endpoint.aborted = true) :
    Path P ⟨l, t :: due, held + 1, false⟩ ⟨(l.retry op t).2, due, held, false⟩ := by
  unfold retry
  split
  · next hc => exact .head (.release op) (.single (.forget (ha hc)))
  · have hf : Path P ⟨l, t :: due, held + 1, false⟩ ⟨l.fill t .skip, due, held + 1, false⟩ :=
      path_fill (e := .skip) h
    exact hf.trans ((path_postReceive op).trans (path_settle _))

/-- What is said of a completed receive: its data is echoed, or its slot is passed over because the
stream ended or a datagram was not received. -/
theorem path_received {op : Operation} {t : Slot} {result : Except IoError Nat}
    (hdata : ∀ n, result = .ok n → (l.endpoint.kind = .stream → n ≠ 0) →
      l.Justifies P t (.data (op.truncate n).becomeSend))
    (hend : result = .ok 0 → l.endpoint.kind = .stream → l.Justifies P t .skip)
    (hfail : ∀ e, result = .error e → l.endpoint.kind = .datagram → l.Justifies P t .skip)
    (ha : l.endpoint.closing → l.endpoint.aborted = true ∨ l.endpoint.kind = .stream) :
    Path P ⟨l, t :: due, held + 1, false⟩ ⟨(l.received op t result).2, due, held, false⟩ := by
  unfold received
  split
  · next hk => exact path_endOfStream (hend rfl hk) hk
  · next n hne => exact path_echo (hdata n rfl fun hk hn => hne hk (by rw [hn]))
  · next e hk =>
    refine path_retry (hfail e rfl hk) fun hc => (ha hc).resolve_right ?_
    rw [hk]
    decide
  · exact .head (.release op) (.head (.close true (by simp)) (.single (.forget rfl)))

theorem path_sent (op : Operation) (result : Except IoError Nat) :
    Path P ⟨l, due, held + 1, ripe⟩ ⟨(l.sent op result).2, due, held, false⟩ := by
  unfold sent
  have hc (l : Link) : Path P ⟨l, due, held + 1, ripe⟩ ⟨(l.release op).drain.2, due, held, false⟩ :=
    .head (.release op) path_drain
  have hs (l : Link) : Path P ⟨l, due, held, false⟩
      ⟨(if l.endpoint.deferred = 0 then (false, l) else settle l.resume).2, due, held, false⟩ := by
    split
    · exact .refl
    · exact path_settle_resume
  dsimp only
  split
  · exact (hc l).trans (hs _)
  · split
    · exact (hc l).trans (hs _)
    · exact .head (.close true (by simp)) ((hc _).trans (hs _))

end Link

end OrderedEcho
