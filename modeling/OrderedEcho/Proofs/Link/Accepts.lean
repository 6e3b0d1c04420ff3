import OrderedEcho.Proofs.Link.FanOut

/-!
# The accepts of an endpoint

`Socket.accepting` counts the accepts that a socket has in flight and those that it refused.  Posting
an accept adds one to it, whether or not the socket takes it, and a completed accept takes one away.
Nothing else that happens on a link changes it, and so each function that deals with receives or
sends has an equation here that says so.
-/

namespace OrderedEcho

/-- The event is a post of an accept that was refused. -/
def SocketEvent.refusesAccept : SocketEvent → Bool
  | .post .accept _ (some _) => true
  | _ => false

namespace Socket

/-- The number of accepts that the socket refused. -/
def refusedAccepts (k : Socket) : Nat := k.history.countP SocketEvent.refusesAccept

/-- The number of accepts in flight and of those that the socket refused. -/
def accepting (k : Socket) : Nat := (k.lane .accept).inFlight.length + k.refusedAccepts

variable {k k' : Socket} {kind : OperationKind} {op : Operation} {e : IoError}

theorem refusedAccepts_append {x : SocketEvent} (h : k'.history = k.history ++ [x]) :
    k'.refusedAccepts = k.refusedAccepts + if x.refusesAccept then 1 else 0 := by
  unfold refusedAccepts
  rw [h, List.countP_append, List.countP_singleton]

theorem accepting_congr (hl : (k'.lane .accept).inFlight = (k.lane .accept).inFlight)
    (hh : k'.history = k.history) : k'.accepting = k.accepting := by
  simp only [accepting, refusedAccepts, hl, hh]

theorem Took.accepting (h : k.Took .accept op k') : k'.accepting = k.accepting + 1 := by
  have hr : k'.refusedAccepts = k.refusedAccepts := refusedAccepts_append h.history
  simp only [Socket.accepting, hr, h.lane_self, List.length_append, List.length_singleton]
  omega

theorem Took.accepting_of_ne (h : k.Took kind op k') (hk : kind ≠ .accept) :
    k'.accepting = k.accepting := by
  have hr : k'.refusedAccepts = k.refusedAccepts := by
    rw [refusedAccepts_append h.history]
    cases kind <;> simp [SocketEvent.refusesAccept]
  simp only [Socket.accepting, hr, h.lane_of_ne .accept (Ne.symm hk)]

theorem Refused.accepting (h : k.Refused .accept op e k') : k'.accepting = k.accepting + 1 := by
  have hr : k'.refusedAccepts = k.refusedAccepts + 1 := refusedAccepts_append h.history
  simp only [Socket.accepting, hr, h.lane]
  omega

theorem Refused.accepting_of_ne (h : k.Refused kind op e k') (hk : kind ≠ .accept) :
    k'.accepting = k.accepting := by
  have hr : k'.refusedAccepts = k.refusedAccepts := by
    rw [refusedAccepts_append h.history]
    cases kind <;> simp_all [SocketEvent.refusesAccept]
  simp only [Socket.accepting, hr, h.lane]

theorem GaveBack.accepting (h : k.GaveBack .accept op k') : k.accepting = k'.accepting + 1 := by
  have hl := h.lane_self.length_eq
  rw [List.length_cons] at hl
  simp only [Socket.accepting, refusedAccepts, h.history, hl]
  omega

theorem GaveBack.accepting_of_ne (h : k.GaveBack kind op k') (hk : kind ≠ .accept) :
    k'.accepting = k.accepting := accepting_congr (h.lane_of_ne .accept (Ne.symm hk)) h.history

@[simp] theorem accepting_close (k : Socket) : k.close.accepting = k.accepting := by
  have hr : k.close.refusedAccepts = k.refusedAccepts := refusedAccepts_append (x := .close) rfl
  simp only [accepting, hr, inFlight_lane_close]

end Socket

namespace Link

variable {l l' : Link} {op : Operation} {o : Option Interruption}

/-! ## Receives and sends -/

@[simp] theorem accepting_close (l : Link) (fatal : Bool) :
    (l.close fatal).socket.accepting = l.socket.accepting := by
  rw [socket_close]
  split
  · exact Socket.accepting_close _
  · rfl

@[simp] theorem accepting_releaseEntry (l : Link) (e : Entry Operation) :
    (l.releaseEntry e).socket.accepting = l.socket.accepting := by
  cases e <;> rfl

@[simp] theorem accepting_send (l : Link) (op : Operation) :
    (l.send op).2.socket.accepting = l.socket.accepting := by
  unfold send
  split
  · rfl
  · split
    · next socket hp => exact (Socket.took_of_post hp).accepting_of_ne (by decide)
    · next e socket hp =>
      have hr := (Socket.refused_of_post hp).accepting_of_ne (by decide)
      dsimp only
      split
      · exact hr
      · exact (accepting_close _ true).trans hr

@[simp] theorem accepting_drainUpTo (n : Nat) (l : Link) :
    (l.drainUpTo n).2.socket.accepting = l.socket.accepting := by
  induction n generalizing l with
  | zero => rfl
  | succ n ih =>
    unfold drainUpTo
    split
    · rfl
    · next t e r _ =>
      cases e with
      | skip => exact ih _
      | data op => exact (ih _).trans (accepting_send _ op)

@[simp] theorem accepting_drain (l : Link) : l.drain.2.socket.accepting = l.socket.accepting :=
  accepting_drainUpTo _ l

@[simp] theorem accepting_park (l : Link) (t : Slot) (e : Entry Operation) :
    (l.park t e).socket.accepting = l.socket.accepting := by
  unfold park
  split
  · exact accepting_releaseEntry l e
  · split
    · rfl
    · exact accepting_releaseEntry _ _

@[simp] theorem accepting_fill (l : Link) (t : Slot) (e : Entry Operation) :
    (l.fill t e).socket.accepting = l.socket.accepting := by
  simp [fill]

@[simp] theorem accepting_postReceive (l : Link) (op : Operation) :
    (l.postReceive op).2.socket.accepting = l.socket.accepting := by
  unfold postReceive
  split
  · rfl
  · dsimp only
    split
    · next socket hp => exact (Socket.took_of_post hp).accepting_of_ne (by decide)
    · next e socket hp =>
      exact (accepting_fill _ _ _).trans ((Socket.refused_of_post hp).accepting_of_ne (by decide))

@[simp] theorem accepting_postNewReceive (l : Link) :
    l.postNewReceive.2.socket.accepting = l.socket.accepting := by
  unfold postNewReceive
  split
  · rfl
  · split
    · exact accepting_postReceive _ _
    · rfl

@[simp] theorem accepting_postMany_receives (n : Nat) (l : Link) :
    (postMany postNewReceive n l).2.socket.accepting = l.socket.accepting := by
  induction n generalizing l with
  | zero => rfl
  | succ n ih =>
    have hl := accepting_postNewReceive l
    unfold postMany
    split
    · next l' hp =>
      rw [hp] at hl
      exact (ih l').trans hl
    · next e l' hp =>
      rw [hp] at hl
      exact hl

@[simp] theorem accepting_resume (l : Link) : l.resume.2.socket.accepting = l.socket.accepting := by
  have hl := accepting_postMany_receives l.endpoint.deferred l.forgoDeferred
  unfold resume
  split
  · next l' hp => exact (congrArg (·.2.socket.accepting) hp).symm.trans hl
  · next i l' hp => exact (congrArg (·.2.socket.accepting) hp).symm.trans hl

@[simp] theorem accepting_settle (x : PostResult × Link) :
    (settle x).2.socket.accepting = x.2.socket.accepting := by
  match x with
  | (.ok (), l) | (.error .closing, l) | (.error (.noResources _), l) => rfl
  | (.error (.refused e), l) =>
    unfold settle
    dsimp only
    split
    · rfl
    · exact accepting_close l true

/-! ## Completions -/

theorem accepting_acceptEntry (l : Link) (data : List UInt8) :
    (l.acceptEntry data).2.socket.accepting = l.socket.accepting := by
  unfold acceptEntry
  split <;> rfl

theorem accepting_welcome (data : List UInt8) (n : Nat) (l : Link) :
    (welcome data n l).2.socket.accepting = l.socket.accepting := by
  have hl := (accepting_postMany_receives n ((l.acceptEntry data).2.fill 0 (l.acceptEntry data).1)).trans
    ((accepting_fill _ _ _).trans (accepting_acceptEntry l data))
  unfold welcome
  dsimp only
  split
  · next l' hp => exact (congrArg (·.2.socket.accepting) hp).symm.trans hl
  · next i l' hp =>
    rw [accepting_settle]
    exact (congrArg (·.2.socket.accepting) hp).symm.trans hl

theorem accepting_echo (op : Operation) (t : Slot) (n : Nat) (l : Link) :
    (l.echo op t n).2.socket.accepting = l.socket.accepting := by
  unfold echo
  dsimp only
  split
  · apply accepting_fill
  · rw [accepting_settle, accepting_postNewReceive, accepting_fill]

theorem accepting_retry (op : Operation) (t : Slot) (l : Link) :
    (l.retry op t).2.socket.accepting = l.socket.accepting := by
  unfold retry
  split
  · rfl
  · rw [accepting_settle, accepting_postReceive, accepting_fill]

theorem accepting_endOfStream (op : Operation) (t : Slot) (l : Link) :
    (l.endOfStream op t).socket.accepting = l.socket.accepting := by
  unfold endOfStream
  rw [accepting_fill]
  apply accepting_close

theorem accepting_received (op : Operation) (t : Slot) (result : Except IoError Nat) (l : Link) :
    (l.received op t result).2.socket.accepting = l.socket.accepting := by
  unfold received
  split
  · apply accepting_endOfStream
  · apply accepting_echo
  · apply accepting_retry
  · apply accepting_close

theorem accepting_sent (op : Operation) (result : Except IoError Nat) (l : Link) :
    (l.sent op result).2.socket.accepting = l.socket.accepting := by
  have hdrain {l₁ : Link} (h : l₁.socket.accepting = l.socket.accepting) :
      (if (l₁.release op).drain.2.endpoint.deferred = 0 then (false, (l₁.release op).drain.2)
        else settle (l₁.release op).drain.2.resume).2.socket.accepting = l.socket.accepting := by
    have hd := (accepting_drain (l₁.release op)).trans h
    split
    · exact hd
    · rw [accepting_settle, accepting_resume]
      exact hd
  unfold sent
  dsimp only
  split
  · exact hdrain rfl
  · split
    · exact hdrain rfl
    · exact hdrain (accepting_close l true)

/-! ## Accepts -/

theorem accepting_postAccept_of_refuses (hr : l.Refuses) (op : Operation) :
    (l.postAccept op).2.socket.accepting = l.socket.accepting := by
  unfold postAccept
  rw [if_pos hr]
  rfl

theorem accepting_postAccept (hr : ¬ l.Refuses) (op : Operation) :
    (l.postAccept op).2.socket.accepting = l.socket.accepting + 1 := by
  unfold postAccept
  rw [if_neg hr]
  dsimp only
  split
  · next socket hp => exact (Socket.took_of_post hp).accepting
  · next e socket hp => exact (Socket.refused_of_post hp).accepting

/-- Posting a new accept adds one, unless it fails before the socket is asked. -/
theorem accepting_postNewAccept (l : Link) :
    l.postNewAccept.2.socket.accepting ≤ l.socket.accepting + 1 ∧
      (l.postNewAccept.1 = .ok () →
        l.postNewAccept.2.socket.accepting = l.socket.accepting + 1) := by
  unfold postNewAccept
  split
  · next op pool _ =>
    by_cases hr : Refuses { l with pool }
    · rw [accepting_postAccept_of_refuses hr]
      refine ⟨Nat.le_succ _, fun h => ?_⟩
      unfold postAccept at h
      rw [if_pos hr] at h
      cases h
    · rw [accepting_postAccept hr]
      exact ⟨Nat.le_refl _, fun _ => rfl⟩
  · exact ⟨Nat.le_succ _, nofun⟩

/-- A batch of accepts adds as many as were posted, which is all of them unless one failed. -/
theorem accepting_postMany_accepts {n : Nat} (h : postMany postNewAccept n l = (o, l')) :
    l'.socket.accepting ≤ l.socket.accepting + n ∧
      (o = none → l'.socket.accepting = l.socket.accepting + n) := by
  induction n generalizing l with
  | zero =>
    obtain ⟨-, rfl⟩ := Prod.mk.inj h
    exact ⟨Nat.le_refl _, fun _ => rfl⟩
  | succ n ih =>
    obtain ⟨hle, heq⟩ := accepting_postNewAccept l
    unfold postMany at h
    split at h
    · next l₁ hp =>
      rw [hp] at hle heq
      dsimp only at hle heq
      have heq := heq rfl
      obtain ⟨hle', heq'⟩ := ih h
      refine ⟨by omega, fun ho => ?_⟩
      have := heq' ho
      omega
    · next e l₁ hp =>
      obtain ⟨rfl, rfl⟩ := Prod.mk.inj h
      rw [hp] at hle
      dsimp only at hle
      exact ⟨by omega, nofun⟩

end Link

end OrderedEcho
