import OrderedEcho.Proofs.Link.Lifecycle

/-!
# Endpoints under any use

The methods of an endpoint guard its life by themselves, in whatever order they are called, with
whatever operations, pools and sockets.  `Flags` is what then holds of the endpoint, and `Heeds` is
what a method does not undo, nor ask of the socket: a closing endpoint posts no receives and no
accepts, an aborted one nothing at all, and a destroyed one does not even close its socket.

The server never uses an endpoint in most of these ways, and what it relies on is stronger: see
`Link.Lifecycle`.
-/

namespace OrderedEcho

/-- How the stages of closing imply each other, and what is over in each. -/
structure Endpoint.Flags (e : Endpoint) : Prop where
  deferred : e.closing → e.deferred = 0
  closing_of_aborted : e.aborted → e.closing
  idle : e.aborted → e.resequencer.isIdle
  closing_of_destroyed : e.destroyed → e.closing
  settled : e.destroyed → e.outstanding = 0

namespace Endpoint

variable {e : Endpoint}

theorem flags_ofInfo (info : EndpointInfo) (socket : SocketId) : (ofInfo info socket).Flags :=
  ⟨nofun, nofun, nofun, nofun, nofun⟩

theorem Flags.of_open (h : e.Flags) (hc : e.closing = false) :
    e.aborted = false ∧ e.destroyed = false := by
  constructor <;> refine Bool.eq_false_iff.2 fun hx => ?_
  · exact absurd (h.closing_of_aborted hx) (by simp [hc])
  · exact absurd (h.closing_of_destroyed hx) (by simp [hc])

theorem Flags.resequencer (h : e.Flags) {r : Resequencer Operation} (hr : e.aborted → r.isIdle) :
    Flags { e with resequencer := r } :=
  ⟨h.deferred, h.closing_of_aborted, hr, h.closing_of_destroyed, h.settled⟩

theorem Flags.of_live (h : e.Flags) (ha : e.aborted = false) (r : Resequencer Operation) :
    Flags { e with resequencer := r } :=
  h.resequencer fun hx => absurd (ha.symm.trans hx) (by decide)

theorem Flags.start (h : e.Flags) (hd : e.destroyed = false) : e.start.Flags :=
  ⟨h.deferred, h.closing_of_aborted, h.idle, h.closing_of_destroyed, fun hx =>
    absurd (hd.symm.trans hx) (by decide)⟩

theorem Flags.finish (h : e.Flags) : e.finish.Flags := by
  refine ⟨h.deferred, h.closing_of_aborted, h.idle, h.closing_of_destroyed, fun hd => ?_⟩
  show e.outstanding - 1 = 0
  rw [h.settled hd]

theorem Flags.defer (h : e.Flags) {n : Nat} (hn : e.closing → n ≤ e.deferred) :
    Flags { e with deferred := n } :=
  ⟨fun hc => Nat.le_zero.1 (h.deferred hc ▸ hn hc), h.closing_of_aborted, h.idle,
    h.closing_of_destroyed, h.settled⟩

theorem Flags.destroy (h : e.Flags) (hd : e.Destroyable) : Flags { e with destroyed := true } :=
  ⟨h.deferred, h.closing_of_aborted, h.idle, fun _ => hd.2.1, fun _ => hd.2.2.1⟩

/-- What waits in a resequencer is not that of an aborted endpoint. -/
theorem Flags.aborted_of_release? (h : e.Flags) {w : Slot × Entry Operation}
    {r : Resequencer Operation} (hr : e.resequencer.release? = some (w, r)) : e.aborted = false := by
  refine Bool.eq_false_iff.2 fun ha => ?_
  have hnil := Resequencer.isIdle_iff.1 (h.idle ha)
  rw [(Resequencer.release?_eq_some_iff.1 hr).2.1] at hnil
  cases hnil

end Endpoint

namespace Link

variable {P : Slot → Entry Operation → Prop} {st st' : Stage} {l l' l'' : Link}

/-- The flags of `l` are heeded on the way to `l'`, and those of `l'` imply each other. -/
structure Heeds (l l' : Link) : Prop where
  flags : l'.endpoint.Flags
  closing : l.endpoint.closing → l'.endpoint.closing
  aborted : l.endpoint.aborted → l'.endpoint.aborted
  destroyed : l.endpoint.destroyed → l'.endpoint.destroyed
  receives : l.endpoint.closing → l'.socket.handed .receive = l.socket.handed .receive
  accepts : l.endpoint.closing → l'.socket.handed .accept = l.socket.handed .accept
  sends : l.endpoint.aborted → l'.socket.handed .send = l.socket.handed .send
  silent : l.endpoint.destroyed → l'.socket.history = l.socket.history

theorem Heeds.trans (h : Heeds l l') (h' : Heeds l' l'') : Heeds l l'' where
  flags := h'.flags
  closing := h'.closing ∘ h.closing
  aborted := h'.aborted ∘ h.aborted
  destroyed := h'.destroyed ∘ h.destroyed
  receives hc := (h'.receives (h.closing hc)).trans (h.receives hc)
  accepts hc := (h'.accepts (h.closing hc)).trans (h.accepts hc)
  sends ha := (h'.sends (h.aborted ha)).trans (h.sends ha)
  silent hd := (h'.silent (h.destroyed hd)).trans (h.silent hd)

/-- Nothing was asked of the socket. -/
theorem Heeds.of_history (hf : l'.endpoint.Flags)
    (hc : l.endpoint.closing → l'.endpoint.closing)
    (ha : l.endpoint.aborted → l'.endpoint.aborted)
    (hd : l.endpoint.destroyed → l'.endpoint.destroyed)
    (hh : l'.socket.history = l.socket.history) : Heeds l l' :=
  have hsame := Socket.handed_congr hh
  ⟨hf, hc, ha, hd, fun _ => hsame _, fun _ => hsame _, fun _ => hsame _, fun _ => hh⟩

theorem Heeds.refl (hf : l.endpoint.Flags) : Heeds l l := .of_history hf id id id rfl

/-- A send is posted while the endpoint is not aborted, and anything else while it is open. -/
theorem Heeds.of_post {kind : OperationKind} {op : Operation} {x : Option IoError}
    (hf : l'.endpoint.Flags) (hc : l'.endpoint.closing = l.endpoint.closing)
    (ha : l'.endpoint.aborted = l.endpoint.aborted)
    (hd : l'.endpoint.destroyed = l.endpoint.destroyed)
    (hh : l'.socket.history = l.socket.history ++ [.post kind op x])
    (hopen : l.endpoint.destroyed = false)
    (hk : if kind = .send then l.endpoint.aborted = false else l.endpoint.closing = false) :
    Heeds l l' := by
  refine ⟨hf, fun h => hc ▸ h, fun h => ha ▸ h, fun h => hd ▸ h, fun h => ?_, fun h => ?_,
    fun h => ?_, fun h => absurd (hopen.symm.trans h) (by decide)⟩
  · refine Socket.handed_of_post_ne hh fun hx => ?_
    subst hx
    exact absurd (hk.symm.trans h) (by decide)
  · refine Socket.handed_of_post_ne hh fun hx => ?_
    subst hx
    exact absurd (hk.symm.trans h) (by decide)
  · by_cases hx : kind = .send
    · rw [if_pos hx] at hk
      exact absurd (hk.symm.trans h) (by decide)
    · exact Socket.handed_of_post_ne hh hx

theorem heeds_close (hf : l.endpoint.Flags) (fatal : Bool) : Heeds l (l.close fatal) := by
  refine ⟨?_, fun _ => ?_, fun ha => ?_, fun hd => ?_, fun _ => handed_close l fatal _,
    fun _ => handed_close l fatal _, fun _ => handed_close l fatal _, fun hd => ?_⟩
  · rw [endpoint_close]
    refine ⟨fun _ => rfl, fun _ => rfl, fun ha => ?_, fun _ => rfl, hf.settled⟩
    cases fatal with
    | false => exact hf.idle ha
    | true => rfl
  · rw [endpoint_close]
  · rw [endpoint_close]
    show (fatal || l.endpoint.aborted) = true
    rw [ha, Bool.or_true]
  · rw [endpoint_close]
    exact hd
  · rw [socket_close, if_neg]
    rintro ⟨-, hx⟩
    exact absurd (hx.symm.trans hd) (by decide)

theorem closing_of_not_refuses (h : ¬ l.Refuses) : l.endpoint.closing = false :=
  Bool.eq_false_iff.2 fun hc => h (Or.inl hc)

theorem destroyed_of_not_refuses (h : ¬ l.Refuses) : l.endpoint.destroyed = false :=
  Bool.eq_false_iff.2 fun hd => h (Or.inr hd)

theorem Heeds.move (h : Move P st st') (hf : st.link.endpoint.Flags) :
    Heeds st.link st'.link := by
  cases h with
  | allocate | release | equip | forget | rest => exact .of_history hf id id id rfl
  | receive hr hp =>
    have hd := destroyed_of_not_refuses hr
    exact .of_post (Endpoint.Flags.start (hf.resequencer hf.idle) hd) rfl rfl rfl hp.history hd
      (closing_of_not_refuses hr)
  | receiveRefused hr hp =>
    exact .of_post (hf.resequencer hf.idle) rfl rfl rfl hp.history (destroyed_of_not_refuses hr)
      (closing_of_not_refuses hr)
  | accept hr hp =>
    have hd := destroyed_of_not_refuses hr
    exact .of_post (hf.start hd) rfl rfl rfl hp.history hd (closing_of_not_refuses hr)
  | acceptRefused hr hp =>
    exact .of_post hf rfl rfl rfl hp.history (destroyed_of_not_refuses hr)
      (closing_of_not_refuses hr)
  | park ha => exact .of_history (hf.of_live ha _) id id id rfl
  | reject =>
    exact .of_history ⟨hf.deferred, hf.closing_of_aborted, hf.idle, hf.closing_of_destroyed,
      hf.settled⟩ id id id rfl
  | pass hr | sendLost _ hr =>
    exact .of_history (hf.of_live (hf.aborted_of_release? hr) _) id id id rfl
  | @send _ _ _ _ _ _ r _ hd hr hp =>
    have ha := hf.aborted_of_release? hr
    exact .of_post (Endpoint.Flags.start (hf.of_live ha r) hd) rfl rfl rfl hp.history hd ha
  | sendRefused hd _ hr hp =>
    have ha := hf.aborted_of_release? hr
    exact .of_post (hf.of_live ha _) rfl rfl rfl hp.history hd ha
  | @sendFatal l _ op _ _ _ r _ socket hd hr hp =>
    have ha := hf.aborted_of_release? hr
    have hrefused : Heeds l
        (release { l with endpoint := { l.endpoint with resequencer := r }, socket } op) :=
      .of_post (hf.of_live ha r) rfl rfl rfl hp.history hd ha
    exact hrefused.trans (heeds_close hrefused.flags true)
  | close fatal => exact heeds_close hf fatal
  | defer n hn => exact .of_history (hf.defer hn) id id id rfl

theorem Heeds.path (h : Path P st st') (hf : st.link.endpoint.Flags) : Heeds st.link st'.link := by
  induction h with
  | refl => exact .refl hf
  | tail _ h ih => exact ih.trans (.move h ih.flags)

/-! ## Calls -/

/-- A call of a method of an endpoint. -/
inductive Call
  | postNewReceive
  | postReceive (op : Operation)
  | postAccept (op : Operation)
  | park (t : Slot) (e : Entry Operation)
  | drain
  | close (fatal : Bool)
  | resume
  | defer
  | finish
  | tryDestroy

/-- What becomes of the link. -/
def Call.run (l : Link) : Call → Link
  | postNewReceive => l.postNewReceive.2
  | postReceive op => (l.postReceive op).2
  | postAccept op => (l.postAccept op).2
  | park t e => l.park t e
  | drain => l.drain.2
  | close fatal => l.close fatal
  | resume => l.resume.2
  | defer => { l with endpoint := l.endpoint.defer }
  | finish => l.finish
  | tryDestroy => { l with endpoint := l.endpoint.tryDestroy.2 }

/-- The endpoint was used in any way, and each call found whatever pool there was.  Between the
calls operations of the socket complete and its answers change, but nobody else asks it for
anything. -/
inductive Use : Link → Link → Prop
  | start (l : Link) : Use l l
  | call {l l' : Link} (h : Use l l') (call : Call) (pool : Pool) {socket : Socket}
      (hh : socket.history = l'.socket.history) : Use l (call.run ⟨l'.endpoint, socket, pool⟩)

theorem heeds_releaseEntry (hf : l.endpoint.Flags) (e : Entry Operation) :
    Heeds l (l.releaseEntry e) := by
  cases e with
  | data op => exact .of_history hf id id id rfl
  | skip => exact .refl hf

theorem heeds_park (hf : l.endpoint.Flags) (t : Slot) (e : Entry Operation) :
    Heeds l (l.park t e) := by
  unfold park
  split
  · exact heeds_releaseEntry hf e
  · next ha =>
    split
    · next r _ => exact .of_history (hf.of_live (by simpa using ha) r) id id id rfl
    · next e' _ =>
      have hreject : Heeds l { l with endpoint := l.endpoint.reject } :=
        .of_history ⟨hf.deferred, hf.closing_of_aborted, hf.idle, hf.closing_of_destroyed,
          hf.settled⟩ id id id rfl
      exact hreject.trans (heeds_releaseEntry hreject.flags e')

theorem heeds_defer (hf : l.endpoint.Flags) :
    Heeds l { l with endpoint := l.endpoint.defer } := by
  unfold Endpoint.defer
  split
  · exact .refl hf
  · next hc => exact .of_history (hf.defer fun h => absurd h hc) id id id rfl

theorem heeds_tryDestroy (hf : l.endpoint.Flags) :
    Heeds l { l with endpoint := l.endpoint.tryDestroy.2 } := by
  unfold Endpoint.tryDestroy
  split
  · next hd => exact .of_history (hf.destroy hd) id id (fun _ => rfl) rfl
  · exact .refl hf

/-- A path that fills no slot heeds the flags. -/
theorem heeds_of_path {held : Nat}
    (h : Path (fun _ _ => False) ⟨l, [], held, false⟩ ⟨l', [], 0, false⟩) (hf : l.endpoint.Flags) :
    Heeds l l' := Heeds.path h hf

theorem heeds_call (hf : l.endpoint.Flags) (call : Call) : Heeds l (call.run l) := by
  cases call with
  | postNewReceive => exact heeds_of_path path_postNewReceive hf
  | postReceive op => exact heeds_of_path (path_postReceive op) hf
  | postAccept op => exact heeds_of_path (path_postAccept op) hf
  | park t e => exact heeds_park hf t e
  | drain => exact heeds_of_path path_drain hf
  | close fatal => exact heeds_close hf fatal
  | resume => exact heeds_of_path path_resume hf
  | defer => exact heeds_defer hf
  | finish => exact .of_history hf.finish id id id rfl
  | tryDestroy => exact heeds_tryDestroy hf

/-! ## Uses -/

variable {info : EndpointInfo} {id : SocketId} {k : Socket} {p : Pool}

theorem Use.heeds (h : Use l l') (hf : l.endpoint.Flags) : Heeds l l' := by
  induction h with
  | start => exact .refl hf
  | @call l' _ call pool socket hh ih =>
    have hbetween : Heeds l' ⟨l'.endpoint, socket, pool⟩ :=
      .of_history ih.flags (fun h => h) (fun h => h) (fun h => h) hh
    exact ih.trans (hbetween.trans (heeds_call hbetween.flags call))

theorem fst_tryDestroy_iff {e : Endpoint} : e.tryDestroy.1 = true ↔ e.Destroyable := by
  unfold Endpoint.tryDestroy
  split
  · next hd => exact iff_of_true rfl hd
  · next hd => exact iff_of_false nofun hd

/-- However a new endpoint is used, its flags imply each other, and no flag is ever reset.  Once it
closes, its socket is asked for no more receives and accepts, once it is aborted for no more sends,
and once it is destroyed for nothing at all.  It is destroyed at most once, and only when nothing is
left to do. -/
theorem flags_of_use (h : Use ⟨.ofInfo info id, k, p⟩ l) :
    l.endpoint.Flags ∧ (∀ l', Use l l' → Heeds l l') ∧
    (l.endpoint.tryDestroy.1 = true →
      (l.endpoint.closing ∧ l.endpoint.outstanding = 0 ∧ l.endpoint.resequencer.isIdle) ∧
      ∀ l', Use { l with endpoint := l.endpoint.tryDestroy.2 } l' →
        l'.endpoint.tryDestroy.1 = false) := by
  have hf := (h.heeds (Endpoint.flags_ofInfo info id)).flags
  refine ⟨hf, fun l' h' => h'.heeds hf, fun ht => ?_⟩
  have hd := fst_tryDestroy_iff.1 ht
  refine ⟨hd.2, fun l' h' => Bool.eq_false_iff.2 fun ht' => ?_⟩
  have hdestroyed : l.endpoint.tryDestroy.2.destroyed := by
    unfold Endpoint.tryDestroy
    rw [if_pos hd]
  have hlater := (h'.heeds (heeds_tryDestroy hf).flags).destroyed hdestroyed
  exact absurd ((fst_tryDestroy_iff.1 ht').1.symm.trans hlater) (by decide)

theorem Use.foldl (h : Use l l') (calls : List Call) : Use l (calls.foldl Call.run l') := by
  induction calls generalizing l' with
  | nil => exact h
  | cons call calls ih => exact ih (h.call call l'.pool rfl)

/-- A stream is misused: a slot is filled that was not handed out, one receive completes twice, a
receive is deferred that was not tried, and receives and entries come after the end. -/
def misuse : List Call :=
  [.postNewReceive, .park 5 .skip, .finish, .finish, .defer, .close true, .postNewReceive,
    .park 1 .skip, .resume, .drain]

/-- Still it is destroyed, and only once. -/
theorem flags_of_misuse :
    let l := misuse.foldl Call.run
      ⟨.ofInfo ⟨1, .stream, .v4, none⟩ 1, {}, { bufferSize := 4, cacheSize := 1 }⟩
    l.endpoint.tryDestroy.1 = true ∧ l.endpoint.deferred = 0 ∧
      ∀ l', Use { l with endpoint := l.endpoint.tryDestroy.2 } l' →
        l'.endpoint.tryDestroy.1 = false := by
  intro l
  obtain ⟨hf, -, honce⟩ := flags_of_use (l := l) ((Use.start _).foldl misuse)
  exact ⟨rfl, hf.deferred rfl, (honce rfl).2⟩

end Link

end OrderedEcho
