import OrderedEcho.Proofs.OperationAccount
import OrderedEcho.Proofs.Server.Bytes
import OrderedEcho.Proofs.Wakeup

/-!
# The account of bytes in a run

The meter counts what is received and what is sent.  The difference is what the server owes: the
bytes of the sends in flight, and those that wait to be sent (`Run.byte_account`).

This holds as long as nothing is lost on purpose.  There is no limit to the operations, no socket
refuses one, all completions succeed, and the server is not shut down.  Streams may end, and
operations may complete in any order.
-/

namespace OrderedEcho

namespace Server

variable {s₀ s : Server} {evs : List ServerEvent} {ev : ServerEvent} {B : Book}
  {busy : List EndpointId} {held : Nat} {settings : Settings} {now : Int}

/-- The event is a completion that failed, or the number of bytes with which it succeeded is not
what was moved. -/
def FallsShort (s : Server) (ev : ServerEvent) : Prop :=
  ∃ k i c order op socket, ev = .complete k i c order ∧
    (s.sockets.get k).take? c.operation.kind i = some (op, socket) ∧ ∀ n, ¬ c.Moves op n

theorem not_fallsShort {k : SocketId} {i n : Nat} {c : Completion} {op : Operation} {k' : Socket}
    {order : VisitingOrder} (ht : (s.sockets.get k).take? c.operation.kind i = some (op, k')) (hm : c.Moves op n) :
    ¬ FallsShort s (.complete k i c order) := by
  rintro ⟨_, _, _, _, _, _, hev, ht', hx⟩
  cases hev
  cases ht.symm.trans ht'
  exact hx n hm

/-- Each event passes bytes. -/
theorem Run.passes_step (h0 : Server.ofSettings settings now = .ok s₀) (h : Run s₀ evs s)
    (hp : s.Possible ev) (hl : settings.limit = none) (hdown : ∀ order, ev ≠ .shutdown order)
    (hm : ¬ FallsShort s ev) (hu : s.Unaborted) (ht : ∀ k, ((s.step ev).sockets.get k).TookAll) :
    ∃ n m, Passes n m s (s.step ev) := by
  have hs := h.sound h0
  have hlimit := (h.limit_eq h0).trans hl
  have hs' := (h.step hs hp).1.sound
  cases ev with
  | listen socket family =>
    have hc := (joins_addListener s socket family).carries rfl hs hs' hp hu hlimit
      (fun _ hr _ => Link.stocks_postNewAccept hr) (by decide) ht
    exact ⟨0, 0, hc.passes_of_meter (meter_addEndpoint _ _ _ _ _)⟩
  | bind socket family =>
    have hc := (joins_addDatagram s socket family).carries rfl hs hs' hp hu hlimit
      (fun _ hr hw => Link.stocks_postNewReceive hr hw) (by decide) ht
    exact ⟨0, 0, hc.passes_of_meter (meter_addEndpoint _ _ _ _ _)⟩
  | shutdown order => exact absurd rfl (hdown order)
  | refuse socket kind r => exact ⟨0, 0, passes_refuse hu socket kind r⟩
  | complete socket i c order =>
    obtain ⟨⟨op, k', htake, hret⟩, hf⟩ := hp
    obtain ⟨j, ha⟩ := hs.arrives h htake hret order
    have hinf := ha.informs h hs hf
    have hsound := (handled_complete ha hs hinf).sound
    obtain ⟨n, hn⟩ : ∃ n, c.Moves op n := by
      by_contra hx
      exact hm ⟨socket, i, c, order, op, k', rfl, htake, not_exists.1 hx⟩
    rw [step_complete htake, ha.handle_eq] at ht ⊢
    obtain ⟨n', m, hpass⟩ := ha.passes hs hinf hlimit hu hn fun k =>
      (ht k).earlier ((later_resumeStarved hsound order).grows.history k)
    exact ⟨n', m, hpass.trans (passes_resumeStarved hsound hpass.unaborted ht)⟩

/-- A run passes bytes. -/
theorem Run.passes (h0 : Server.ofSettings settings now = .ok s₀) (h : Run s₀ evs s)
    (hl : settings.limit = none) (hdown : ∀ order, .shutdown order ∉ evs)
    (hm : ¬ Once s₀ evs FallsShort) (ht : ∀ k, (s.sockets.get k).TookAll) : ∃ n m, Passes n m s₀ s := by
  induction h with
  | start =>
    have hu : s₀.Unaborted := fun j hj => by
      rw [(eq_of_ofSettings h0).1] at hj
      exact absurd hj (Nat.not_lt_zero j)
    have hc : Carries 0 0 s₀ s₀ := ⟨hu, rfl⟩
    exact ⟨0, 0, hc.passes_of_meter rfl⟩
  | @snoc evs s ev hr hp ih =>
    have hg := (hr.step (hr.sound h0) hp).1.grows
    rw [hr.once_snoc_iff, not_or] at hm
    have hbefore order := fun hx => hdown order (List.mem_append_left [ev] hx)
    have hlast order : ev ≠ .shutdown order := fun hx =>
      hdown order (hx ▸ List.mem_append_right _ List.mem_cons_self)
    obtain ⟨n, m, hpass⟩ := ih hbefore hm.1 fun k => (ht k).earlier (hg.history k)
    obtain ⟨n', m', hstep⟩ := hr.passes_step h0 hp hl hlast hm.2 hpass.unaborted ht
    exact ⟨n + n', m + m', hpass.trans hstep⟩

theorem meter_of_ofSettings (h : Server.ofSettings settings now = .ok s₀) :
    s₀.meter = .startingAt now := by
  unfold Server.ofSettings at h
  cases hc : settings.check with
  | error e => rw [hc] at h; cases h
  | ok _ =>
    rw [hc] at h
    obtain rfl := Except.ok.inj h
    rfl

theorem payloadBytes_inFlight_eq_zero (k : Socket) (h : ∀ kind, (k.lane kind).inFlight = []) :
    payloadBytes (k.lane .send).inFlight = 0 := by
  rw [h]
  rfl

theorem Sound.backlog_eq_sums (h : Sound B busy held s) :
    s.backlog = ∑ᶠ k, payloadBytes ((s.sockets.get k).lane .send).inFlight +
      (s.directory.ids.map fun i =>
        payloadBytes (s.endpoints.get i).resequencer.pending).sum := by
  have hpending := h.sum_ids (f := fun i => payloadBytes (s.endpoints.get i).resequencer.pending)
    fun _ hi hn => congrArg payloadBytes (h.pending_eq_nil hi hn)
  rw [h.sum_sockets (f := fun k => payloadBytes (k.lane .send).inFlight)
    payloadBytes_inFlight_eq_zero, ← hpending]
  exact Finset.sum_add_distrib

/-- What was received was sent, is in a send in flight on some socket, or waits to be sent by a
registered endpoint. -/
theorem Run.byte_account (h0 : Server.ofSettings settings now = .ok s₀) (h : Run s₀ evs s)
    (hl : settings.limit = none) (hdown : ∀ order, .shutdown order ∉ evs)
    (hw : ∀ k, (s.sockets.get k).Willing) (hm : ¬ Once s₀ evs FallsShort) :
    (Function.support fun k => payloadBytes ((s.sockets.get k).lane .send).inFlight).Finite ∧
    s.meter.read = s.meter.sent +
      .ofNat (∑ᶠ k, payloadBytes ((s.sockets.get k).lane .send).inFlight +
        (s.directory.ids.map fun i =>
          payloadBytes (s.endpoints.get i).resequencer.pending).sum) := by
  have hs := h.sound h0
  obtain ⟨n, m, hpass⟩ := h.passes h0 hl hdown hm fun k => (hw k).tookAll (hs.orderly_all k)
  have hstart : s₀.backlog = 0 := by
    unfold backlog
    rw [(eq_of_ofSettings h0).1]
    rfl
  have hsum : m + s.backlog = n := by
    have hb := hpass.backlog
    omega
  refine ⟨s.inUse.finite_toSet.subset (hs.support_sockets_subset payloadBytes_inFlight_eq_zero),
    ?_⟩
  calc s.meter.read = .ofNat n := by rw [hpass.read, meter_of_ofSettings h0]; exact UInt64.zero_add _
    _ = .ofNat m + .ofNat s.backlog := by rw [← hsum, UInt64.ofNat_add]
    _ = s.meter.sent + .ofNat s.backlog := by
      rw [hpass.sent, meter_of_ofSettings h0]
      exact congrArg (· + _) (UInt64.zero_add _).symm
    _ = _ := by rw [hs.backlog_eq_sums]

/-- Of two datagrams of one byte, one is on its way back.  The other waits for a receive that was
posted before its own. -/
def overtaking : Server :=
  (bound.step (.complete 0 0 (arrivesIn 0 97) .listed)).step
    (.complete 0 1 (arrivesIn 2 98) .listed)

/-- Both bytes were received, and none was sent yet. -/
theorem byte_account_overtaking :
    overtaking.meter.read = 2 ∧ overtaking.meter.sent = 0 ∧
      UInt64.ofNat (∑ᶠ k, payloadBytes ((overtaking.sockets.get k).lane .send).inFlight) = 1 := by
  have hbind : Run mirroring [.bind 0 .v4] bound := .snoc _ .start ⟨nofun, rfl⟩
  have hfirst := hbind.snoc (.complete 0 0 (arrivesIn 0 97) .listed)
    ⟨⟨_, _, rfl, ⟨rfl, rfl, rfl⟩⟩, nofun⟩
  have hrun : Run mirroring [.bind 0 .v4, .complete 0 0 (arrivesIn 0 97) .listed,
      .complete 0 1 (arrivesIn 2 98) .listed] overtaking :=
    hfirst.snoc _ ⟨⟨_, _, rfl, ⟨rfl, rfl, rfl⟩⟩, nofun⟩
  have hmoves (t : Slot) (byte : UInt8) {op : Operation} (h : op.kind = .receive) :
      (arrivesIn t byte).Moves op 1 :=
    ⟨rfl, fun hk => (nomatch h.symm.trans hk), fun _ => Nat.le_refl 1,
      fun hk => (nomatch h.symm.trans hk)⟩
  have hbound : ¬ FallsShort mirroring (.bind 0 .v4) := by
    rintro ⟨_, _, _, _, _, _, hev, -⟩
    cases hev
  have hm₁ : ¬ Once mirroring [.bind 0 .v4, .complete 0 0 (arrivesIn 0 97) .listed] FallsShort :=
    hbind.not_once_snoc (Run.start.not_once_snoc not_once_nil hbound)
      (not_fallsShort rfl (hmoves 0 97 rfl))
  have hm : ¬ Once mirroring [.bind 0 .v4, .complete 0 0 (arrivesIn 0 97) .listed,
      .complete 0 1 (arrivesIn 2 98) .listed] FallsShort :=
    hfirst.not_once_snoc hm₁ (not_fallsShort rfl (hmoves 2 98 rfl))
  have hw (k : SocketId) : (overtaking.sockets.get k).Willing := by
    have htaken : ∀ k, (overtaking.sockets.get k).history.all SocketEvent.isTaken = true
      | 0 => rfl
      | _ + 1 => rfl
    exact Socket.willing_of_taken (htaken k)
  obtain ⟨-, hsum⟩ := Run.byte_account ofSettings_mirroring hrun rfl (by simp) hw hm
  have hwaits : (overtaking.directory.ids.map fun i =>
      payloadBytes (overtaking.endpoints.get i).resequencer.pending).sum = 1 := rfl
  rw [hwaits, show overtaking.meter.sent = 0 from rfl, UInt64.zero_add, UInt64.ofNat_add] at hsum
  have hone : (1 : UInt64) + 1 = .ofNat _ + 1 := hsum
  exact ⟨rfl, rfl, ((UInt64.add_left_inj 1).1 hone).symm⟩

end Server

end OrderedEcho
