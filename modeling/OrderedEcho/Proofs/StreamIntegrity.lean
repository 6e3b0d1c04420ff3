import OrderedEcho.Proofs.Exhaustion
import OrderedEcho.Proofs.GracefulEnd
import OrderedEcho.Proofs.Listening

/-!
# The bytes of a stream

A receive turns into the send that echoes it, so what it delivered is never lost.  The data that came
with the accept is different: its echo needs an operation of its own.  What a stream sends is what it
received, in order, after the data of its accept, unless the pool had no operation to hand out when
the connection was delivered (`Run.stream_integrity`).  In that case the data is dropped, and the
stream goes on with what came after it (`stream_integrity_dropped`).
-/

namespace OrderedEcho

/-- The first slot of a stream is passed as soon as the stream is there. -/
theorem Link.Sound.nextSend_pos {L : Ledger} {e : Endpoint} {k : Socket} (h : Sound L e k [] false)
    (hk : e.kind = .stream) (ha : e.aborted = false) : 0 < e.resequencer.nextSend := by
  refine Nat.pos_of_ne_zero fun hzero => ?_
  have hfirst : 0 < e.resequencer.nextReceive := by
    rw [h.numbered.next, hk]
    exact Nat.lt_of_lt_of_le Nat.one_pos (Nat.le_add_right 1 _)
  have hreceiving : k.receiving.count 0 = 0 := by
    refine Nat.eq_zero_of_not_pos fun hpos => ?_
    have htold := h.tallied.told 0
    have hhanded := Socket.count_handed_receive k 0
    have hm : some 0 ∈ (k.handed .receive).map Operation.slot := List.count_pos_iff.1 (by omega)
    have hle := h.numbered.firstReceive_le hm
    rw [hk] at hle
    exact absurd hle (by decide)
  have hcount := h.accounted.count ha 0
  rw [hreceiving, List.count_eq_zero.2 (hzero ▸ h.accounted.unripe rfl), hzero,
    if_pos ⟨Nat.le_refl 0, hfirst⟩] at hcount
  exact absurd hcount (by decide)

namespace Server

variable {s₀ s : Server} {evs : List ServerEvent} {id : EndpointId} {settings : Settings} {now : Int}

/-- The event delivers the connection of an endpoint together with `c`, as no other event does, and
the stream starts with the data of `c` if the pool has an operation left for it. -/
def StartsWith (evs : List ServerEvent) (e : Endpoint) (first : List UInt8) (s : Server)
    (ev : ServerEvent) : Prop :=
  ∃ socket i c order, ev = .complete socket i c order ∧ deliveries evs e.socket = [c] ∧
    first = if s.pool.exhausted?.isSome then [] else c.operation.payload

/-- What was sent in slot 0 of a stream. -/
theorem Run.startsWith (h0 : Server.ofSettings settings now = .ok s₀) (h : Run s₀ evs s)
    (hid : id < s.directory.nextId) (hk : (s.endpoints.get id).kind = .stream)
    (hpos : 0 < (s.endpoints.get id).resequencer.nextSend) :
    Once s₀ evs (StartsWith evs (s.endpoints.get id)
      (((s.sockets.get (s.endpoints.get id).socket).sentIn 0).flatMap Operation.payload)) := by
  have hs := h.sound h0
  have hone {c : Completion} {k : SocketId} (hc : c ∈ deliveries evs k) : deliveries evs k = [c] :=
    eq_singleton_of_mem hc (h.length_deliveries_le h0 k).1
  obtain ⟨x, hx, hsent⟩ := (hs.endpoint hid).echoed.passed 0 hpos
  rw [hsent]
  rcases hx.reason with ho | ⟨rfl, href⟩
  · cases ho with
    | echo hc | ended hc | failed hc => exact absurd ⟨hk, rfl⟩ (hs.receipts_eq hid hc).2
    | welcome _ hc hp hserved =>
      obtain ⟨before, s₁, _, after, hevs, hr, ⟨socket, i, order, rfl⟩, hx⟩ := hserved
      refine ⟨before, s₁, _, after, hevs, hr, socket, i, _, order, rfl, hone hc, ?_⟩
      rw [hx]
      exact (List.append_nil _).trans hp
    | lost _ hc hunserved =>
      obtain ⟨before, s₁, socket, i, order, after, hevs, hr, hx⟩ := hunserved
      refine ⟨before, s₁, _, after, hevs, hr, socket, i, _, order, rfl, hone hc, ?_⟩
      rw [if_pos hx]
      rfl
  · exact absurd ⟨hk, rfl⟩ (hs.refusedReceive hid href)

/-- A stream that was not aborted was asked to send the data that came with its accept, and then
what its receives delivered, in order.  The data of the accept is left out if and only if the pool was
exhausted when the connection was delivered. -/
theorem Run.stream_integrity (h0 : Server.ofSettings settings now = .ok s₀) (h : Run s₀ evs s)
    (hid : id < s.directory.nextId) (hk : (s.endpoints.get id).kind = .stream)
    (ha : (s.endpoints.get id).aborted = false) :
    let e := s.endpoints.get id
    ∃ first, Once s₀ evs (StartsWith evs e first) ∧
      ((s.sockets.get e.socket).handed .send).flatMap Operation.payload =
        first ++ (List.range' 1 (e.resequencer.nextSend - 1)).flatMap (received evs id) := by
  intro e
  have hs := h.sound h0
  have hl := hs.endpoint hid
  have hpos := hl.nextSend_pos hk ha
  refine ⟨_, h.startsWith h0 hid hk hpos, ?_⟩
  obtain ⟨n, hn⟩ : ∃ n, e.resequencer.nextSend = n + 1 := ⟨_, (Nat.sub_add_cancel hpos).symm⟩
  have hrange : List.range e.resequencer.nextSend =
      0 :: List.range' 1 (e.resequencer.nextSend - 1) := by
    rw [hn, List.range_eq_range', List.range'_succ]
    rfl
  rw [← hl.echoed.flatMap_sentIn, hrange, List.flatMap_cons, List.flatMap_append,
    List.flatMap_assoc]
  congr 1
  refine List.flatMap_congr fun t ht => ?_
  obtain ⟨htpos, hlt⟩ := mem_range'_one.1 ht
  exact hs.payload_sentIn h h0 hid hk hlt htpos

/-- In the conversation, nothing is lost. -/
theorem stream_integrity_conversation :
    let s := afterConversation 6
    ((s.sockets.get 1).handed .send).flatMap Operation.payload = [104, 105, 97, 98, 99] ∧
    ∃ first, Once hosting conversation (StartsWith conversation (s.endpoints.get 1) first) ∧
      ((s.sockets.get 1).handed .send).flatMap Operation.payload =
        first ++ (List.range' 1 2).flatMap (received conversation 1) := by
  have hid : 1 < (afterConversation 6).directory.nextId := by decide
  exact ⟨rfl, Run.stream_integrity ofSettings_hosting run_conversation hid rfl rfl⟩

/-- A client comes while the only operation is with the listener.  The accept ends, and then the
client sends two bytes more. -/
def lateBytes : List ServerEvent := visit.take 2 ++ [dismissal] ++ [.complete 1 0 {
  operation := {
    kind := .receive, endpoint := some 1, buffer := ⟨[122, 122], 4096⟩, capacity := 4096
    slot := some 1 }
  result := .ok 2 } .listed]

/-- The two bytes that came with the connection are missing before those that came later. -/
theorem stream_integrity_dropped : ¬ ∀ (settings : Settings) (now : Int) (s₀ s : Server)
    (evs : List ServerEvent) (id : EndpointId), Server.ofSettings settings now = .ok s₀ →
    Run s₀ evs s → id ∈ s.directory.ids → (s.endpoints.get id).kind = .stream →
    (s.endpoints.get id).aborted = false →
    ∀ c, deliveries evs (s.endpoints.get id).socket = [c] →
    ∃ n, ((s.sockets.get (s.endpoints.get id).socket).handed .send).flatMap Operation.payload <+:
      c.operation.payload ++ (List.range' 1 n).flatMap (received evs id) := by
  intro h
  have hlisten : Run cramped (visit.take 1) ((visit.take 1).foldl step cramped) :=
    .snoc _ .start ⟨nofun, rfl⟩
  have hcome : Run cramped (visit.take 2) ((visit.take 2).foldl step cramped) := by
    refine .snoc _ hlisten ⟨⟨_, _, rfl, ⟨rfl, rfl, rfl⟩⟩, fun a ha => ?_⟩
    obtain rfl := Option.some.inj ha
    exact ⟨by decide, rfl⟩
  have hend : Run cramped (visit.take 2 ++ [dismissal])
      (((visit.take 2).foldl step cramped).step dismissal) :=
    hcome.snoc dismissal ⟨⟨_, _, rfl, ⟨rfl, rfl, rfl⟩⟩, nofun⟩
  have hr : Run cramped lateBytes (lateBytes.foldl step cramped) :=
    hend.snoc _ ⟨⟨_, _, rfl, ⟨rfl, rfl, rfl⟩⟩, nofun⟩
  have hid : 1 ∈ (lateBytes.foldl step cramped).directory.ids := Directory.contains_iff.1 rfl
  obtain ⟨n, hn⟩ := h _ _ _ _ _ 1 ofSettings_cramped hr hid rfl rfl _ rfl
  have hsent : [122, 122] <+: [104, 105] ++ (List.range' 1 n).flatMap (received lateBytes 1) := hn
  exact absurd (List.cons_prefix_cons.1 hsent).1 (by decide)

end Server

end OrderedEcho
