import OrderedEcho.Proofs.FanOut
import OrderedEcho.Proofs.Server.Blank

/-!
# What a receive shows to its socket

Buffers circulate: through the cache of the pool from one endpoint to another, through failed
receives that are posted again, and through receives that turn into sends.  None of this shows in a
receive that is in flight.  It is labelled with its own endpoint and a slot of its own, and its
buffer is all zeros (`Run.blank_receives`).

The capacity of an operation is the server's to set: a socket may take the buffer away, but it gives
no operation back with more capacity than it got.
-/

namespace OrderedEcho

/-- Receives in flight are in different slots, as each slot was handed over once. -/
theorem Link.Sound.nodup_receiving {L : Ledger} {e : Endpoint} {k : Socket} {due : List Slot}
    {ripe : Bool} (h : Sound L e k due ripe) : k.receiving.Nodup := by
  refine List.nodup_iff_count.2 fun t => ?_
  have hone := h.numbered.count_le_one t
  have htold := h.tallied.told t
  rw [Socket.count_handed_receive] at hone
  omega

namespace Server

variable {s₀ s : Server} {evs : List ServerEvent} {B : Book} {busy : List EndpointId} {held : Nat}
  {settings : Settings} {now : Int}

theorem Sound.nodup_slots (h : Sound B busy held s) (k : SocketId) :
    (((s.sockets.get k).lane .receive).inFlight.map Operation.slot).Nodup := by
  by_cases ho : Owned s k
  · obtain ⟨i, hi, rfl⟩ := ho
    have hl := h.endpoint hi
    rw [hl.routed.map_slot]
    exact hl.nodup_receiving.map (Option.some_injective _)
  · rw [h.unowned k (not_owned_iff.1 ho)]
    exact List.nodup_nil

/-- A receive in flight belongs to the endpoint on its socket, is alone in its slot, and holds
nothing: it has no peer and no bytes, and its buffer opens to as many zeros as a regular buffer has
room for. -/
theorem Run.blank_receives (h0 : Server.ofSettings settings now = .ok s₀) (h : Run s₀ evs s)
    (hn : ¬ Once s₀ evs Enlarges) (k : SocketId) :
    let ops := ((s.sockets.get k).lane .receive).inFlight
    (ops.map Operation.slot).Nodup ∧
    ∀ op ∈ ops, ∃ id ∈ s.directory.ids, (s.endpoints.get id).socket = k ∧
      op.kind = .receive ∧ op.endpoint = some id ∧ op.slot.isSome ∧ op.peer = none ∧
      op.payload = [] ∧ op.capacity = settings.bufferSize ∧
      op.openBuffer.payload = List.replicate settings.bufferSize 0 := by
  intro ops
  have hs := h.sound h0
  refine ⟨hs.nodup_slots k, fun op hop => ?_⟩
  obtain ⟨id, hid, howner, hruns⟩ := hs.owner hop
  have hblank := (h.blank h0 hn).2 k op hop
  exact ⟨id, hid, howner, hruns.kind, hruns.endpoint, hruns.slot rfl, hblank.peer, hblank.payload,
    hblank.capacity, hblank.payload_openBuffer⟩

/-- A receive fails and comes back with the bytes and the sender of an earlier datagram. -/
def residue : ServerEvent := .complete 0 0 {
  operation := {
    kind := .receive, endpoint := some 0, buffer := ⟨[115, 101, 99], 4096⟩, capacity := 4096
    peer := some ⟨.v4 0x7f000001, 4000, 0⟩, slot := some 0 }
  result := .error ⟨.connectionRefused, "port unreachable"⟩ } .listed

/-- It is posted again without them. -/
theorem blank_receives_residue :
    let ops := (((mirroring.step (.bind 0 .v4)).step residue).sockets.get 0).receives.inFlight
    ops.map Operation.slot = [some 1, some 2] ∧
      ∀ op ∈ ops, op.peer = none ∧ op.openBuffer.payload = List.replicate 4096 0 := by
  have hbind : Run mirroring [.bind 0 .v4] (mirroring.step (.bind 0 .v4)) :=
    .snoc _ .start ⟨nofun, rfl⟩
  have hrun : Run mirroring [.bind 0 .v4, residue] ((mirroring.step (.bind 0 .v4)).step residue) :=
    hbind.snoc _ ⟨⟨_, _, rfl, ⟨rfl, rfl, rfl⟩⟩, nofun⟩
  have hfirst : ¬ Once mirroring [.bind 0 .v4] Enlarges := fun ho => by
    obtain ho | ⟨_, _, _, _, _, _, hev, -⟩ := Run.start.once_snoc_iff.1 ho
    · exact not_once_nil ho
    · cases hev
  have hn : ¬ Once mirroring [.bind 0 .v4, residue] Enlarges := fun ho => by
    obtain ho | ⟨_, _, _, _, _, _, hev, ht, hlt⟩ := hbind.once_snoc_iff.1 ho
    · exact hfirst ho
    · cases hev
      cases ht
      exact absurd hlt (by decide)
  obtain ⟨-, hall⟩ := Run.blank_receives ofSettings_mirroring hrun hn 0
  refine ⟨rfl, fun op hop => ?_⟩
  obtain ⟨-, -, -, -, -, -, hpeer, -, -, hzero⟩ := hall op hop
  exact ⟨hpeer, hzero⟩

end Server

end OrderedEcho
