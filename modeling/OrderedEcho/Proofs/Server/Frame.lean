import OrderedEcho.Proofs.Link.Sound
import OrderedEcho.Server.Completed

/-!
# What an act leaves alone

An endpoint that acts changes itself, its socket and the pool.  `Touches i s s'` says that nothing
but the endpoint `i` and its socket differ between `s` and `s'`, and `Adds info socket s s'` that a
new endpoint was registered beside.  Both also say that what changed did so by growing.
`Grows` is the common part that holds of any two states of which one is later.
-/

namespace OrderedEcho

/-- `e'` is a later state of `e`. -/
structure Endpoint.Grows (e e' : Endpoint) : Prop where
  info : e'.toEndpointInfo = e.toEndpointInfo
  socket : e'.socket = e.socket
  closing : e.closing → e'.closing
  aborted : e.aborted → e'.aborted
  destroyed : e.destroyed → e'.destroyed

theorem Endpoint.Grows.refl (e : Endpoint) : e.Grows e := ⟨rfl, rfl, id, id, id⟩

theorem Endpoint.Grows.trans {e e' e'' : Endpoint} (h : e.Grows e') (h' : e'.Grows e'') :
    e.Grows e'' :=
  ⟨h'.info.trans h.info, h'.socket.trans h.socket, h'.closing ∘ h.closing, h'.aborted ∘ h.aborted,
    h'.destroyed ∘ h.destroyed⟩

theorem Link.Grows.endpoint {l l' : Link} (h : Link.Grows l l') : l.endpoint.Grows l'.endpoint :=
  ⟨h.info, h.socket, h.closing, h.aborted, h.destroyed.trans⟩

namespace Server

variable {s s' s'' : Server} {i : EndpointId} {l : Link} {info : EndpointInfo} {socket : SocketId}

/-- `s'` is a later state of `s`. -/
structure Grows (s s' : Server) : Prop where
  nextId : s.directory.nextId ≤ s'.directory.nextId
  endpoint : ∀ j < s.directory.nextId, (s.endpoints.get j).Grows (s'.endpoints.get j)
  history : ∀ k, (s.sockets.get k).history <+: (s'.sockets.get k).history
  limit : s'.pool.limit = s.pool.limit

theorem Grows.refl (s : Server) : Grows s s :=
  ⟨Nat.le_refl _, fun _ _ => .refl _, fun _ => List.prefix_rfl, rfl⟩

theorem Grows.trans (h : Grows s s') (h' : Grows s' s'') : Grows s s'' := by
  refine ⟨Nat.le_trans h.nextId h'.nextId, fun j hj => ?_,
    fun k => (h.history k).trans (h'.history k), h'.limit.trans h.limit⟩
  exact (h.endpoint j hj).trans (h'.endpoint j (Nat.lt_of_lt_of_le hj h.nextId))

/-! ## One endpoint acts -/

/-- Only the endpoint `i` and its socket changed. -/
structure Touches (i : EndpointId) (s s' : Server) : Prop where
  directory : s'.directory = s.directory
  endpoint : ∀ j, j ≠ i → s'.endpoints.get j = s.endpoints.get j
  sockets : ∀ k, k ≠ (s.endpoints.get i).socket → s'.sockets.get k = s.sockets.get k
  link : Link.Grows (s.link i) (s'.link i)

theorem Touches.of_eq (hd : s'.directory = s.directory) (he : s'.endpoints = s.endpoints)
    (hk : s'.sockets = s.sockets) (hl : s'.pool.limit = s.pool.limit) : Touches i s s' := by
  refine ⟨hd, fun _ _ => by rw [he], fun _ _ => by rw [hk], ?_⟩
  unfold Server.link
  rw [he, hk]
  exact ⟨rfl, rfl, rfl, id, id, List.prefix_rfl, hl⟩

theorem Touches.refl (i : EndpointId) (s : Server) : Touches i s s := .of_eq rfl rfl rfl rfl

theorem Touches.socket_eq (h : Touches i s s') :
    (s'.endpoints.get i).socket = (s.endpoints.get i).socket := h.link.socket

theorem Touches.trans (h : Touches i s s') (h' : Touches i s' s'') : Touches i s s'' := by
  refine ⟨h'.directory.trans h.directory, fun j hj => (h'.endpoint j hj).trans (h.endpoint j hj),
    fun k hk => ?_, h.link.trans h'.link⟩
  rw [h'.sockets k (h.socket_eq ▸ hk), h.sockets k hk]

theorem Touches.history (h : Touches i s s') (k : SocketId) :
    (s.sockets.get k).history <+: (s'.sockets.get k).history := by
  by_cases hk : k = (s.endpoints.get i).socket
  · have hl : (s.sockets.get (s.endpoints.get i).socket).history <+:
        (s'.sockets.get (s'.endpoints.get i).socket).history := h.link.history
    rw [h.socket_eq] at hl
    rwa [hk]
  · exact h.sockets k hk ▸ List.prefix_rfl

/-- What holds between an endpoint and itself, and of the endpoint that acted, holds of all. -/
theorem Touches.lift {motive : Endpoint → Endpoint → Prop} (h : Touches i s s')
    (hi : motive (s.endpoints.get i) (s'.endpoints.get i)) (hr : ∀ e, motive e e)
    (j : EndpointId) : motive (s.endpoints.get j) (s'.endpoints.get j) := by
  by_cases hj : j = i
  · exact hj ▸ hi
  · rw [h.endpoint j hj]
    exact hr _

theorem Touches.grows (h : Touches i s s') : Grows s s' :=
  ⟨Nat.le_of_eq (by rw [h.directory]), fun j _ => h.lift h.link.endpoint .refl j, h.history,
    h.link.limit⟩

@[simp] theorem link_setLink (s : Server) (i : EndpointId) (l : Link) :
    (s.setLink i l).link i = l := by
  unfold link setLink
  simp only [Table.get_set_self]

theorem touches_setLink (h : Link.Grows (s.link i) l) : Touches i s (s.setLink i l) := by
  have hsock : l.endpoint.socket = (s.endpoints.get i).socket := h.socket
  refine ⟨rfl, fun j hj => Table.get_set_of_ne _ _ (Ne.symm hj), fun k hk => ?_, ?_⟩
  · exact Table.get_set_of_ne _ _ fun h => hk (h.symm.trans hsock)
  · rw [link_setLink]
    exact h

@[simp] theorem link_act (s : Server) (i : EndpointId) (f : Link → Bool × Link) :
    (s.act i f).link i = (f (s.link i)).2 := by
  unfold act
  dsimp only
  split
  · exact link_setLink s i _
  · exact link_setLink s i _

@[simp] theorem directory_act (s : Server) (i : EndpointId) (f : Link → Bool × Link) :
    (s.act i f).directory = s.directory := by
  unfold act
  dsimp only
  split <;> rfl

theorem touches_act {f : Link → Bool × Link} (h : Link.Grows (s.link i) (f (s.link i)).2) :
    Touches i s (s.act i f) := by
  unfold act
  dsimp only
  split
  · exact (touches_setLink h).trans (.of_eq rfl rfl rfl rfl)
  · exact touches_setLink h

@[simp] theorem link_modifyLink (s : Server) (i : EndpointId) (f : Link → Link) :
    (s.modifyLink i f).link i = f (s.link i) := link_setLink s i _

theorem touches_modifyLink {f : Link → Link} (h : Link.Grows (s.link i) (f (s.link i))) :
    Touches i s (s.modifyLink i f) := touches_setLink h

/-- What holds between a socket and itself, and of the socket that changed, holds of all. -/
theorem lift_modifySocket {motive : Socket → Socket → Prop} {f : Socket → Socket}
    (hf : ∀ k, motive k (f k)) (hr : ∀ k, motive k k) (s : Server) (socket k : SocketId) :
    motive (s.sockets.get k) ((s.modifySocket socket f).sockets.get k) := by
  unfold modifySocket
  dsimp only
  by_cases hk : socket = k
  · rw [hk, Table.get_set_self]
    exact hf _
  · rw [Table.get_set_of_ne _ _ hk]
    exact hr _

/-! ## A new endpoint -/

/-- A new endpoint was registered, and nothing else changed but its socket. -/
structure Adds (info : EndpointInfo) (socket : SocketId) (s s' : Server) : Prop where
  directory : s'.directory = s.directory.takeId.2.insert info
  endpoint : ∀ j, j ≠ info.id → s'.endpoints.get j = s.endpoints.get j
  sockets : ∀ k, k ≠ socket → s'.sockets.get k = s.sockets.get k
  link : Link.Grows ⟨.ofInfo info socket, s.sockets.get socket, s.pool⟩ (s'.link info.id)

/-- The server with a new endpoint that has not acted yet. -/
def registered (s : Server) (kind : EndpointKind) (family : AddressFamily)
    (peer : Option SocketAddress) (socket : SocketId) : Server :=
  (s.register kind family peer socket).2

theorem register_eq (s : Server) (kind : EndpointKind) (family : AddressFamily)
    (peer : Option SocketAddress) (socket : SocketId) : s.register kind family peer socket =
      (s.directory.nextId, s.registered kind family peer socket) := rfl

theorem adds_registered (s : Server) (kind : EndpointKind) (family : AddressFamily)
    (peer : Option SocketAddress) (socket : SocketId) :
    Adds ⟨s.directory.nextId, kind, family, peer⟩ socket s
      (s.registered kind family peer socket) := by
  refine ⟨rfl, fun j hj => Table.get_set_of_ne _ _ (Ne.symm hj), fun k _ => rfl, ?_⟩
  unfold link registered register
  simp only [Directory.takeId, Table.get_set_self]
  exact .refl _

theorem Adds.trans (h : Adds info socket s s') (h' : Touches info.id s' s'') :
    Adds info socket s s'' := by
  have hsock : (s'.endpoints.get info.id).socket = socket := h.link.socket
  refine ⟨h'.directory.trans h.directory, fun j hj => (h'.endpoint j hj).trans (h.endpoint j hj),
    fun k hk => ?_, h.link.trans h'.link⟩
  rw [h'.sockets k (hsock ▸ hk), h.sockets k hk]

theorem Adds.nextId (h : Adds info socket s s') :
    s'.directory.nextId = s.directory.nextId + 1 := by
  rw [h.directory]
  rfl

theorem Adds.grows (h : Adds info socket s s') (hid : info.id = s.directory.nextId) :
    Grows s s' := by
  have hne {j : EndpointId} (hj : j < s.directory.nextId) :=
    h.endpoint j (hid ▸ Nat.ne_of_lt hj)
  refine ⟨?_, fun j hj => hne hj ▸ .refl _, fun k => ?_, h.link.limit⟩
  · rw [h.nextId]
    exact Nat.le_succ _
  · by_cases hk : k = socket
    · have hl : (s.sockets.get socket).history <+:
          (s'.sockets.get (s'.endpoints.get info.id).socket).history := h.link.history
      have hsock : (s'.endpoints.get info.id).socket = socket := h.link.socket
      rw [hsock] at hl
      rwa [hk]
    · exact h.sockets k hk ▸ List.prefix_rfl

end Server

end OrderedEcho
