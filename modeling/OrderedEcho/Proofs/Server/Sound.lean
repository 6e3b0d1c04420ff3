import OrderedEcho.Proofs.Server.Funds

/-!
# Sound servers

`Sound` gathers what holds of a server between the acts of its endpoints: every link is sound, the
directory lists exactly the endpoints that are not destroyed, no two endpoints share a socket,
nothing is in flight on a socket without an endpoint, and the pool counts what is on the links.  The
number `held` is that of operations which the acts that are going on hold.

An endpoint whose act is over is never stuck in closing: as long as it is not destroyed, something
is in flight on it.  The endpoints in the list `busy` are exempt, since their acts are still going
on.  `Sound.retire` takes an endpoint off that list.

A `Book` is what is known from outside about each endpoint.
-/

namespace OrderedEcho

/-- What is known from outside about the endpoint on each socket. -/
abbrev Book := EndpointInfo → SocketId → Ledger

/-- What is known from outside about an endpoint. -/
def Book.of (B : Book) (e : Endpoint) : Ledger := B e.toEndpointInfo e.socket

theorem Book.of_grows (B : Book) {l l' : Link} (h : Link.Grows l l') :
    B.of l'.endpoint = B.of l.endpoint := by
  unfold Book.of
  rw [h.info, h.socket]

namespace Server

/-- No endpoint was ever on the socket, and nothing was ever asked of it. -/
def Fresh (s : Server) (k : SocketId) : Prop :=
  (∀ i < s.directory.nextId, (s.endpoints.get i).socket ≠ k) ∧ (s.sockets.get k).history = []

/-- There is or was an endpoint on the socket. -/
def Owned (s : Server) (k : SocketId) : Prop :=
  ∃ i < s.directory.nextId, (s.endpoints.get i).socket = k

theorem not_owned_iff {s : Server} {k : SocketId} : ¬ Owned s k ↔
    ∀ i < s.directory.nextId, (s.endpoints.get i).socket ≠ k := by
  unfold Owned
  push Not
  rfl

/-- The link is sound, and its endpoint still has to fill the slots in `due`. -/
abbrev LinkSound (B : Book) (l : Link) (due : List Slot) : Prop :=
  Link.Sound (B.of l.endpoint) l.endpoint l.socket due false

/-- All that holds of a server while the endpoints in `busy` act and hold that many operations. -/
structure Sound (B : Book) (busy : List EndpointId) (held : Nat) (s : Server) : Prop where
  id_eq : ∀ i < s.directory.nextId, (s.endpoints.get i).id = i
  mem_ids : ∀ i, i ∈ s.directory.ids ↔
    i < s.directory.nextId ∧ (s.endpoints.get i).destroyed = false
  socket_inj : ∀ i < s.directory.nextId, ∀ j < s.directory.nextId,
    (s.endpoints.get i).socket = (s.endpoints.get j).socket → i = j
  unowned : ∀ k, (∀ i < s.directory.nextId, (s.endpoints.get i).socket ≠ k) →
    ∀ kind, ((s.sockets.get k).lane kind).inFlight = []
  orderly : ∀ k, (∀ i < s.directory.nextId, (s.endpoints.get i).socket ≠ k) →
    (s.sockets.get k).Orderly
  unknown : ∀ info k, s.directory.nextId ≤ info.id →
    (B info k).done = 0 ∧ ∀ t, (B info k).told t = 0
  links : ∀ i < s.directory.nextId, LinkSound B (s.link i) []
  live : ∀ i < s.directory.nextId, i ∉ busy → (s.endpoints.get i).closing →
    (s.endpoints.get i).destroyed = false → 0 < (s.endpoints.get i).outstanding
  funds : Funded held s

variable {B B' : Book} {busy : List EndpointId} {held held' : Nat} {s s' : Server} {i : EndpointId}
  {info : EndpointInfo} {socket : SocketId}

theorem Sound.weaken (h : Sound B busy held s) (i : EndpointId) : Sound B (i :: busy) held s :=
  ⟨h.id_eq, h.mem_ids, h.socket_inj, h.unowned, h.orderly, h.unknown, h.links,
    fun j hj hb => h.live j hj fun hm => hb (List.mem_cons_of_mem _ hm), h.funds⟩

theorem Sound.endpoint (h : Sound B busy held s) (hi : i < s.directory.nextId) :
    Link.Sound (B.of (s.endpoints.get i)) (s.endpoints.get i)
      (s.sockets.get (s.endpoints.get i).socket) [] false := h.links i hi

theorem Sound.lt_nextId (h : Sound B busy held s) (hi : i ∈ s.directory.ids) : i < s.directory.nextId :=
  ((h.mem_ids i).1 hi).1

theorem Sound.destroyed_of_notMem (h : Sound B busy held s) (hi : i < s.directory.nextId)
    (hn : i ∉ s.directory.ids) : (s.endpoints.get i).destroyed := by
  by_contra hd
  exact hn ((h.mem_ids i).2 ⟨hi, by simpa using hd⟩)

theorem Sound.socket_ne (h : Sound B busy held s) {j : EndpointId} (hi : i < s.directory.nextId)
    (hj : j < s.directory.nextId) (hne : j ≠ i) :
    (s.endpoints.get j).socket ≠ (s.endpoints.get i).socket :=
  fun he => hne (h.socket_inj j hj i hi he)

theorem Sound.orderly_all (h : Sound B busy held s) (k : SocketId) : (s.sockets.get k).Orderly := by
  by_cases ho : Owned s k
  · obtain ⟨i, hi, rfl⟩ := ho
    exact (h.endpoint hi).orderly
  · exact h.orderly k (not_owned_iff.1 ho)

/-- Soundness reads the directory, the endpoints, the sockets and the pool only, and of the sockets
it does not read what they are going to refuse. -/
theorem Sound.congr (h : Sound B busy held s) (hd : s'.directory = s.directory)
    (he : s'.endpoints = s.endpoints) (hp : s'.pool = s.pool)
    (howned : ∀ j < s.directory.nextId, (s.sockets.get (s.endpoints.get j).socket).Same
      (s'.sockets.get (s.endpoints.get j).socket))
    (hlane : ∀ k kind, ((s'.sockets.get k).lane kind).inFlight =
      ((s.sockets.get k).lane kind).inFlight)
    (horderly : ∀ k, (s.sockets.get k).Orderly → (s'.sockets.get k).Orderly) :
    Sound B busy held s' := by
  refine ⟨?_, ?_, ?_, ?_, ?_, ?_, fun j hj => ?_, ?_, ?_⟩
  · rw [hd, he]; exact h.id_eq
  · rw [hd, he]; exact h.mem_ids
  · rw [hd, he]; exact h.socket_inj
  · rw [hd, he]
    intro k hk kind
    rw [hlane]
    exact h.unowned k hk kind
  · rw [hd, he]
    exact fun k hk => horderly k (h.orderly k hk)
  · rw [hd]; exact h.unknown
  · rw [hd] at hj
    have hl := (h.endpoint hj).same (howned j hj)
    unfold link
    rw [he]
    exact hl
  · rw [hd, he]; exact h.live
  · refine h.funds.congr hp (load_congr (by rw [hd]) fun j _ => ?_)
    exact load_link_congr (by rw [he]) (by rw [he]) fun kind => hlane _ kind

theorem Sound.of_eq (h : Sound B busy held s) (hd : s'.directory = s.directory)
    (he : s'.endpoints = s.endpoints) (hk : s'.sockets = s.sockets) (hp : s'.pool = s.pool) :
    Sound B busy held s' :=
  h.congr hd he hp (fun _ _ => hk ▸ ⟨rfl, rfl, fun _ => rfl⟩) (fun _ _ => by rw [hk])
    (fun _ hx => hk ▸ hx)

theorem Sound.release (h : Sound B busy (held + 1) s) (op : Operation) :
    Sound B busy held (s.release op) :=
  ⟨h.id_eq, h.mem_ids, h.socket_inj, h.unowned, h.orderly, h.unknown, h.links, h.live,
    h.funds.release op⟩

theorem Sound.mono (h : Sound B busy held s) (hB : ∀ info k, (B info k).Extends (B' info k)) :
    Sound B' busy held s := by
  refine ⟨h.id_eq, h.mem_ids, h.socket_inj, h.unowned, h.orderly, fun info k hn => ?_,
    fun i hi => (h.links i hi).mono (hB _ _), h.live, h.funds⟩
  rw [(hB info k).done, (hB info k).told]
  exact h.unknown info k hn

/-! ## One endpoint acts -/

/-- If an endpoint acts and its link is sound in the end, the server is. -/
theorem Sound.touch (h : Sound B (i :: busy) held s) (ht : Touches i s s')
    (hi : i < s.directory.nextId)
    (hB : ∀ info k, info.id ≠ i → (B info k).Extends (B' info k))
    (hl : LinkSound B' (s'.link i) []) (hf : Link.Funded (s.loadBut i) (s'.link i) held') :
    Sound B' (i :: busy) held' s' := by
  have hid (j : EndpointId) : (s'.endpoints.get j).id = (s.endpoints.get j).id :=
    ht.lift (motive := fun e e' => e'.id = e.id) (congrArg EndpointInfo.id ht.link.info)
      (fun _ => rfl) j
  have hsock (j : EndpointId) : (s'.endpoints.get j).socket = (s.endpoints.get j).socket :=
    ht.lift (motive := fun e e' => e'.socket = e.socket) ht.link.socket (fun _ => rfl) j
  have hdest (j : EndpointId) : (s'.endpoints.get j).destroyed = (s.endpoints.get j).destroyed :=
    ht.lift (motive := fun e e' => e'.destroyed = e.destroyed) ht.link.destroyed (fun _ => rfl) j
  refine ⟨?_, ?_, ?_, ?_, ?_, ?_, fun j hj => ?_, ?_, ?_⟩
  · simpa only [ht.directory, hid] using h.id_eq
  · simpa only [ht.directory, hdest] using h.mem_ids
  · simpa only [ht.directory, hsock] using h.socket_inj
  · simp only [ht.directory, hsock]
    intro k hk kind
    rw [ht.sockets k (Ne.symm (hk i hi))]
    exact h.unowned k hk kind
  · simp only [ht.directory, hsock]
    intro k hk
    rw [ht.sockets k (Ne.symm (hk i hi))]
    exact h.orderly k hk
  · rw [ht.directory]
    intro info k hn
    have hx := hB info k fun he => absurd hi (he ▸ Nat.not_lt.2 hn)
    rw [hx.done, hx.told]
    exact h.unknown info k hn
  · rw [ht.directory] at hj
    by_cases hji : j = i
    · exact hji ▸ hl
    · have hls := h.links j hj
      have hne : (s.endpoints.get j).id ≠ i := by rwa [h.id_eq j hj]
      unfold link at hls ⊢
      dsimp only at hls ⊢
      rw [ht.endpoint j hji, ht.sockets _ (h.socket_ne hi hj hji)]
      exact hls.mono (hB _ _ hne)
  · rw [ht.directory]
    intro j hj hb
    have hji : j ≠ i := fun he => hb (he ▸ List.mem_cons_self)
    rw [ht.endpoint j hji]
    exact h.live j hj hb
  · have hb := ht.loadBut_eq fun j hj hji => h.socket_ne hi hj hji
    exact .of_link (by rwa [ht.directory]) (hb ▸ hf)

theorem Book.extends_refl (L : Ledger) : L.Extends L := ⟨fun _ _ => id, rfl, rfl, fun _ => id⟩

theorem Sound.touch_path (h : Sound B (i :: busy) held s) (ht : Touches i s s')
    (hi : i < s.directory.nextId)
    (hp : Link.Path (B.of (s.endpoints.get i)).outcome ⟨s.link i, [], held, false⟩
      ⟨s'.link i, [], held', false⟩) : Sound B (i :: busy) held' s' := by
  refine h.touch ht hi (fun _ _ _ => Book.extends_refl _) ?_ (.path hp (h.funds.link hi))
  have hl := Link.Sound.path hp (h.endpoint hi)
  rw [LinkSound, B.of_grows ht.link]
  exact hl

/-! ## Retiring -/

theorem retire_of_not (h : ¬ (s.endpoints.get i).Destroyable) : s.retire i = (false, s) := by
  unfold retire Endpoint.tryDestroy
  rw [if_neg h]

theorem retire_of_open (hc : (s.endpoints.get i).closing = false) : (s.retire i).2 = s := by
  rw [retire_of_not fun h => absurd (hc.symm.trans h.2.1) (by decide)]

theorem retire_of (h : (s.endpoints.get i).Destroyable) : s.retire i =
    (true, { s with
      directory := s.directory.erase i
      endpoints := s.endpoints.set i { s.endpoints.get i with destroyed := true }
      starved := s.starved.filter (· != i)
      sockets := s.sockets.set (s.endpoints.get i).socket
        (s.sockets.get (s.endpoints.get i).socket).close }) := by
  unfold retire Endpoint.tryDestroy
  rw [if_pos h]
  rfl

/-- Only the endpoint that is retired changes, and of it nothing but `destroyed`. -/
theorem lift_retire {motive : Endpoint → Endpoint → Prop} (hr : ∀ e, motive e e)
    (hd : ∀ e, motive e { e with destroyed := true }) (s : Server) (i j : EndpointId) :
    motive (s.endpoints.get j) ((s.retire i).2.endpoints.get j) := by
  by_cases h : (s.endpoints.get i).Destroyable
  · rw [retire_of h]
    dsimp only
    by_cases hji : j = i
    · rw [hji, Table.get_set_self]
      exact hd _
    · rw [Table.get_set_of_ne _ _ (Ne.symm hji)]
      exact hr _
  · rw [retire_of_not h]
    exact hr _

theorem deferred_retire (s : Server) (i j : EndpointId) :
    ((s.retire i).2.endpoints.get j).deferred = (s.endpoints.get j).deferred :=
  lift_retire (motive := fun e e' => e'.deferred = e.deferred) (fun _ => rfl) (fun _ => rfl) s i j

theorem starved_retire_subset (s : Server) (i : EndpointId) :
    (s.retire i).2.starved.toList ⊆ s.starved.toList := by
  by_cases hd : (s.endpoints.get i).Destroyable
  · rw [retire_of hd]
    exact List.filter_subset_self _
  · rw [retire_of_not hd]
    exact List.Subset.refl _

theorem endpoint_retire_of_ne (s : Server) {j : EndpointId} (hj : j ≠ i) :
    (s.retire i).2.endpoints.get j = s.endpoints.get j := by
  by_cases h : (s.endpoints.get i).Destroyable
  · rw [retire_of h]
    exact Table.get_set_of_ne _ _ (Ne.symm hj)
  · rw [retire_of_not h]

theorem socket_retire_of_ne (s : Server) {k : SocketId} (hk : k ≠ (s.endpoints.get i).socket) :
    (s.retire i).2.sockets.get k = s.sockets.get k := by
  by_cases h : (s.endpoints.get i).Destroyable
  · rw [retire_of h]
    exact Table.get_set_of_ne _ _ (Ne.symm hk)
  · rw [retire_of_not h]

/-- Retiring an endpoint does not end operations. -/
theorem inFlight_retire (s : Server) (i : EndpointId) (k : SocketId) (kind : OperationKind) :
    (((s.retire i).2.sockets.get k).lane kind).inFlight =
      ((s.sockets.get k).lane kind).inFlight := by
  by_cases hd : (s.endpoints.get i).Destroyable
  · rw [retire_of hd]
    exact lift_modifySocket
      (motive := fun k k' => (k'.lane kind).inFlight = (k.lane kind).inFlight)
      (fun k => k.inFlight_lane_close kind) (fun _ => rfl) s (s.endpoints.get i).socket k
  · rw [retire_of_not hd]

@[simp] theorem pool_retire (s : Server) (i : EndpointId) : (s.retire i).2.pool = s.pool := by
  by_cases h : (s.endpoints.get i).Destroyable
  · rw [retire_of h]
  · rw [retire_of_not h]

@[simp] theorem nextId_retire (s : Server) (i : EndpointId) :
    (s.retire i).2.directory.nextId = s.directory.nextId := by
  by_cases h : (s.endpoints.get i).Destroyable
  · rw [retire_of h]
    rfl
  · rw [retire_of_not h]

/-- After an endpoint was retired, it is either destroyed or not done. -/
theorem Sound.retire (h : Sound B (i :: busy) held s) (hi : i < s.directory.nextId) :
    Sound B busy held (s.retire i).2 := by
  by_cases hd : (s.endpoints.get i).Destroyable
  · have hid := lift_retire (motive := fun e e' => e'.id = e.id) (fun _ => rfl) (fun _ => rfl) s i
    have hsock :=
      lift_retire (motive := fun e e' => e'.socket = e.socket) (fun _ => rfl) (fun _ => rfl) s i
    rw [retire_of hd] at hid hsock ⊢
    have hk' {k : SocketId} (hk : ∀ j < s.directory.nextId, _ ≠ k) (j : EndpointId)
        (hj : j < s.directory.nextId) : (s.endpoints.get j).socket ≠ k := hsock j ▸ hk j hj
    refine ⟨fun j hj => (hid j).trans (h.id_eq j hj), fun j => ?_, fun j hj j' hj' he => ?_,
      fun k hk kind => ?_, fun k hk => ?_, h.unknown, fun j hj => ?_, fun j hj hb => ?_, ?_⟩
    · refine Directory.mem_ids_erase.trans ?_
      rw [h.mem_ids j]
      dsimp only
      by_cases hji : j = i
      · subst hji
        simp only [ne_eq, not_true_eq_false, and_false, Table.get_set_self, Bool.true_eq_false]
      · simp only [ne_eq, hji, not_false_eq_true, and_true, Table.get_set_of_ne _ _ (Ne.symm hji)]
        rfl
    · rw [hsock j, hsock j'] at he
      exact h.socket_inj j hj j' hj' he
    · dsimp only
      rw [Table.get_set_of_ne _ _ (hk' hk i hi)]
      exact h.unowned k (hk' hk) kind
    · dsimp only
      rw [Table.get_set_of_ne _ _ (hk' hk i hi)]
      exact h.orderly k (hk' hk)
    · by_cases hji : j = i
      · subst hji
        have hl := (h.endpoint hi).destroy hd
        unfold link
        simp only [Table.get_set_self]
        exact hl
      · have hl := h.links j hj
        unfold link at hl ⊢
        simp only [Table.get_set_of_ne _ _ (Ne.symm hji),
          Table.get_set_of_ne _ _ (Ne.symm (h.socket_ne hi hj hji))]
        exact hl
    · dsimp only
      by_cases hji : j = i
      · subst hji
        simp only [Table.get_set_self, Bool.true_eq_false, false_implies, implies_true]
      · rw [Table.get_set_of_ne _ _ (Ne.symm hji)]
        exact h.live j hj fun hm => (List.mem_cons.1 hm).elim hji hb
    · have hreq := lift_retire (motive := fun e e' => e'.resequencer = e.resequencer)
        (fun _ => rfl) (fun _ => rfl) s i
      rw [retire_of hd] at hreq
      refine h.funds.congr rfl (load_congr rfl fun j _ => ?_)
      refine load_link_congr (hsock j) (hreq j) fun kind => ?_
      rw [← retire_of hd]
      exact inFlight_retire s i _ kind
  · rw [retire_of_not hd]
    refine ⟨h.id_eq, h.mem_ids, h.socket_inj, h.unowned, h.orderly, h.unknown, h.links,
      fun j hj hb hc hn => ?_, h.funds⟩
    by_cases hji : j = i
    · subst hji
      by_contra h0
      exact hd ((h.endpoint hi).destroyable_iff.2 ⟨hn, hc, Nat.eq_zero_of_not_pos h0⟩)
    · exact h.live j hj (fun hm => (List.mem_cons.1 hm).elim hji hb) hc hn

end Server

end OrderedEcho
