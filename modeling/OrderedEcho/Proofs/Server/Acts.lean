import OrderedEcho.Proofs.Server.Sound

/-!
# Acts of the server

`Later B busy held s s'` says that `s'` is a sound server that came after `s`.  Each function of the
server that no completion is needed for leads to such a state: `later_retire` and `later_act` for
what the others are made of, and then `later_abort`, `later_shutdown`, `later_resumeStarved` and
`later_addEndpoint`.
-/

namespace OrderedEcho

namespace Server

/-- `s'` came after `s`, and is sound while the endpoints in `busy` act and hold that many
operations. -/
structure Later (B : Book) (busy : List EndpointId) (held : Nat) (s s' : Server) : Prop where
  sound : Sound B busy held s'
  grows : Grows s s'

variable {B B' : Book} {busy : List EndpointId} {held held' : Nat} {s s' s'' : Server} {i : EndpointId}
  {info : EndpointInfo} {socket : SocketId}

theorem Later.refl (h : Sound B busy held s) : Later B busy held s s := ⟨h, .refl s⟩

theorem Later.trans (h : Grows s s') (h' : Later B busy held s' s'') : Later B busy held s s'' :=
  ⟨h'.sound, h.trans h'.grows⟩

theorem Grows.of_eq (hd : s'.directory = s.directory) (he : s'.endpoints = s.endpoints)
    (hk : s'.sockets = s.sockets) (hl : s'.pool.limit = s.pool.limit) : Grows s s' :=
  (Touches.of_eq (i := 0) hd he hk hl).grows

theorem Grows.owned (h : Grows s s') (ho : Owned s socket) : Owned s' socket := by
  obtain ⟨i, hi, rfl⟩ := ho
  exact ⟨i, Nat.lt_of_lt_of_le hi h.nextId, (h.endpoint i hi).socket⟩

theorem later_of_eq (h : Sound B busy held s) (hd : s'.directory = s.directory)
    (he : s'.endpoints = s.endpoints) (hk : s'.sockets = s.sockets) (hp : s'.pool = s.pool) :
    Later B busy held s s' :=
  ⟨h.of_eq hd he hk hp, .of_eq hd he hk (by rw [hp])⟩

theorem later_release (h : Sound B busy (held + 1) s) (op : Operation) :
    Later B busy held s (s.release op) :=
  ⟨h.release op, .of_eq rfl rfl rfl (Pool.limit_release _ _)⟩

/-! ## Retiring -/

theorem grows_retire (s : Server) (i : EndpointId) : Grows s (s.retire i).2 := by
  refine ⟨Nat.le_of_eq (nextId_retire s i).symm, fun j _ => ?_, fun k => ?_, by rw [pool_retire]⟩
  · exact lift_retire .refl (fun _ => ⟨rfl, rfl, id, id, fun _ => rfl⟩) s i j
  · by_cases h : (s.endpoints.get i).Destroyable
    · rw [retire_of h]
      exact lift_modifySocket (motive := fun k k' => k.history <+: k'.history)
        (fun _ => List.prefix_append _ _) (fun _ => List.prefix_rfl) s _ k
    · exact (retire_of_not h).symm ▸ List.prefix_rfl

theorem later_retire (h : Sound B (i :: busy) held s) (hi : i < s.directory.nextId) :
    Later B busy held s (s.retire i).2 := ⟨h.retire hi, grows_retire s i⟩

/-- An endpoint acts and is retired if that left nothing to do for it. -/
theorem later_touch (h : Sound B (i :: busy) held s) (ht : Touches i s s')
    (hi : i < s.directory.nextId)
    (hB : ∀ info k, info.id ≠ i → (B info k).Extends (B' info k))
    (hl : LinkSound B' (s'.link i) []) (hf : Link.Funded (s.loadBut i) (s'.link i) held') :
    Later B' busy held' s (s'.retire i).2 := by
  have hi' : i < s'.directory.nextId := by rwa [ht.directory]
  exact .trans ht.grows (later_retire (h.touch ht hi hB hl hf) hi')

/-- The same for an act that begins and ends without owing anything. -/
theorem later_act (h : Sound B (i :: busy) held s) (hi : i < s.directory.nextId)
    {f : Link → Bool × Link}
    (hp : Link.Path (B.of (s.endpoints.get i)).outcome ⟨s.link i, [], held, false⟩
      ⟨(f (s.link i)).2, [], held', false⟩) : Later B busy held' s ((s.act i f).retire i).2 := by
  have ht : Touches i s (s.act i f) := touches_act (.path hp)
  have hi' : i < (s.act i f).directory.nextId := by rwa [ht.directory]
  exact .trans ht.grows (later_retire (h.touch_path ht hi (by rwa [link_act])) hi')

theorem later_modifyLink (h : Sound B (i :: busy) held s) (hi : i < s.directory.nextId)
    {f : Link → Link}
    (hp : Link.Path (B.of (s.endpoints.get i)).outcome ⟨s.link i, [], held, false⟩
      ⟨f (s.link i), [], held', false⟩) :
    Later B busy held' s ((s.modifyLink i f).retire i).2 := by
  have ht : Touches i s (s.modifyLink i f) := touches_modifyLink (.path hp)
  have hi' : i < (s.modifyLink i f).directory.nextId := by rwa [ht.directory]
  exact .trans ht.grows (later_retire (h.touch_path ht hi (by rwa [link_modifyLink])) hi')

/-! ## Closing -/

theorem later_abort (h : Sound B [] held s) (hi : i < s.directory.nextId) :
    Later B [] held s (s.abort i) :=
  later_modifyLink (h.weaken i) hi (.single (.close true (by simp)))

theorem later_foldl {f : Server → EndpointId → Server} {ids : List EndpointId}
    (hf : ∀ s, Sound B [] held s → ∀ i < s.directory.nextId, Later B [] held s (f s i))
    (h : Sound B [] held s) (hids : ∀ i ∈ ids, i < s.directory.nextId) :
    Later B [] held s (ids.foldl f s) := by
  induction ids generalizing s with
  | nil => exact .refl h
  | cons i ids ih =>
    have hs := hf s h i (hids i List.mem_cons_self)
    refine .trans hs.grows (ih hs.sound fun j hj => ?_)
    exact Nat.lt_of_lt_of_le (hids j (List.mem_cons_of_mem _ hj)) hs.grows.nextId

theorem later_shutdown (h : Sound B [] held s) (order : VisitingOrder) :
    Later B [] held s (s.shutdown order) := by
  have h0 : Later B [] held s { s with shuttingDown := true } := later_of_eq h rfl rfl rfl rfl
  exact .trans h0.grows (later_foldl (fun _ h _ hi => later_abort h hi) h0.sound fun _ hi =>
    h0.sound.lt_nextId (VisitingOrder.mem_arrange.1 hi))

/-! ## Starved endpoints -/

/-- All starved endpoints are taken off their list, which is where their retries begin. -/
theorem later_clearStarved (h : Sound B busy held s) :
    Later B busy held s { s with starved := .empty } := later_of_eq h rfl rfl rfl rfl

theorem later_resume (h : Sound B [] held s) (hi : i < s.directory.nextId) :
    Later B [] held s (s.resume i) := by
  unfold resume
  split
  · exact later_act (h.weaken i) hi Link.path_settle_resume
  · exact .refl h

theorem resume_of_not_mem (h : i ∉ s.directory.ids) : s.resume i = s := by
  unfold resume
  rw [if_neg fun hc => h (Directory.contains_iff.1 hc.1)]

/-- An id that was never handed out is not registered, so nothing is resumed for it. -/
theorem later_foldl_resume (ids : List EndpointId) (h : Sound B [] held s) :
    Later B [] held s (ids.foldl resume s) := by
  induction ids generalizing s with
  | nil => exact .refl h
  | cons i ids ih =>
    by_cases hi : i ∈ s.directory.ids
    · have hs := later_resume h (h.lt_nextId hi)
      exact .trans hs.grows (ih hs.sound)
    · rw [List.foldl_cons, resume_of_not_mem hi]
      exact ih h

/-- What every retry keeps is kept when a list of endpoints try again. -/
theorem Sound.foldl_resume {P : Server → Prop} (hs : Sound B [] held s) (h : P s)
    (hstep : ∀ s i, Sound B [] held s → P s → P (s.resume i)) (ids : List EndpointId) :
    P (ids.foldl resume s) := by
  induction ids generalizing s with
  | nil => exact h
  | cons i ids ih => exact ih (later_foldl_resume [i] hs).sound (hstep s i hs h)

theorem later_resumeStarved (h : Sound B [] held s) (order : VisitingOrder) :
    Later B [] held s (s.resumeStarved order) := by
  have h0 := later_clearStarved h
  exact .trans h0.grows (later_foldl_resume _ h0.sound)

/-! ## New endpoints -/

theorem Sound.add (h : Sound B busy held s) (hf : Fresh s socket) (ha : Adds info socket s s')
    (hid : info.id = s.directory.nextId) (hl : LinkSound B (s'.link info.id) [])
    (hfunds : Link.Funded s.load (s'.link info.id) held') :
    Sound B (info.id :: busy) held' s' := by
  have hnext := ha.nextId
  have hold {j : EndpointId} (hj : j < s.directory.nextId) :
      s'.endpoints.get j = s.endpoints.get j := ha.endpoint j (hid ▸ Nat.ne_of_lt hj)
  have hinfo : (s'.endpoints.get info.id).toEndpointInfo = info := ha.link.info
  have hsock : (s'.endpoints.get info.id).socket = socket := ha.link.socket
  have hdest : (s'.endpoints.get info.id).destroyed = false := ha.link.destroyed
  have hcases {j : EndpointId} (hj : j < s'.directory.nextId) :
      j < s.directory.nextId ∨ j = info.id := by
    rw [hnext] at hj
    rw [hid]
    exact Nat.lt_succ_iff_lt_or_eq.1 hj
  have hlt {j : EndpointId} (hj : j < s.directory.nextId) : j < s'.directory.nextId :=
    hnext ▸ Nat.lt_succ_of_lt hj
  have hnew : info.id < s'.directory.nextId := by
    rw [hnext, hid]
    exact Nat.lt_succ_self _
  refine ⟨fun j hj => ?_, fun j => ?_, fun j hj j' hj' he => ?_, fun k hk kind => ?_,
    fun k hk => ?_, fun info' k hn => ?_, fun j hj => ?_, fun j hj hb => ?_, ?_⟩
  · rcases hcases hj with hj | rfl
    · rw [hold hj]
      exact h.id_eq j hj
    · rw [hinfo]
  · rw [ha.directory]
    refine Directory.mem_ids_insert.trans ?_
    have hids : j ∈ s.directory.takeId.2.ids ↔ j ∈ s.directory.ids := Iff.rfl
    rw [hids, h.mem_ids, ← ha.directory]
    constructor
    · rintro (rfl | ⟨hj, hd⟩)
      · exact ⟨hnew, hdest⟩
      · exact ⟨hlt hj, hold hj ▸ hd⟩
    · rintro ⟨hj, hd⟩
      rcases hcases hj with hj | rfl
      · exact Or.inr ⟨hj, hold hj ▸ hd⟩
      · exact Or.inl rfl
  · rcases hcases hj with hj | rfl <;> rcases hcases hj' with hj' | rfl
    · rw [hold hj, hold hj'] at he
      exact h.socket_inj j hj j' hj' he
    · rw [hold hj, hsock] at he
      exact absurd he (hf.1 j hj)
    · rw [hold hj', hsock] at he
      exact absurd he.symm (hf.1 j' hj')
    · rfl
  · rw [ha.sockets k fun he => hk _ hnew (hsock.trans he.symm)]
    exact h.unowned k (fun j hj => hold hj ▸ hk j (hlt hj)) kind
  · rw [ha.sockets k fun he => hk _ hnew (hsock.trans he.symm)]
    exact h.orderly k fun j hj => hold hj ▸ hk j (hlt hj)
  · rw [hnext] at hn
    exact h.unknown info' k (Nat.le_of_succ_le hn)
  · rcases hcases hj with hj | rfl
    · have hls := h.links j hj
      unfold link at hls ⊢
      dsimp only at hls ⊢
      rw [hold hj, ha.sockets _ (hf.1 j hj)]
      exact hls
    · exact hl
  · rcases hcases hj with hj | rfl
    · rw [hold hj]
      exact h.live j hj fun hm => hb (List.mem_cons_of_mem _ hm)
    · exact absurd List.mem_cons_self hb
  · exact .of_link hnew (ha.loadBut_eq hid hf.1 ▸ hfunds)

theorem link_registered (s : Server) (kind : EndpointKind) (family : AddressFamily)
    (peer : Option SocketAddress) (socket : SocketId) :
    (s.registered kind family peer socket).link s.directory.nextId =
      ⟨.ofInfo ⟨s.directory.nextId, kind, family, peer⟩ socket, s.sockets.get socket, s.pool⟩ := by
  unfold link registered register
  simp only [Directory.takeId, Table.get_set_self]
  rfl

theorem Sound.link_registered (h : Sound B busy held s) (hf : Fresh s socket) (kind : EndpointKind)
    (family : AddressFamily) (peer : Option SocketAddress) :
    LinkSound B ((s.registered kind family peer socket).link s.directory.nextId)
      (List.range kind.firstReceive) := by
  rw [Server.link_registered]
  obtain ⟨hd, ht⟩ := h.unknown ⟨s.directory.nextId, kind, family, peer⟩ socket (Nat.le_refl _)
  exact Link.sound_ofInfo hf.2 (h.orderly socket hf.1) (h.unowned socket hf.1) hd ht

/-- Nothing is on the link of a new endpoint. -/
theorem Sound.funded_registered (h : Sound B busy held s) (hf : Fresh s socket)
    (kind : EndpointKind) (family : AddressFamily) (peer : Option SocketAddress) :
    Link.Funded s.load ((s.registered kind family peer socket).link s.directory.nextId) held := by
  rw [Server.link_registered]
  refine ⟨?_, h.funds.within⟩
  have h0 : (s.sockets.get socket).inFlight.length = 0 := by
    simp only [Socket.length_inFlight, h.unowned socket hf.1, List.length_nil]
  show s.pool.outstanding = (s.sockets.get socket).inFlight.length + 0 + held + s.load
  rw [h0, h.funds.outstanding]
  omega

theorem later_register (h : Sound B busy held s) (hf : Fresh s socket) {kind : EndpointKind}
    {family : AddressFamily} {peer : Option SocketAddress}
    (ht : Touches s.directory.nextId (s.registered kind family peer socket) s')
    (hp : Link.Path (B ⟨s.directory.nextId, kind, family, peer⟩ socket).outcome
      ⟨(s.registered kind family peer socket).link s.directory.nextId,
        List.range kind.firstReceive, held, false⟩
      ⟨s'.link s.directory.nextId, [], held', false⟩) :
    Later B (s.directory.nextId :: busy) held' s s' ∧ Owned s' socket := by
  have ha := (adds_registered s kind family peer socket).trans ht
  have hl := h.link_registered hf kind family peer
  refine ⟨⟨h.add hf ha rfl ?_ (.path hp (h.funded_registered hf kind family peer)), ha.grows rfl⟩,
    s.directory.nextId, ha.nextId ▸ Nat.lt_succ_self _, ha.link.socket⟩
  rw [link_registered] at hl hp
  rw [LinkSound, B.of_grows ha.link]
  exact .path hp hl

theorem Sound.of_open (h : Sound B (i :: busy) held s) (hc : (s.endpoints.get i).closing = false) :
    Sound B busy held s := by
  refine ⟨h.id_eq, h.mem_ids, h.socket_inj, h.unowned, h.orderly, h.unknown, h.links,
    fun j hj hb hcj => ?_, h.funds⟩
  refine h.live j hj (fun hm => ?_) hcj
  rcases List.mem_cons.1 hm with rfl | hm
  · exact absurd (hc.symm.trans hcj) (by decide)
  · exact hb hm

/-- A new endpoint posts its first operations.  If one cannot be posted, it is closed again. -/
theorem later_addEndpoint (h : Sound B [] held s) (hf : Fresh s socket) {kind : EndpointKind}
    (hk : kind.firstReceive = 0) (family : AddressFamily) {post : Link → PostResult × Link}
    (hpost : ∀ (P : Slot → Entry Operation → Prop) (l : Link),
      Link.Path P ⟨l, [], held, false⟩ ⟨(post l).2, [], held, false⟩)
    (hopen : ∀ l, (post l).1 = .ok () → (post l).2.endpoint.closing = l.endpoint.closing) :
    Later B [] held s (s.addEndpoint kind family socket post).2 ∧
      Owned (s.addEndpoint kind family socket post).2 socket := by
  have hpath (P : Slot → Entry Operation → Prop) (n : Nat) (l : Link) :
      Link.Path P ⟨l, List.range kind.firstReceive, held, false⟩
        ⟨(Link.postMany post n l).2, [], held, false⟩ := by
    rw [hk]
    exact Link.path_postMany (hpost P) n l
  unfold addEndpoint
  rw [register_eq]
  dsimp only
  have hp := fun P => hpath P (s.registered kind family none socket).settings.fanOut
    ((s.registered kind family none socket).link s.directory.nextId)
  split
  · next l hl =>
    rw [hl] at hp
    obtain ⟨hs, ho⟩ := later_register h hf (touches_setLink (.path (hp fun _ _ => True)))
      (by rw [link_setLink]; exact hp _)
    have hc : l.endpoint.closing = false := by
      rw [Link.closing_postMany hopen hl, link_registered]
      rfl
    refine ⟨⟨hs.sound.of_open ?_, hs.grows⟩, ho⟩
    exact (congrArg (·.endpoint.closing) (link_setLink _ _ l)).trans hc
  · next i l hl =>
    rw [hl] at hp
    have hp := fun P => (hp P).tail (.close true (by simp))
    obtain ⟨hs, ho⟩ := later_register h hf (touches_setLink (.path (hp fun _ _ => True)))
      (by rw [link_setLink]; exact hp _)
    have hr := later_retire hs.sound (Nat.lt_succ_self _)
    exact ⟨.trans hs.grows hr, hr.grows.owned ho⟩

theorem later_addListener (h : Sound B [] held s) (hf : Fresh s socket) (family : AddressFamily) :
    Later B [] held s (s.addListener socket family).2 ∧ Owned (s.addListener socket family).2 socket :=
  later_addEndpoint h hf rfl family (fun _ _ => Link.path_postNewAccept)
    fun _ => Link.closing_postNewAccept

theorem later_addDatagram (h : Sound B [] held s) (hf : Fresh s socket) (family : AddressFamily) :
    Later B [] held s (s.addDatagram socket family).2 ∧ Owned (s.addDatagram socket family).2 socket :=
  later_addEndpoint h hf rfl family (fun _ _ => Link.path_postNewReceive)
    fun _ => Link.closing_postNewReceive

end Server

end OrderedEcho
