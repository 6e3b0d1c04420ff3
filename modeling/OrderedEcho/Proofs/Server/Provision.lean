import OrderedEcho.Proofs.Server.Handling
import OrderedEcho.Proofs.Server.Run

/-!
# The fan-out of all endpoints

`Provided F todo` says that every endpoint which is not closing has as many receives, in flight or
owed, as `F` says, and that an endpoint to which receives are owed is starved, or in the list `todo`
of those that are about to try again.  `Tends` says that a later server is provided for, and that it
closed no datagram endpoint.

That is shown for each way in which a server changes: an endpoint acts (`Provided.touch`), one is
retired (`Provided.retire`), a new one is added (`Provided.add`).  The functions of the server are
made of these.
-/

namespace OrderedEcho

theorem Ascending.mem_starved_iff {a : Ascending EndpointId id} {i j : EndpointId} {waits : Bool} :
    j ∈ (if waits then a.insert i else a).toList ↔ waits = true ∧ j = i ∨ j ∈ a.toList := by
  cases waits with
  | false => simp
  | true =>
    rw [if_pos rfl, Ascending.mem_insert]
    by_cases hj : j = i <;> simp [hj]

theorem kind_of_delivered? {c : Completion} {a : Accepted} (h : c.delivered? = some a) :
    c.operation.kind = .accept := by
  by_contra hk
  rw [Server.delivered?_of_ne hk] at h
  cases h

namespace Server

variable {F F' : EndpointInfo → SocketId → Nat → Prop} {todo todo' : List EndpointId} {B B' : Book}
  {busy : List EndpointId} {held n : Nat} {s s' s'' : Server} {i j : EndpointId}
  {info : EndpointInfo} {socket : SocketId} {op : Operation} {k' : Socket} {c : Completion}
  {waits : Bool}

/-- Every endpoint has its receives, and waits if some of them are owed. -/
structure Provided (F : EndpointInfo → SocketId → Nat → Prop) (todo : List EndpointId)
    (s : Server) : Prop where
  fanOut : ∀ j < s.directory.nextId, (s.endpoints.get j).closing = false →
    F (s.endpoints.get j).toEndpointInfo (s.endpoints.get j).socket (s.link j).fanOut
  waiting : ∀ j < s.directory.nextId, (s.endpoints.get j).closing = false →
    (s.endpoints.get j).deferred ≠ 0 → j ∈ s.starved.toList ∨ j ∈ todo
  starved : ∀ j ∈ s.starved.toList, j ∈ s.directory.ids

theorem Provided.mono (h : Provided F todo s) (hF : ∀ info k n, F info k n → F' info k n) :
    Provided F' todo s :=
  ⟨fun j hj hc => hF _ _ _ (h.fanOut j hj hc), h.waiting, h.starved⟩

theorem Provided.congr (h : Provided F todo s) (hd : s'.directory = s.directory)
    (he : s'.endpoints = s.endpoints) (hs : s'.starved = s.starved)
    (hk : ∀ k, ((s'.sockets.get k).lane .receive).inFlight =
      ((s.sockets.get k).lane .receive).inFlight) : Provided F todo s' := by
  refine ⟨fun j hj hc => ?_, ?_, ?_⟩
  · rw [hd] at hj
    rw [he] at hc ⊢
    have hl : (s'.link j).fanOut = (s.link j).fanOut := by
      unfold link Link.fanOut
      rw [he]
      dsimp only
      rw [hk]
    rw [hl]
    exact h.fanOut j hj hc
  · rw [hd, he, hs]
    exact h.waiting
  · rw [hd, hs]
    exact h.starved

/-! ## One endpoint acts -/

theorem Touches.fanOut_of_ne (ht : Touches i s s') (hj : j ≠ i)
    (hne : (s.endpoints.get j).socket ≠ (s.endpoints.get i).socket) :
    (s'.link j).fanOut = (s.link j).fanOut := by
  unfold Server.link Link.fanOut
  dsimp only
  rw [ht.endpoint j hj, ht.sockets _ hne]

theorem Provided.touch (h : Provided F todo s) (hs : Sound B busy held s)
    (hi : i < s.directory.nextId) (ht : Touches i s s')
    (hstarved : s'.starved = if waits then s.starved.insert i else s.starved)
    (hreg : waits = true → i ∈ s.directory.ids) (htodo : ∀ j ∈ todo, j ≠ i → j ∈ todo')
    (hfan : (s'.endpoints.get i).closing = false → (s'.link i).fanOut = (s.link i).fanOut)
    (hwait : (s'.endpoints.get i).closing = false → (s'.endpoints.get i).deferred ≠ 0 →
      waits = true ∨ i ∈ s.starved.toList ∨ i ∈ todo') : Provided F todo' s' := by
  refine ⟨fun j hj hc => ?_, fun j hj hc hd => ?_, fun j hj => ?_⟩
  · rw [ht.directory] at hj
    by_cases hji : j = i
    · subst hji
      have hinfo : (s'.endpoints.get j).toEndpointInfo = (s.endpoints.get j).toEndpointInfo :=
        ht.link.info
      rw [hinfo, ht.socket_eq, hfan hc]
      exact h.fanOut j hj (ht.link.open hc)
    · rw [ht.fanOut_of_ne hji (hs.socket_ne hi hj hji)]
      rw [ht.endpoint j hji] at hc ⊢
      exact h.fanOut j hj hc
  · rw [ht.directory] at hj
    rw [hstarved, Ascending.mem_starved_iff]
    by_cases hji : j = i
    · subst hji
      rcases hwait hc hd with hw | hw | hw
      · exact Or.inl (Or.inl ⟨hw, rfl⟩)
      · exact Or.inl (Or.inr hw)
      · exact Or.inr hw
    · rw [ht.endpoint j hji] at hc hd
      exact (h.waiting j hj hc hd).imp Or.inr fun hm => htodo j hm hji
  · rw [hstarved, Ascending.mem_starved_iff] at hj
    rw [ht.directory]
    rcases hj with ⟨hw, rfl⟩ | hj
    · exact hreg hw
    · exact h.starved j hj

/-- An act that made up for the receive that came back. -/
theorem Provided.acts (h : Provided F todo s) (hs : Sound B busy held s)
    (hi : i < s.directory.nextId) (ha : Acts i 0 waits s s')
    (hreg : waits = true → i ∈ s.directory.ids) : Provided F todo s' := by
  refine h.touch hs hi ha.toTouches ha.starved hreg (fun _ hj _ => hj) ha.provides.fanOut
    fun hc hd => ?_
  refine (ha.provides.waits hc hd).imp_right fun hd => ?_
  exact h.waiting i hi (ha.provides.grows.open hc) hd

theorem Provided.retire (h : Provided F todo s) (i : EndpointId) :
    Provided F todo (s.retire i).2 := by
  by_cases hd : (s.endpoints.get i).Destroyable
  · have hlane := lift_modifySocket
      (motive := fun k k' => (k'.lane .receive).inFlight = (k.lane .receive).inFlight)
      (fun k => k.inFlight_lane_close .receive) (fun _ => rfl) s (s.endpoints.get i).socket
    -- the endpoint itself is closing, and the others keep their receives
    have hne {j : EndpointId} (hc : ((s.retire i).2.endpoints.get j).closing = false) : j ≠ i := by
      rintro rfl
      rw [retire_of hd] at hc
      dsimp only at hc
      rw [Table.get_set_self] at hc
      exact absurd (hc.symm.trans hd.2.1) (by decide)
    refine ⟨fun j hj hc => ?_, fun j hj hc hx => ?_, fun j hj => ?_⟩
    · have he := endpoint_retire_of_ne s (hne hc)
      have hfan : ((s.retire i).2.link j).fanOut = (s.link j).fanOut := by
        unfold link Link.fanOut
        rw [he, retire_of hd]
        exact congrArg (·.length + _) (hlane _)
      rw [hfan]
      rw [he] at hc ⊢
      rw [retire_of hd] at hj
      exact h.fanOut j hj hc
    · have hji := hne hc
      rw [endpoint_retire_of_ne s hji] at hc hx
      rw [retire_of hd] at hj ⊢
      refine (h.waiting j hj hc hx).imp_left fun hm => ?_
      exact List.mem_filter.2 ⟨hm, bne_iff_ne.2 hji⟩
    · rw [retire_of hd] at hj ⊢
      obtain ⟨hm, hji⟩ := List.mem_filter.1 hj
      exact Directory.mem_ids_erase.2 ⟨h.starved j hm, bne_iff_ne.1 hji⟩
  · rwa [retire_of_not hd]

/-! ## A new endpoint -/

theorem Provided.add (h : Provided F todo s) (hf : Fresh s socket) (ha : Adds info socket s s')
    (hid : info.id = s.directory.nextId)
    (hstarved : s'.starved = if waits then s.starved.insert info.id else s.starved)
    (hF : (s'.endpoints.get info.id).closing = false → F info socket (s'.link info.id).fanOut)
    (hwait : (s'.endpoints.get info.id).closing = false →
      (s'.endpoints.get info.id).deferred ≠ 0 → waits = true) : Provided F todo s' := by
  have hinfo : (s'.endpoints.get info.id).toEndpointInfo = info := ha.link.info
  have hsock : (s'.endpoints.get info.id).socket = socket := ha.link.socket
  have hcases {j : EndpointId} (hj : j < s'.directory.nextId) :
      j = info.id ∨ j < s.directory.nextId ∧ s'.endpoints.get j = s.endpoints.get j := by
    rw [ha.nextId] at hj
    rcases Nat.lt_succ_iff_lt_or_eq.1 hj with hj | hj
    · exact Or.inr ⟨hj, ha.endpoint j (hid ▸ Nat.ne_of_lt hj)⟩
    · exact Or.inl (hj.trans hid.symm)
  refine ⟨fun j hj hc => ?_, fun j hj hc hd => ?_, fun j hj => ?_⟩
  · rcases hcases hj with rfl | ⟨hj, he⟩
    · rw [hinfo, hsock]
      exact hF hc
    · have hfan : (s'.link j).fanOut = (s.link j).fanOut := by
        unfold link Link.fanOut
        dsimp only
        rw [he, ha.sockets _ (hf.1 j hj)]
      rw [hfan]
      rw [he] at hc ⊢
      exact h.fanOut j hj hc
  · rw [hstarved, Ascending.mem_starved_iff]
    rcases hcases hj with rfl | ⟨hj, he⟩
    · exact Or.inl (Or.inl ⟨hwait hc hd, rfl⟩)
    · rw [he] at hc hd
      exact (h.waiting j hj hc hd).imp_left Or.inr
  · rw [hstarved, Ascending.mem_starved_iff] at hj
    rw [ha.directory]
    refine Directory.mem_ids_insert.2 ?_
    rcases hj with ⟨-, rfl⟩ | hj
    · exact Or.inl rfl
    · exact Or.inr (h.starved j hj)

/-! ## What lasts -/

/-- The settings are the same, and no datagram endpoint was closed. -/
structure Lasts (s s' : Server) : Prop extends Grows s s' where
  settings : s'.settings = s.settings
  datagram : ∀ j < s.directory.nextId, (s.endpoints.get j).kind = .datagram →
    (s'.endpoints.get j).closing = (s.endpoints.get j).closing

theorem Lasts.refl (s : Server) : Lasts s s := ⟨.refl s, rfl, fun _ _ _ => rfl⟩

theorem Lasts.trans (h : Lasts s s') (h' : Lasts s' s'') : Lasts s s'' := by
  refine ⟨h.toGrows.trans h'.toGrows, h'.settings.trans h.settings, fun j hj hk => ?_⟩
  have hkind := congrArg EndpointInfo.kind (h.endpoint j hj).info
  rw [h'.datagram j (Nat.lt_of_lt_of_le hj h.nextId) (hkind.trans hk), h.datagram j hj hk]

theorem Acts.lasts (h : Acts i n waits s s') : Lasts s s' := by
  refine ⟨h.toTouches.grows, h.settings, fun j _ hk => ?_⟩
  by_cases hj : j = i
  · subst hj
    exact h.provides.datagram hk
  · rw [h.endpoint j hj]

theorem lasts_retire (s : Server) (i : EndpointId) : Lasts s (s.retire i).2 := by
  refine ⟨grows_retire s i, ?_, fun j _ _ => ?_⟩
  · by_cases hd : (s.endpoints.get i).Destroyable
    · rw [retire_of hd]
    · rw [retire_of_not hd]
  · exact lift_retire (motive := fun e e' => e'.closing = e.closing) (fun _ => rfl) (fun _ => rfl) s
      i j

theorem lasts_of_adds (ha : Adds info socket s s') (hid : info.id = s.directory.nextId)
    (hset : s'.settings = s.settings) : Lasts s s' := by
  refine ⟨ha.grows hid, hset, fun j hj _ => ?_⟩
  rw [ha.endpoint j (hid ▸ Nat.ne_of_lt hj)]

/-- `s'` came after `s`, and is provided for. -/
structure Tends (F : EndpointInfo → SocketId → Nat → Prop) (todo : List EndpointId)
    (s s' : Server) : Prop extends Lasts s s' where
  provided : Provided F todo s'

theorem Tends.trans (h : Lasts s s') (h' : Tends F todo s' s'') : Tends F todo s s'' :=
  ⟨h.trans h'.toLasts, h'.provided⟩

theorem tends_acts (h : Provided F todo s) (hs : Sound B busy held s)
    (hi : i < s.directory.nextId) (ha : Acts i 0 waits s s')
    (hreg : waits = true → i ∈ s.directory.ids) : Tends F todo s s' :=
  ⟨ha.lasts, h.acts hs hi ha hreg⟩

theorem Tends.retire (h : Tends F todo s s') (i : EndpointId) : Tends F todo s (s'.retire i).2 :=
  ⟨h.toLasts.trans (lasts_retire s' i), h.provided.retire i⟩

/-! ## Completions -/

/-- A new stream gets its share of receives. -/
theorem tends_openStream (h : Provided F todo s) (hs : Sound B busy held s) {a : Accepted}
    (hf : Fresh s a.socket) (hdown : s.shuttingDown = false)
    (hF : F ⟨s.directory.nextId, .stream, a.peer.family, some a.peer⟩ a.socket
      (s.pool.share s.settings.fanOut)) (data : List UInt8) :
    Tends F todo s (s.openStream a data).2 := by
  have hlink := link_registered s .stream a.peer.family (some a.peer) a.socket
  have hzero : ((s.registered .stream a.peer.family (some a.peer) a.socket).link
      s.directory.nextId).fanOut = 0 := by
    rw [hlink, Link.fanOut, hs.unowned a.socket hf.1]
    rfl
  have hacts := acts_welcome s a data
  have ha := (adds_registered s .stream a.peer.family (some a.peer) a.socket).trans
    hacts.toTouches
  rw [openStream_eq hdown]
  refine Tends.retire ⟨lasts_of_adds ha rfl hacts.settings, ?_⟩ _
  refine h.add hf ha rfl hacts.starved (fun hc => ?_) fun hc hd => ?_
  · rw [hacts.provides.fanOut hc, hzero, Nat.zero_add]
    exact hF
  · refine (hacts.provides.waits hc hd).resolve_right fun hx => hx ?_
    exact congrArg (·.endpoint.deferred) hlink

/-- Closing the socket of a connection that is turned away changes nothing for the endpoints. -/
theorem tends_closeFresh (h : Provided F todo s) (hs : Sound B busy held s)
    (hf : Fresh s socket) : Tends F todo s (s.modifySocket socket .close) := by
  have hlane := lift_modifySocket
    (motive := fun k k' => (k'.lane .receive).inFlight = (k.lane .receive).inFlight)
    (f := Socket.close) (fun k => k.inFlight_lane_close .receive) (fun _ => rfl) s socket
  exact ⟨⟨(later_closeFresh hs hf).1.grows, rfl, fun _ _ _ => rfl⟩, h.congr rfl rfl rfl hlane⟩

theorem tends_complete (h : Arrives B B' s socket i op k' c) (hs : Sound B [] held s)
    (hp : Provided F todo s) (hd : ∀ a, c.delivered? = some a → Delivers B' s c a)
    (hF : ∀ a, c.delivered? = some a → F ⟨s.directory.nextId, .stream, a.peer.family, some a.peer⟩
      a.socket (s.pool.share s.settings.fanOut)) :
    Tends F todo s ((s.modifySocket socket fun _ => k').complete i c) := by
  obtain ⟨s', hh, he⟩ := h.handles hs
  rw [he]
  refine Tends.retire ?_ i
  -- a completed accept leaves the receives alone
  have hfin (hk : c.operation.kind = .accept) : Tends F todo s (s.finishing socket k' i) ∧
      Sound B' [i] (held + 1) (s.finishing socket k' i) := by
    have hk : op.kind = .accept := h.returns.kind.symm.trans hk
    have ha : Acts i 0 false s (s.finishing socket k' i) := h.acts (by rw [hk]; exact .refl i _)
    exact ⟨tends_acts hp hs (hs.lt_nextId h.registered) ha nofun,
      h.sound_finishing hs (by rw [hk]; decide)⟩
  cases hh with
  | acts ha =>
    exact tends_acts hp hs (hs.lt_nextId h.registered) (h.acts (h.returns.kind ▸ ha))
      fun _ => h.registered
  | turnsAway ha hc =>
    obtain ⟨hfin, hsound⟩ := hfin (kind_of_delivered? ha)
    have hfresh := (hd _ ha).fresh.of_touches h.touches (hs.lt_nextId h.registered)
    have hclose := tends_closeFresh hfin.provided hsound hfresh
    have hl := (later_closeFresh hsound hfresh).1
    exact .trans (hfin.toLasts.trans hclose.toLasts)
      (tends_acts hclose.provided hl.sound (h.lt_nextId hs) (acts_release i _ c.operation) nofun)
  | @opens a meter ha ho =>
    obtain ⟨hfin, hsound⟩ := hfin (kind_of_delivered? ha)
    have hm : Later B' [i] (held + 1) _ { s.finishing socket k' i with meter } :=
      later_of_eq hsound rfl rfl rfl rfl
    have hfresh := (hd a ha).fresh.of_touches h.touches (hs.lt_nextId h.registered)
    have hdown : (s.finishing socket k' i).shuttingDown = false :=
      Bool.eq_false_iff.2 fun hx => ho (Or.inr hx)
    have hpm : Provided F todo { s.finishing socket k' i with meter } :=
      hfin.provided.congr rfl rfl rfl fun _ => rfl
    have hopen := tends_openStream hpm hm.sound hfresh hdown (hF a ha) c.operation.payload
    obtain ⟨hl, -⟩ := later_openStream hm.sound hfresh hdown (hd a ha).opens
    have hlm : Lasts (s.finishing socket k' i) { s.finishing socket k' i with meter } :=
      ⟨hm.grows, rfl, fun _ _ _ => rfl⟩
    have hi := Nat.lt_of_lt_of_le (h.lt_nextId hs) hl.grows.nextId
    exact .trans (hfin.toLasts.trans (hlm.trans hopen.toLasts))
      (tends_acts hopen.provided hl.sound hi (acts_modifyLink (Link.spares_postAccept _ _)) nofun)

/-! ## Starved endpoints -/

theorem Sound.closing_of_deferred (h : Sound B busy held s) (hj : j < s.directory.nextId)
    (hx : (s.endpoints.get j).deferred ≠ 0) : (s.endpoints.get j).closing = false :=
  Bool.eq_false_iff.2 fun hc => hx ((h.endpoint hj).lifecycle.deferred_eq_zero hc)

theorem Sound.mem_ids_of_deferred (h : Sound B busy held s) (hj : j < s.directory.nextId)
    (hx : (s.endpoints.get j).deferred ≠ 0) : j ∈ s.directory.ids := by
  have hc := h.closing_of_deferred hj hx
  exact (h.mem_ids j).2 ⟨hj, (h.endpoint hj).lifecycle.destroyed_of_open hc⟩

/-- Whoever is owed receives is starved. -/
theorem Provided.mem_starved (hp : Provided F [] s) (hs : Sound B busy held s)
    (hj : j < s.directory.nextId) (hx : (s.endpoints.get j).deferred ≠ 0) : j ∈ s.starved.toList :=
  (hp.waiting j hj (hs.closing_of_deferred hj hx) hx).resolve_right List.not_mem_nil

/-- An endpoint that tried again is starved if receives are still owed to it. -/
theorem tends_resume (hs : Sound B [] held s) (hp : Provided F (i :: todo) s) :
    Tends F todo s (s.resume i) := by
  have hrest : ∀ j ∈ i :: todo, j ≠ i → j ∈ todo := fun j hj hne =>
    (List.mem_cons.1 hj).resolve_left hne
  obtain ⟨hn, h⟩ | ⟨s', hi, -, ha, hlink, h⟩ := hs.resume_cases i
  · rw [h]
    refine ⟨.refl s, hp.fanOut, fun j hj hc hx => ?_, hp.starved⟩
    refine (hp.waiting j hj hc hx).imp_right fun hm => hrest j hm ?_
    rintro rfl
    exact hn ⟨hs.mem_ids_of_deferred hj hx, hx⟩
  · rw [h]
    have hd := ((hs.mem_ids i).1 hi).2
    refine Tends.retire ⟨ha.lasts, hp.touch hs (hs.lt_nextId hi) ha.toTouches ha.starved
      (fun _ => hi) hrest ha.provides.fanOut fun hc hx => Or.inl ?_⟩ i
    have he := congrArg Link.endpoint hlink
    exact Link.waits_settle_resume hd (he ▸ hc) (he ▸ hx)

theorem tends_foldl_resume (ids : List EndpointId) (hs : Sound B [] held s)
    (hp : Provided F ids s) : Tends F [] s (ids.foldl resume s) := by
  induction ids generalizing s with
  | nil => exact ⟨.refl s, hp⟩
  | cons i ids ih =>
    have ht := tends_resume hs hp
    exact .trans ht.toLasts (ih (later_foldl_resume [i] hs).sound ht.provided)

theorem tends_resumeStarved (hs : Sound B [] held s) (hp : Provided F [] s)
    (order : VisitingOrder) : Tends F [] s (s.resumeStarved order) := by
  have hl := later_clearStarved hs
  refine .trans ⟨hl.grows, rfl, fun _ _ _ => rfl⟩ (tends_foldl_resume _ hl.sound ⟨hp.fanOut, ?_, nofun⟩)
  intro j hj _ hd
  exact Or.inr (VisitingOrder.mem_arrange.2 (hp.mem_starved hs hj hd))

theorem tends_handle (h : Arrives B B' s socket i op k' c) (hs : Sound B [] held s)
    (hp : Provided F [] s) (hc : Informs B' s i op c)
    (hF : ∀ a, c.delivered? = some a → F ⟨s.directory.nextId, .stream, a.peer.family, some a.peer⟩
      a.socket (s.pool.share s.settings.fanOut)) (order : VisitingOrder) :
    Tends F [] s ((s.modifySocket socket fun _ => k').handle c order) := by
  have ht := tends_complete h hs hp hc.accept hF
  rw [h.handle_eq]
  exact .trans ht.toLasts (tends_resumeStarved (handled_complete h hs hc).sound ht.provided order)

/-! ## Adding endpoints -/

/-- A new endpoint is closed again unless it could post all its first operations. -/
theorem Joins.tends {post : Link → PostResult × Link} {x : Except PostError EndpointId × Server}
    (hj : Joins s info socket post x) (h : Provided F todo s) (hf : Fresh s socket)
    (hid : info.id = s.directory.nextId)
    (hok : ∀ l, Link.postMany post s.settings.fanOut
        ⟨.ofInfo info socket, s.sockets.get socket, s.pool⟩ = (none, l) →
      F info socket l.fanOut ∧ l.endpoint.deferred = 0) : Tends F todo s x.2 := by
  have hstarved {s' : Server} (ha : Enrolls info socket s s') :
      s'.starved = if false then s.starved.insert info.id else s.starved := ha.starved
  cases hj with
  | @joined s' ha hl =>
    obtain ⟨hF, hd⟩ := hok _ hl
    exact ⟨lasts_of_adds ha.toAdds hid ha.settings,
      h.add hf ha.toAdds hid (hstarved ha) (fun _ => hF) fun _ hx => absurd hd hx⟩
  | failed e ha hc =>
    refine Tends.retire ⟨lasts_of_adds ha.toAdds hid ha.settings,
      h.add hf ha.toAdds hid (hstarved ha) (fun hx => ?_) fun hx => ?_⟩ _
    all_goals exact absurd (hx.symm.trans hc) (by decide)

theorem tends_addListener (h : Provided F todo s) (hf : Fresh s socket) (family : AddressFamily)
    (hF : ∀ n, F ⟨s.directory.nextId, .listener, family, none⟩ socket n) :
    Tends F todo s (s.addListener socket family).2 := by
  refine (joins_addListener s socket family).tends h hf rfl fun l hl => ⟨hF _, ?_⟩
  have hp := Link.spares_postMany Link.spares_postNewAccept s.settings.fanOut
    ⟨.ofInfo ⟨s.directory.nextId, .listener, family, none⟩ socket, s.sockets.get socket, s.pool⟩
  have hc := Link.closing_postMany (fun _ => Link.closing_postNewAccept) hl
  rw [hl] at hp
  exact hp.deferred hc

theorem tends_addDatagram (h : Provided F todo s) (hs : Sound B busy held s) (hf : Fresh s socket)
    (family : AddressFamily)
    (hF : F ⟨s.directory.nextId, .datagram, family, none⟩ socket s.settings.fanOut) :
    Tends F todo s (s.addDatagram socket family).2 := by
  refine (joins_addDatagram s socket family).tends h hf rfl fun l hl => ?_
  have hb := hl ▸ Link.batch_postMany (l := ⟨.ofInfo ⟨s.directory.nextId, .datagram, family, none⟩
    socket, s.sockets.get socket, s.pool⟩) rfl s.settings.fanOut
  cases hb with
  | all hstarted =>
    refine ⟨?_, hstarted.deferred⟩
    rw [hstarted.fanOut, Link.fanOut, hs.unowned socket hf.1]
    exact (Nat.zero_add _).symm ▸ hF

/-! ## Shutdown -/

/-- What every act of a sequence keeps is kept by the whole. -/
theorem Sound.foldl {Q : Server → Prop} {f : Server → EndpointId → Server} {ids : List EndpointId}
    (hf : ∀ s, Sound B [] held s → Q s → ∀ i < s.directory.nextId,
      Later B [] held s (f s i) ∧ Q (f s i))
    (hs : Sound B [] held s) (hq : Q s) (hids : ∀ i ∈ ids, i < s.directory.nextId) :
    Q (ids.foldl f s) := by
  induction ids generalizing s with
  | nil => exact hq
  | cons i ids ih =>
    obtain ⟨hl, hq⟩ := hf s hs hq i (hids i List.mem_cons_self)
    refine ih hl.sound hq fun j hj => ?_
    exact Nat.lt_of_lt_of_le (hids j (List.mem_cons_of_mem _ hj)) hl.grows.nextId

/-- Nothing is owed to an endpoint that was closed. -/
theorem provided_abort (h : Provided F todo s) (hs : Sound B busy held s)
    (hi : i < s.directory.nextId) : Provided F todo (s.abort i) := by
  have hc : ((s.modifyLink i (·.close true)).link i).endpoint.closing = true := by
    rw [link_modifyLink]
    rfl
  have hstarved : s.starved = if false then s.starved.insert i else s.starved := rfl
  refine (h.touch hs hi (touches_modifyLink (.close _ true)) hstarved nofun (fun _ hj _ => hj)
    (fun hx => ?_) fun hx => ?_).retire i
  all_goals exact absurd (hx.symm.trans hc) (by decide)

theorem settings_abort (s : Server) (i : EndpointId) : (s.abort i).settings = s.settings :=
  (lasts_retire _ i).settings

theorem provided_shutdown (h : Provided F todo s) (hs : Sound B [] held s)
    (order : VisitingOrder) : Provided F todo (s.shutdown order) ∧
      (s.shutdown order).settings = s.settings := by
  have hl : Later B [] held s { s with shuttingDown := true } := later_of_eq hs rfl rfl rfl rfl
  have hp : Provided F todo { s with shuttingDown := true } := h.congr rfl rfl rfl fun _ => rfl
  refine Sound.foldl (Q := fun s' => Provided F todo s' ∧ s'.settings = s.settings)
    (fun s' hs' hq i hi => ⟨later_abort hs' hi, provided_abort hq.1 hs' hi, ?_⟩) hl.sound ⟨hp, rfl⟩
    fun i hi => hs.lt_nextId (VisitingOrder.mem_arrange.1 hi)
  exact (settings_abort s' i).trans hq.2

/-! ## Runs -/

/-- How many receives an endpoint was given when it was added.  A datagram endpoint was given its
fan-out, and a stream its share when it was accepted. -/
def Entitled (s₀ : Server) (evs : List ServerEvent) (info : EndpointInfo) (k : SocketId)
    (n : Nat) : Prop :=
  match info.kind with
  | .listener => True
  | .datagram => n = s₀.settings.fanOut
  | .stream => Once s₀ evs fun s ev => ev.brings? = some k ∧ n = s.pool.share s₀.settings.fanOut

variable {s₀ : Server} {evs evs' : List ServerEvent} {settings : Settings} {now : Int}

theorem Entitled.append {k : SocketId} (h : Entitled s₀ evs info k n) (evs' : List ServerEvent) :
    Entitled s₀ (evs ++ evs') info k n := by
  unfold Entitled at h ⊢
  split at h
  · trivial
  · exact h
  · exact h.append evs'

/-- One event keeps all endpoints provided for, and nothing but a shutdown closes a datagram
endpoint. -/
theorem Run.tends {ev : ServerEvent} (hr : Run s₀ evs s) (hs : Sound (book s₀ evs) [] 0 s)
    (hp : Provided (Entitled s₀ evs) [] s) (hset : s.settings = s₀.settings) (hev : s.Possible ev) :
    Provided (Entitled s₀ (evs ++ [ev])) [] (s.step ev) ∧ (s.step ev).settings = s.settings ∧
      ((∀ order, ev ≠ .shutdown order) → Lasts s (s.step ev)) := by
  have hp := hp.mono fun _ _ _ hn => hn.append [ev]
  have htends (ht : Tends (Entitled s₀ (evs ++ [ev])) [] s (s.step ev)) :
      Provided (Entitled s₀ (evs ++ [ev])) [] (s.step ev) ∧ (s.step ev).settings = s.settings ∧
        ((∀ order, ev ≠ .shutdown order) → Lasts s (s.step ev)) :=
    ⟨ht.provided, ht.settings, fun _ => ht.toLasts⟩
  cases ev with
  | listen socket family => exact htends (tends_addListener hp hev family fun _ => trivial)
  | bind socket family => exact htends (tends_addDatagram hp hs hev family (congrArg _ hset))
  | shutdown order =>
    obtain ⟨hp', hset'⟩ := provided_shutdown hp hs order
    exact ⟨hp', hset', fun hne => absurd rfl (hne order)⟩
  | refuse socket kind r =>
    exact htends ⟨⟨(later_refuse hs socket kind r).grows, rfl, fun _ _ _ => rfl⟩,
      hp.congr rfl rfl rfl fun k => (same_refuse s socket kind r k).lane .receive⟩
  | complete socket i c order =>
    obtain ⟨⟨op, k', ht, hret⟩, hf⟩ := hev
    obtain ⟨id, ha⟩ := hs.arrives hr ht hret order
    rw [step_complete ht] at htends ⊢
    refine htends (tends_handle ha hs hp (ha.informs hr hs hf) (fun a had => ?_) order)
    exact hr.once ⟨Option.map_eq_some_iff.2 ⟨a, had, rfl⟩, by rw [hset]⟩

theorem provided_ofSettings (h : Server.ofSettings settings now = .ok s₀) :
    Provided (Entitled s₀ []) [] s₀ ∧ s₀.settings = settings := by
  unfold Server.ofSettings at h
  cases hc : settings.check with
  | error e => rw [hc] at h; cases h
  | ok _ =>
    rw [hc] at h
    obtain rfl := Except.ok.inj h
    exact ⟨⟨nofun, nofun, nofun⟩, rfl⟩

theorem Run.provided (h0 : Server.ofSettings settings now = .ok s₀) (h : Run s₀ evs s) :
    Provided (Entitled s₀ evs) [] s ∧ s.settings = settings := by
  obtain ⟨hp, hset⟩ := provided_ofSettings h0
  induction h with
  | start => exact ⟨hp, hset⟩
  | snoc ev hr hev ih =>
    obtain ⟨hp', hset', -⟩ := hr.tends (hr.sound h0) ih.1 (ih.2.trans hset.symm) hev
    exact ⟨hp', hset'.trans ih.2⟩

theorem Run.lasts (h0 : Server.ofSettings settings now = .ok s₀) (h : Run s₀ evs s)
    (h' : Run s evs' s') (hn : ∀ order, .shutdown order ∉ evs') : Lasts s s' := by
  induction h' with
  | start => exact .refl s
  | snoc ev hr hev ih =>
    have hr' := h.trans hr
    obtain ⟨hp, hset⟩ := hr'.provided h0
    have hlast := (hr'.tends (hr'.sound h0) hp
      (hset.trans (provided_ofSettings h0).2.symm) hev).2.2
    have hn' := fun order hm => hn order (List.mem_append_left [ev] hm)
    refine (ih hn').trans (hlast ?_)
    rintro order rfl
    exact hn order (List.mem_append_right _ List.mem_cons_self)

end Server

end OrderedEcho
