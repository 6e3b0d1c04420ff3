import OrderedEcho.Proofs.Link.Echo

/-!
# What is in flight

`Routed` says that an operation in flight names its endpoint and its kind, so a completion finds its
way back.  `Numbered` says that receives were handed to the socket in consecutive slots.  `Tallied`
compares what the socket started with what is in flight and what has completed.
-/

namespace OrderedEcho

/-- What an operation in a lane says about itself. -/
structure Operation.RunsAs (op : Operation) (lane : OperationKind) (id : EndpointId) : Prop where
  kind : op.kind = lane
  endpoint : op.endpoint = some id
  slot : lane = .receive → op.slot.isSome

namespace Link

variable {P : Slot → Entry Operation → Prop} {st st' : Stage} {e e' : Endpoint} {k k' : Socket}

/-- Every operation in flight says where it belongs. -/
def Routed (e : Endpoint) (k : Socket) : Prop :=
  ∀ kind, ∀ op ∈ (k.lane kind).inFlight, op.RunsAs kind e.id

theorem Routed.map_slot (h : Routed e k) :
    (k.lane .receive).inFlight.map Operation.slot = k.receiving.map some := by
  unfold Socket.receiving
  rw [List.map_filterMap]
  have hs : ∀ op ∈ (k.lane .receive).inFlight, op.slot.map some = some op.slot := by
    intro op hop
    obtain ⟨t, ht⟩ := Option.isSome_iff_exists.1 ((h .receive op hop).slot rfl)
    rw [ht]
    rfl
  rw [List.filterMap_congr hs, List.filterMap_eq_map']

theorem Routed.took {kind : OperationKind} {op : Operation} (h : Routed e k)
    (hp : k.Took kind op k') (hop : op.RunsAs kind e.id) : Routed e k' := by
  intro lane x hx
  rcases hp.mem_lane hx with hx | ⟨rfl, rfl⟩
  · exact h lane x hx
  · exact hop

theorem Routed.congr (h : Routed e k)
    (hk : ∀ kind, (k'.lane kind).inFlight = (k.lane kind).inFlight) : Routed e k' :=
  fun kind op hop => h kind op (hk kind ▸ hop)

theorem Routed.close {l : Link} (h : Routed l.endpoint l.socket) (fatal : Bool) :
    Routed (l.close fatal).endpoint (l.close fatal).socket := by
  have hk := h.congr (inFlight_close l fatal)
  rw [endpoint_close]
  exact hk

theorem Routed.move (h : Move P st st') (he : Echoed P st.link.endpoint st.link.socket)
    (hr : Routed st.link.endpoint st.link.socket) :
    Routed st'.link.endpoint st'.link.socket := by
  cases h with
  | allocate | release | equip | reject | forget | rest | park | pass | sendLost | defer => exact hr
  | receive _ hp => exact hr.took hp ⟨rfl, rfl, fun _ => rfl⟩
  | accept _ hp => exact hr.took hp ⟨rfl, rfl, nofun⟩
  | receiveRefused _ hp | acceptRefused _ hp | sendRefused _ _ _ hp => exact hr.congr hp.lane
  | @sendFatal l _ _ _ _ _ _ _ _ _ _ hp =>
    have hk : Routed l.endpoint _ := hr.congr hp.lane
    exact Routed.close hk true
  | send _ hrel hp =>
    have hw := he.waiting _ (by
      rw [(Resequencer.release?_eq_some_iff.1 hrel).2.1]
      exact List.mem_cons_self)
    have hl := hw.label _ rfl
    exact hr.took hp ⟨hl.kind, hl.endpoint, nofun⟩
  | close fatal _ => exact hr.close fatal

/-! ## Slots in the order of posting -/

/-- The receives that were handed to the socket are in consecutive slots. -/
structure Numbered (e : Endpoint) (k : Socket) : Prop where
  slots : (k.handed .receive).map Operation.slot =
    (List.range' e.kind.firstReceive (k.handed .receive).length).map some
  next : e.resequencer.nextReceive = e.kind.firstReceive + (k.handed .receive).length

theorem Numbered.congr (h : Numbered e k) (hk : e'.kind = e.kind)
    (hn : e'.resequencer.nextReceive = e.resequencer.nextReceive)
    (hr : k'.handed .receive = k.handed .receive) : Numbered e' k' := by
  refine ⟨?_, ?_⟩
  · rw [hr, hk]
    exact h.slots
  · rw [hr, hk, hn]
    exact h.next

theorem Numbered.assign {op : Operation} (h : Numbered e k)
    (hop : op.slot = some e.resequencer.nextReceive)
    (hr : k'.handed .receive = k.handed .receive ++ [op]) : Numbered e.assign k' := by
  refine ⟨?_, ?_⟩
  · show _ = (List.range' e.kind.firstReceive _).map some
    rw [hr, List.length_append, List.length_singleton, List.map_append, h.slots,
      List.range'_1_concat, List.map_append, List.map_singleton, List.map_singleton, hop, h.next]
  · show e.resequencer.nextReceive + 1 = e.kind.firstReceive + _
    rw [hr, List.length_append, List.length_singleton, h.next, Nat.add_assoc]

theorem Numbered.close {l : Link} (h : Numbered l.endpoint l.socket) (fatal : Bool) :
    Numbered (l.close fatal).endpoint (l.close fatal).socket := by
  refine h.congr ?_ ?_ (handed_close l fatal .receive)
  · rw [endpoint_close]
  · rw [endpoint_close]
    cases fatal <;> rfl

theorem Numbered.move (h : Move P st st') (hn : Numbered st.link.endpoint st.link.socket) :
    Numbered st'.link.endpoint st'.link.socket := by
  cases h with
  | allocate | release | equip | forget | rest => exact hn
  | defer | reject => exact hn.congr rfl rfl rfl
  | receive _ hp =>
    exact (hn.assign (by rfl) (Socket.handed_of_post hp.history)).congr rfl rfl rfl
  | receiveRefused _ hp => exact hn.assign (by rfl) (Socket.handed_of_post hp.history)
  | accept _ hp => exact hn.congr rfl rfl (Socket.handed_of_post_ne hp.history (by decide))
  | acceptRefused _ hp => exact hn.congr rfl rfl (Socket.handed_of_post_ne hp.history (by decide))
  | park _ _ hi => exact hn.congr rfl (by rw [(Resequencer.insert_eq_ok_iff.1 hi).2]) rfl
  | pass hr | sendLost _ hr => exact hn.congr rfl (Resequencer.release?_eq_some_iff.1 hr).2.2.2 rfl
  | send _ hr hp =>
    exact hn.congr rfl (Resequencer.release?_eq_some_iff.1 hr).2.2.2
      (Socket.handed_of_post_ne hp.history (by decide))
  | sendRefused _ _ hr hp =>
    exact hn.congr rfl (Resequencer.release?_eq_some_iff.1 hr).2.2.2
      (Socket.handed_of_post_ne hp.history (by decide))
  | @sendFatal l _ _ _ _ _ r _ _ _ hr hp =>
    have hk : Numbered { l.endpoint with resequencer := r } _ :=
      hn.congr rfl (Resequencer.release?_eq_some_iff.1 hr).2.2.2
        (Socket.handed_of_post_ne hp.history (by decide))
    exact Numbered.close hk true
  | close fatal _ => exact hn.close fatal

theorem Numbered.count_le_one (h : Numbered e k) (t : Slot) :
    ((k.handed .receive).map Operation.slot).count (some t) ≤ 1 := by
  have hn : ((List.range' e.kind.firstReceive (k.handed .receive).length).map some).Nodup :=
    List.Pairwise.map some (fun _ _ hne he => hne (Option.some.inj he)) (List.nodup_range' 1)
  rw [h.slots]
  exact List.nodup_iff_count.1 hn (some t)

theorem Numbered.mem_slots (h : Numbered e k) {t : Slot}
    (ht : some t ∈ (k.handed .receive).map Operation.slot) :
    e.kind.firstReceive ≤ t ∧ t < e.resequencer.nextReceive := by
  rw [h.slots] at ht
  obtain ⟨u, hu, he⟩ := List.mem_map.1 ht
  obtain rfl := Option.some.inj he
  rw [h.next]
  exact List.mem_range'_1.1 hu

theorem Numbered.firstReceive_le (h : Numbered e k) {t : Slot}
    (ht : some t ∈ (k.handed .receive).map Operation.slot) : e.kind.firstReceive ≤ t :=
  (h.mem_slots ht).1

/-! ## Completions -/

/-- Of the operations that the socket started, `done` have completed, and `told t` of them were
receives in slot `t`. -/
structure Tallied (done : Nat) (told : Slot → Nat) (k : Socket) : Prop where
  taken : k.taken = k.inFlight.length + done
  told : ∀ t, k.startedIn t = told t + k.receiving.count t

variable {done : Nat} {told : Slot → Nat}

theorem Tallied.congr (h : Tallied done told k) (ht : k'.taken = k.taken)
    (hs : ∀ t, k'.startedIn t = k.startedIn t) (hl : k'.inFlight.length = k.inFlight.length)
    (hr : k'.receiving = k.receiving) : Tallied done told k' := by
  refine ⟨?_, fun t => ?_⟩
  · rw [ht, hl]
    exact h.taken
  · rw [hs, hr]
    exact h.told t

theorem Tallied.took {kind : OperationKind} {op : Operation} (h : Tallied done told k)
    (hp : k.Took kind op k') (hk : kind ≠ .receive) : Tallied done told k' := by
  refine ⟨?_, fun t => ?_⟩
  · rw [hp.taken, hp.length_inFlight, h.taken, Nat.add_right_comm]
  · rw [hp.receiving_of_ne hk, hp.startedIn_of_ne hk]
    exact h.told t

theorem Tallied.refused {kind : OperationKind} {op : Operation} {x : IoError}
    (h : Tallied done told k) (hp : k.Refused kind op x k') : Tallied done told k' :=
  h.congr hp.taken hp.startedIn hp.length_inFlight hp.receiving

theorem Tallied.gaveBack {kind : OperationKind} {op : Operation} {slots : List Slot}
    (h : Tallied done told k) (hp : k.GaveBack kind op k')
    (hr : k.receiving.Perm (slots ++ k'.receiving)) :
    Tallied (done + 1) (fun t => told t + slots.count t) k' := by
  refine ⟨?_, fun t => ?_⟩
  · rw [Socket.taken_congr hp.history, h.taken, hp.length_inFlight, Nat.add_assoc,
      Nat.add_comm done]
  · rw [Socket.startedIn_congr hp.history, h.told, hr.count_eq, List.count_append, Nat.add_assoc]

theorem Tallied.close (h : Tallied done told k) : Tallied done told k.close :=
  h.congr Socket.taken_close Socket.startedIn_close rfl rfl

theorem Tallied.close_link {l : Link} (h : Tallied done told l.socket) (fatal : Bool) :
    Tallied done told (l.close fatal).socket := by
  rw [socket_close]
  split
  · exact h.close
  · exact h

theorem Tallied.move (h : Move P st st') (ht : Tallied done told st.link.socket) :
    Tallied done told st'.link.socket := by
  cases h with
  | allocate | release | equip | reject | forget | rest | defer | park | pass | sendLost => exact ht
  | receive _ hp =>
    refine ⟨?_, fun t => ?_⟩
    · rw [hp.taken, hp.length_inFlight, ht.taken, Nat.add_right_comm]
    · rw [hp.startedIn rfl, hp.receiving rfl, ht.told, List.count_append, List.count_singleton,
        Nat.add_assoc]
      simp only [beq_iff_eq]
  | accept _ hp => exact ht.took hp (by decide)
  | send _ _ hp => exact ht.took hp (by decide)
  | receiveRefused _ hp | acceptRefused _ hp | sendRefused _ _ _ hp => exact ht.refused hp
  | sendFatal _ _ hp => exact Tallied.close_link (ht.refused hp) true
  | close fatal _ => exact ht.close_link fatal

end Link

end OrderedEcho
