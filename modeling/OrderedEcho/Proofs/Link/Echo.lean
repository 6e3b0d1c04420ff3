import OrderedEcho.Proofs.Link.Accounting

/-!
# The order of echoes

`Echoed` is the law of the echo on one link: sends were handed to the socket in the order of slots,
each slot before the next send came to something for which `P` vouches, and what it came to was
handed over exactly once, or not at all if there was nothing to send.
-/

namespace OrderedEcho

/-! ## Lists in the order of keys -/

section Keys

variable {α : Type} {key : α → Option Nat} {l : List α} {ts : List Nat}

theorem filter_key_eq_nil (hl : l.map key = ts.map some) {t : Nat} (ht : t ∉ ts) :
    (l.filter fun a => key a = some t) = [] := by
  refine List.filter_eq_nil_iff.2 fun a ha hk => ht ?_
  have hm : key a ∈ ts.map some := hl ▸ List.mem_map_of_mem ha
  rw [of_decide_eq_true hk] at hm
  simpa using hm

/-- A list in the strict order of its keys is the concatenation of its parts, key by key. -/
theorem flatMap_filter_key (hl : l.map key = ts.map some) (hs : ts.Pairwise (· < ·)) {n : Nat}
    (hn : ∀ t ∈ ts, t < n) :
    ((List.range n).flatMap fun t => l.filter fun a => key a = some t) = l := by
  induction n generalizing l ts with
  | zero =>
    obtain rfl : ts = [] := List.eq_nil_iff_forall_not_mem.2 fun t ht => Nat.not_lt_zero t (hn t ht)
    exact (List.map_eq_nil_iff.1 hl).symm
  | succ n ih =>
    have hle (t : Nat) (ht : t ∈ ts) : t ≤ n := Nat.le_of_lt_succ (hn t ht)
    rw [List.range_succ, List.flatMap_append, List.flatMap_singleton]
    by_cases hm : n ∈ ts
    · -- the largest key comes last
      obtain ⟨ts', t, rfl⟩ := (List.eq_nil_or_concat' ts).resolve_left (List.ne_nil_of_mem hm)
      rw [List.map_append, List.map_eq_append_iff] at hl
      obtain ⟨l', la, rfl, hl', hla⟩ := hl
      obtain ⟨a, rfl, ha⟩ := List.map_eq_singleton_iff.1 hla
      obtain ⟨hs', -, hlt⟩ := List.pairwise_append.1 hs
      have hlt (u : Nat) (hu : u ∈ ts') : u < t := hlt u hu t List.mem_cons_self
      have htn : t = n := by
        refine Nat.le_antisymm (hle t (List.mem_append_right _ List.mem_cons_self)) ?_
        rcases List.mem_append.1 hm with hm | hm
        · exact Nat.le_of_lt (hlt n hm)
        · exact Nat.le_of_eq (List.mem_singleton.1 hm)
      subst htn
      have hold : ∀ u ∈ List.range t, ((l' ++ [a]).filter fun b => key b = some u) =
          l'.filter fun b => key b = some u := fun u hu => by
        have hne : t ≠ u := Nat.ne_of_gt (List.mem_range.1 hu)
        simp [ha, hne]
      have hnew : t ∉ ts' := fun ht => Nat.lt_irrefl t (hlt t ht)
      rw [List.flatMap_congr hold, ih hl' hs' hlt, List.filter_append, filter_key_eq_nil hl' hnew]
      simp [ha]
    · rw [filter_key_eq_nil hl hm, List.append_nil]
      exact ih hl hs fun t ht => Nat.lt_of_le_of_ne (hle t ht) fun he => hm (he ▸ ht)

theorem mem_range'_one {t n : Nat} : t ∈ List.range' 1 (n - 1) ↔ 0 < t ∧ t < n := by
  rw [List.mem_range'_1]
  omega

end Keys

/-! ## The law -/

/-- The slots of the sends that the socket was asked for, in order. -/
def Socket.sentSlots (k : Socket) : List Slot := (k.handed .send).filterMap Operation.slot

/-- The sends in slot `t` that the socket was asked for. -/
def Socket.sentIn (k : Socket) (t : Slot) : List Operation :=
  (k.handed .send).filter (·.slot = some t)

namespace Link

variable {P : Slot → Entry Operation → Prop} {st st' : Stage} {e e' : Endpoint} {k k' : Socket}

/-- Sends are in order, and each slot that was passed came to what `P` says. -/
structure Echoed (P : Slot → Entry Operation → Prop) (e : Endpoint) (k : Socket) : Prop where
  waiting : ∀ w ∈ e.resequencer.waiting.toList, k.Justifies P e.id w.1 w.2
  slots : (k.handed .send).map Operation.slot = k.sentSlots.map some
  sorted : k.sentSlots.Pairwise (· < ·)
  bounded : ∀ t ∈ k.sentSlots, t < e.resequencer.nextSend
  passed : ∀ t < e.resequencer.nextSend, ∃ x, k.Justifies P e.id t x ∧ k.sentIn t = x.data?.toList

theorem Echoed.mono_history (h : Echoed P e k) (hid : e'.id = e.id)
    (hw : e'.resequencer.waiting = e.resequencer.waiting)
    (hn : e'.resequencer.nextSend = e.resequencer.nextSend)
    (hs : k'.handed .send = k.handed .send) (hk : k.history <+: k'.history) : Echoed P e' k' := by
  have hslots : k'.sentSlots = k.sentSlots := by
    unfold Socket.sentSlots
    rw [hs]
  refine ⟨?_, ?_, ?_, ?_, ?_⟩
  · rw [hw, hid]
    exact fun w hw => (h.waiting w hw).mono hk
  · rw [hs, hslots]
    exact h.slots
  · rw [hslots]
    exact h.sorted
  · rw [hn, hslots]
    exact h.bounded
  · rw [hn, hid]
    intro t ht
    obtain ⟨x, hx, hsent⟩ := h.passed t ht
    refine ⟨x, hx.mono hk, ?_⟩
    unfold Socket.sentIn
    rw [hs]
    exact hsent

theorem Echoed.insert {t : Slot} {x : Entry Operation} {r : Resequencer Operation}
    (h : Echoed P e k) (hj : k.Justifies P e.id t x) (hi : e.resequencer.insert t x = .ok r) :
    Echoed P { e with resequencer := r } k := by
  have hs : r.nextSend = e.resequencer.nextSend := by rw [(Resequencer.insert_eq_ok_iff.1 hi).2]
  refine ⟨fun w hw => ?_, h.slots, h.sorted, fun u hu => ?_, fun u hu => ?_⟩
  · rcases Resequencer.mem_waiting_of_insert hi hw with rfl | hw
    · exact hj
    · exact h.waiting w hw
  · exact hs ▸ h.bounded u hu
  · exact h.passed u (hs ▸ hu)

theorem Echoed.sentIn_eq_nil (h : Echoed P e k) {t : Slot} (ht : e.resequencer.nextSend ≤ t) :
    k.sentIn t = [] := by
  refine List.filter_eq_nil_iff.2 fun op hop hslot => ?_
  have hm : t ∈ k.sentSlots := List.mem_filterMap.2 ⟨op, hop, by simpa using hslot⟩
  exact Nat.not_lt.2 ht (h.bounded t hm)

/-- The entry that is next goes: nothing is handed over for a skipped slot, and the send of any
other. -/
theorem Echoed.release {t : Slot} {x : Entry Operation} {r : Resequencer Operation}
    (h : Echoed P e k) (hr : e.resequencer.release? = some ((t, x), r))
    (hs : k'.handed .send = k.handed .send ++ x.data?.toList) (hk : k.history <+: k'.history) :
    Echoed P { e with resequencer := r } k' := by
  obtain ⟨ht, hwait, hnext, -⟩ := Resequencer.release?_eq_some_iff.1 hr
  have ht : t = e.resequencer.nextSend := ht
  have hnext : r.nextSend = e.resequencer.nextSend + 1 := by rw [hnext, ← ht]
  have hx : k.Justifies P e.id t x := h.waiting (t, x) (by rw [hwait]; exact List.mem_cons_self)
  have hdata : x.data?.toList.map Operation.slot = (x.data?.toList.map fun _ => some t) := by
    cases x with
    | data op => exact congrArg ([·]) (hx.label op rfl).slot
    | skip => rfl
  have hslots : k'.sentSlots = k.sentSlots ++ x.data?.toList.map fun _ => t := by
    unfold Socket.sentSlots
    rw [hs, List.filterMap_append]
    congr 1
    cases x with
    | data op => exact List.filterMap_cons_some (hx.label op rfl).slot
    | skip => rfl
  have hin (u : Slot) : k'.sentIn u = k.sentIn u ++ if u = t then x.data?.toList else [] := by
    unfold Socket.sentIn
    rw [hs, List.filter_append]
    congr 1
    cases x with
    | data op =>
      have hop : op.slot = some t := (hx.label op rfl).slot
      by_cases hu : u = t
      · simp [Entry.data?, hop, hu]
      · simp [Entry.data?, hop, hu, Ne.symm hu]
    | skip => simp [Entry.data?]
  refine ⟨fun w hw => ?_, ?_, ?_, fun u hu => ?_, fun u hu => ?_⟩
  · exact (h.waiting w (by rw [hwait]; exact List.mem_cons_of_mem _ hw)).mono hk
  · rw [hs, hslots, List.map_append, List.map_append, h.slots, hdata, List.map_map]
    rfl
  · rw [hslots, List.pairwise_append]
    refine ⟨h.sorted, ?_, fun a ha b hb => ?_⟩
    · cases x with
      | data op => exact List.pairwise_singleton _ _
      | skip => exact .nil
    · obtain ⟨-, -, rfl⟩ := List.mem_map.1 hb
      exact ht ▸ h.bounded a ha
  · rw [hslots, List.mem_append] at hu
    show u < r.nextSend
    rw [hnext]
    rcases hu with hu | hu
    · exact Nat.lt_succ_of_lt (h.bounded u hu)
    · obtain ⟨-, -, rfl⟩ := List.mem_map.1 hu
      exact ht ▸ Nat.lt_succ_self _
  · have hu : u < e.resequencer.nextSend + 1 := hnext ▸ hu
    rcases Nat.lt_succ_iff_lt_or_eq.1 hu with hlt | heq
    · obtain ⟨y, hy, hsent⟩ := h.passed u hlt
      refine ⟨y, hy.mono hk, ?_⟩
      rw [hin u, if_neg (ht ▸ Nat.ne_of_lt hlt), List.append_nil, hsent]
    · refine ⟨x, ?_, ?_⟩
      · rw [heq, ← ht]
        exact hx.mono hk
      · rw [hin u, if_pos (heq.trans ht.symm), h.sentIn_eq_nil (Nat.le_of_eq heq.symm),
          List.nil_append]

/-- Closing hands no send over, and a fatal close gives up what waits. -/
theorem Echoed.close {l : Link} (h : Echoed P l.endpoint l.socket) (fatal : Bool) :
    Echoed P (l.close fatal).endpoint (l.close fatal).socket := by
  have hg := (Grows.close l fatal).history
  have hs := handed_close l fatal .send
  cases fatal with
  | false => exact h.mono_history rfl rfl rfl hs hg
  | true =>
    have hm : Echoed P l.endpoint _ := h.mono_history rfl rfl rfl hs hg
    exact ⟨fun w hw => absurd hw List.not_mem_nil, hm.slots, hm.sorted, hm.bounded, hm.passed⟩

theorem Echoed.move (h : Move P st st')
    (ha : Accounted st.link.endpoint st.link.socket st.due st.ripe)
    (he : Echoed P st.link.endpoint st.link.socket) :
    Echoed P st'.link.endpoint st'.link.socket := by
  have hg := (Grows.move h).history
  cases h with
  | allocate | release | equip | forget | rest => exact he
  | defer | reject => exact he.mono_history rfl rfl rfl rfl hg
  | receive _ hp =>
    exact he.mono_history rfl rfl rfl (Socket.handed_of_post_ne hp.history (by decide)) hg
  | receiveRefused _ hp =>
    exact he.mono_history rfl rfl rfl (Socket.handed_of_post_ne hp.history (by decide)) hg
  | accept _ hp =>
    exact he.mono_history rfl rfl rfl (Socket.handed_of_post_ne hp.history (by decide)) hg
  | acceptRefused _ hp =>
    exact he.mono_history rfl rfl rfl (Socket.handed_of_post_ne hp.history (by decide)) hg
  | park _ hj hi => exact he.insert hj hi
  | pass hr => exact he.release hr (List.append_nil _).symm hg
  | send _ hr hp =>
    have hs := he.release hr (Socket.handed_of_post hp.history) hg
    exact hs.mono_history rfl rfl rfl rfl List.prefix_rfl
  | sendRefused _ _ hr hp => exact he.release hr (Socket.handed_of_post hp.history) hg
  | @sendFatal l _ _ _ _ _ r _ socket _ hr hp =>
    have hk : Echoed P { l.endpoint with resequencer := r } socket :=
      he.release hr (Socket.handed_of_post hp.history) (hp.history ▸ List.prefix_append _ _)
    exact Echoed.close hk true
  | @sendLost l t op due held ripe r hd hr =>
    -- a destroyed endpoint has no slots left, so no entry of it can be next
    have hm : t ∈ l.endpoint.resequencer.slots := by
      rw [Resequencer.slots_of_release? hr]
      exact List.mem_cons_self
    obtain ⟨hna, hle, hlt⟩ := ha.mem_slots hm
    have hf := (ha.finished hd).resolve_left (by rw [hna]; decide)
    exact absurd hlt (hf ▸ Nat.not_lt.2 hle)
  | close fatal _ => exact he.close fatal

/-! ## All sends in order -/

/-- The sends that were handed over, slot by slot. -/
theorem Echoed.flatMap_sentIn (h : Echoed P e k) :
    (List.range e.resequencer.nextSend).flatMap k.sentIn = k.handed .send :=
  flatMap_filter_key h.slots h.sorted h.bounded

/-- The same without slot 0. -/
theorem Echoed.flatMap_sentIn_of_ne_zero (h : Echoed P e k) :
    (List.range' 1 (e.resequencer.nextSend - 1)).flatMap k.sentIn =
      (k.handed .send).filter (·.slot ≠ some 0) := by
  have hzero : (k.sentIn 0).filter (·.slot ≠ some 0) = [] := by
    refine List.filter_eq_nil_iff.2 fun op hop => ?_
    simpa using (List.mem_filter.1 hop).2
  have hother : ∀ t ∈ List.range' 1 (e.resequencer.nextSend - 1),
      (k.sentIn t).filter (·.slot ≠ some 0) = k.sentIn t := fun t ht => by
    refine List.filter_eq_self.2 fun op hop => ?_
    have hslot : op.slot = some t := by simpa using (List.mem_filter.1 hop).2
    simpa [hslot] using Nat.ne_of_gt (mem_range'_one.1 ht).1
  rw [← h.flatMap_sentIn, List.filter_flatMap]
  cases hn : e.resequencer.nextSend with
  | zero => rfl
  | succ n =>
    rw [hn] at hother
    rw [List.range_eq_range', List.range'_succ, List.flatMap_cons, hzero, List.nil_append]
    exact (List.flatMap_congr hother).symm

theorem Echoed.sendsFor (h : Echoed P e k) {op : Operation} (hop : op ∈ k.handed .send) :
    ∃ t, op.SendsFor e.id t := by
  rw [← h.flatMap_sentIn] at hop
  obtain ⟨t, ht, hop⟩ := List.mem_flatMap.1 hop
  obtain ⟨x, hx, hsent⟩ := h.passed t (List.mem_range.1 ht)
  rw [hsent] at hop
  cases x with
  | data op' =>
    obtain rfl := List.mem_singleton.1 hop
    exact ⟨t, hx.label op rfl⟩
  | skip => cases hop

end Link

end OrderedEcho
