import OrderedEcho.Proofs.Slots

/-!
# What a resequencer releases

`Resequences es out r r'` says that a resequencer took the entries `es` and released everything that
was next.  Insertions and releases compose to it step by step (`Resequences.insert`,
`Resequences.release`, `Resequences.trans`), and yet it does not tell in which order they came: the
entries that were released are the longest run without a gap, and the others wait.  So the order
does not matter (`Resequences.unique`).

Slots that are handed out meanwhile do not matter either, so nothing is said of `nextReceive`.
-/

namespace OrderedEcho

attribute [ext] Resequencer

namespace Resequencer

variable {α : Type} {r r' r'' r₁ r₂ : Resequencer α} {es es' out out' out₁ out₂ : List (Slot × Entry α)}

/-- The resequencer took the entries `es` and let `out` go, until the entry that is next had not
come yet. -/
structure Resequences (es out : List (Slot × Entry α)) (r r' : Resequencer α) : Prop where
  perm : (out ++ r'.waiting.toList).Perm (r.waiting.toList ++ es)
  slots : out.map Prod.fst = List.range' r.nextSend out.length
  nextSend : r'.nextSend = r.nextSend + out.length
  rest : ∀ w ∈ r'.waiting.toList, r'.nextSend < w.1

/-! ## Steps -/

/-- The slots that wait are in ascending order, so those after a released one are not below the next
one. -/
theorem le_slots_of_release? {w : Slot × Entry α} (h : r.release? = some (w, r')) :
    ∀ t ∈ r'.slots, r'.nextSend ≤ t := by
  obtain ⟨-, hl, hn, -⟩ := release?_eq_some_iff.1 h
  have hp := r.waiting.pairwise
  rw [hl, List.pairwise_cons] at hp
  intro t ht
  obtain ⟨v, hv, rfl⟩ := mem_slots_iff.1 ht
  rw [hn]
  exact hp.1 v hv

theorem Resequences.refl (h : ∀ w ∈ r.waiting.toList, r.nextSend < w.1) : Resequences [] [] r r :=
  ⟨by rw [List.append_nil]; exact .refl _, rfl, rfl, h⟩

/-- Nothing is released while the entry that is next has not come. -/
theorem resequences_of_release? (h : r.release? = none) (hs : ∀ t ∈ r.slots, r.nextSend ≤ t) :
    Resequences [] [] r r := by
  refine .refl fun w hw => ?_
  have hm : w.1 ∈ r.slots := mem_slots_iff.2 ⟨w, hw, rfl⟩
  refine Nat.lt_of_le_of_ne (hs w.1 hm) fun he => nextSend_notMem_slots h hs ?_
  rwa [he]

theorem Resequences.insert {t : Slot} {e : Entry α} (hi : r.insert t e = .ok r')
    (h : Resequences es out r' r'') : Resequences ((t, e) :: es) out r r'' := by
  obtain ⟨⟨-, -, hnot⟩, rfl⟩ := insert_eq_ok_iff.1 hi
  refine ⟨h.perm.trans ?_, h.slots, h.nextSend, h.rest⟩
  have hp := Ascending.toList_insert_perm (s := r.waiting) (a := (t, e)) fun w hw he =>
    hnot (mem_slots_iff.2 ⟨w, hw, he⟩)
  exact (hp.append_right es).trans List.perm_middle.symm

theorem Resequences.release {w : Slot × Entry α} (hr : r.release? = some (w, r'))
    (h : Resequences es out r' r'') : Resequences es (w :: out) r r'' := by
  obtain ⟨hw, hl, hn, -⟩ := release?_eq_some_iff.1 hr
  refine ⟨?_, ?_, ?_, h.rest⟩
  · rw [hl]
    exact h.perm.cons w
  · rw [List.map_cons, h.slots, List.length_cons, List.range'_succ, hn, hw]
  · rw [h.nextSend, hn, hw, List.length_cons, Nat.add_assoc, Nat.add_comm 1]

theorem Resequences.trans (h : Resequences es out r r') (h' : Resequences es' out' r' r'') :
    Resequences (es ++ es') (out ++ out') r r'' := by
  refine ⟨?_, ?_, ?_, h'.rest⟩
  · rw [List.append_assoc, ← List.append_assoc r.waiting.toList]
    refine (h'.perm.append_left out).trans ?_
    rw [← List.append_assoc]
    exact h.perm.append_right es'
  · rw [List.map_append, h.slots, h'.slots, h.nextSend, List.length_append, List.range'_append_1]
  · rw [h'.nextSend, h.nextSend, List.length_append, Nat.add_assoc]

/-- Only the slot that is next and the entries that wait count. -/
theorem Resequences.congr (h : Resequences es out r r') (hn : r₁.nextSend = r.nextSend)
    (hw : r₁.waiting = r.waiting) (hn' : r₂.nextSend = r'.nextSend)
    (hw' : r₂.waiting = r'.waiting) : Resequences es out r₁ r₂ := by
  refine ⟨?_, ?_, ?_, ?_⟩
  · rw [hw, hw']
    exact h.perm
  · rw [hn]
    exact h.slots
  · rw [hn, hn']
    exact h.nextSend
  · rw [hn', hw']
    exact h.rest

/-! ## The order does not matter -/

/-- What was released and what waits is in the order of slots. -/
theorem Resequences.pairwise (h : Resequences es out r r') :
    (out ++ r'.waiting.toList).Pairwise fun a b => a.1 < b.1 := by
  refine List.pairwise_append.2 ⟨?_, r'.waiting.pairwise, fun a ha b hb => ?_⟩
  · have hs : (out.map Prod.fst).Pairwise (· < ·) := by
      rw [h.slots]
      exact List.pairwise_lt_range' 1
    exact List.pairwise_map.1 hs
  · have hm : a.1 ∈ List.range' r.nextSend out.length := h.slots ▸ List.mem_map_of_mem ha
    obtain ⟨-, hlt⟩ := List.mem_range'_1.1 hm
    exact Nat.lt_trans (h.nextSend ▸ hlt) (h.rest b hb)

/-- Of two runs without a gap the longer one goes on where the other one stops, but there the entry
that is next is missing. -/
theorem Resequences.length_le (h₁ : Resequences es out₁ r r₁) (h₂ : Resequences es' out₂ r r₂)
    (heq : out₁ ++ r₁.waiting.toList = out₂ ++ r₂.waiting.toList) : out₂.length ≤ out₁.length := by
  by_contra hlt
  rw [Nat.not_le] at hlt
  have hslot : (out₂[out₁.length]).1 = r.nextSend + out₁.length := by
    have hget := List.getElem_of_eq h₂.slots (by rwa [List.length_map])
    rwa [List.getElem_map, List.getElem_range', Nat.one_mul] at hget
  have hmem : out₂[out₁.length] ∈ r₁.waiting.toList := by
    have hget : (out₂ ++ r₂.waiting.toList)[out₁.length]? = some out₂[out₁.length] := by
      rw [List.getElem?_append_left hlt, List.getElem?_eq_getElem hlt]
    rw [← heq, List.getElem?_append_right (Nat.le_refl _)] at hget
    exact List.mem_of_getElem? hget
  have hrest := h₁.rest _ hmem
  rw [h₁.nextSend, hslot] at hrest
  exact Nat.lt_irrefl _ hrest

/-- The same entries lead to the same result, in whatever order they were taken. -/
theorem Resequences.unique (h₁ : Resequences es out₁ r r₁) (h₂ : Resequences es' out₂ r r₂)
    (hp : es.Perm es') :
    out₁ = out₂ ∧ r₁.nextSend = r₂.nextSend ∧ r₁.waiting = r₂.waiting := by
  have heq : out₁ ++ r₁.waiting.toList = out₂ ++ r₂.waiting.toList := by
    refine List.Perm.eq_of_pairwise (fun a b _ _ hab hba => ?_) h₁.pairwise h₂.pairwise ?_
    · exact absurd hba (Nat.lt_asymm hab)
    · exact h₁.perm.trans ((hp.append_left _).trans h₂.perm.symm)
  have hlen := Nat.le_antisymm (h₂.length_le h₁ heq.symm) (h₁.length_le h₂ heq)
  obtain ⟨hout, hwait⟩ := List.append_inj heq hlen
  exact ⟨hout, by rw [h₁.nextSend, h₂.nextSend, hlen], Ascending.ext hwait⟩

end Resequencer

end OrderedEcho
