import Mathlib.Data.List.Induction
import OrderedEcho.Proofs.SlotRange

/-!
# The account of the entries

What is said to a resequencer is a list of exchanges (`dialogue`).  From it one can read what became
of the entries that were accepted: each was released, was discarded, or waits (`Account`), and the
slots that were released are all slots from the first one on, in order and without a gap.

If nothing is discarded and all that can go has gone, the account determines what was released and
what waits.  So the same entries lead to the same result in any order (`Fills.resequences`).
-/

namespace OrderedEcho

namespace Resequencer

variable {α : Type} {r r' r'' : Resequencer α} {qs qs' : List (Request α)}

/-! ## Dialogues -/

/-- A request with its answer, and the state it was made in. -/
structure Exchange (α : Type) where
  before : Resequencer α
  request : Request α
  answer : Answer α

/-- What is said when some requests are made one after the other. -/
def dialogue (r : Resequencer α) : List (Request α) → List (Exchange α)
  | [] => []
  | q :: qs => ⟨r, q, (r.ask q).1⟩ :: (r.ask q).2.dialogue qs

theorem dialogue_append (r : Resequencer α) (qs qs' : List (Request α)) :
    r.dialogue (qs ++ qs') = r.dialogue qs ++ (r.after qs).dialogue qs' := by
  induction qs generalizing r with
  | nil => rfl
  | cons q qs ih => exact congrArg (_ :: ·) (ih (r.ask q).2)

/-- The entries that the requests offer, with their slots. -/
def offered (qs : List (Request α)) : List (Slot × Entry α) :=
  qs.flatMap fun
    | .insert s e => [(s, e)]
    | _ => []

/-- The slots that were handed out. -/
def assigned (xs : List (Exchange α)) : List Slot :=
  xs.flatMap fun
    | ⟨_, _, .assigned s⟩ => [s]
    | _ => []

/-- The entries that were accepted, with their slots. -/
def accepted (xs : List (Exchange α)) : List (Slot × Entry α) :=
  xs.flatMap fun
    | ⟨_, .insert s e, .accepted⟩ => [(s, e)]
    | _ => []

/-- The entries that were released, with their slots. -/
def released (xs : List (Exchange α)) : List (Slot × Entry α) :=
  xs.flatMap fun
    | ⟨_, _, .released w⟩ => [w]
    | _ => []

/-- The entries that were discarded, with their slots: all that waited when this was asked for. -/
def discarded (xs : List (Exchange α)) : List (Slot × Entry α) :=
  xs.flatMap fun
    | ⟨r, .discard, _⟩ => r.waiting.toList
    | _ => []

/-- What was to be sent for the discarded entries, as it was returned. -/
def returned (xs : List (Exchange α)) : List α :=
  xs.flatMap fun
    | ⟨_, _, .discarded given⟩ => given
    | _ => []

section Views

variable (xs ys : List (Exchange α))

theorem assigned_append : assigned (xs ++ ys) = assigned xs ++ assigned ys := List.flatMap_append

theorem accepted_append : accepted (xs ++ ys) = accepted xs ++ accepted ys := List.flatMap_append

theorem released_append : released (xs ++ ys) = released xs ++ released ys := List.flatMap_append

theorem discarded_append : discarded (xs ++ ys) = discarded xs ++ discarded ys :=
  List.flatMap_append

theorem returned_append : returned (xs ++ ys) = returned xs ++ returned ys := List.flatMap_append

theorem offered_append (qs qs' : List (Request α)) :
    offered (qs ++ qs') = offered qs ++ offered qs' := List.flatMap_append

end Views

/-! ## The account -/

/-- The exchanges lead from `r` to `r'`, and no entry is lost or doubled on the way. -/
structure Account (r : Resequencer α) (xs : List (Exchange α)) (r' : Resequencer α) : Prop where
  perm : (released xs ++ discarded xs ++ r'.waiting.toList).Perm (r.waiting.toList ++ accepted xs)
  slots : (released xs).map Prod.fst = List.range' r.nextSend (released xs).length
  nextSend : r'.nextSend = r.nextSend + (released xs).length
  assigned : assigned xs = List.range' r.nextReceive (Resequencer.assigned xs).length
  nextReceive : r'.nextReceive = r.nextReceive + (Resequencer.assigned xs).length
  returned : returned xs = (discarded xs).filterMap fun w => w.2.data?

theorem Account.nil (r : Resequencer α) : Account r [] r :=
  ⟨.of_eq (List.append_nil _).symm, rfl, rfl, rfl, rfl, rfl⟩

theorem Account.append {xs ys : List (Exchange α)} (h : Account r xs r') (h' : Account r' ys r'') :
    Account r (xs ++ ys) r'' := by
  refine ⟨?_, ?_, ?_, ?_, ?_, ?_⟩
  · classical
    rw [released_append, discarded_append, accepted_append, List.perm_iff_count]
    intro w
    have h₁ := h.perm.count_eq w
    have h₂ := h'.perm.count_eq w
    simp only [List.count_append] at h₁ h₂ ⊢
    omega
  · rw [released_append, List.map_append, h.slots, h'.slots, h.nextSend, List.length_append,
      List.range'_append_1]
  · rw [h'.nextSend, h.nextSend, released_append, List.length_append, Nat.add_assoc]
  · rw [assigned_append, List.length_append, ← List.range'_append_1, ← h.nextReceive, ← h.assigned,
      ← h'.assigned]
  · rw [h'.nextReceive, h.nextReceive, assigned_append, List.length_append, Nat.add_assoc]
  · rw [returned_append, discarded_append, List.filterMap_append, h.returned, h'.returned]

/-- The account of one exchange. -/
theorem Answered.account {q : Request α} {a : Answer α} (h : Answered r q a r') :
    Account r [⟨r, q, a⟩] r' := by
  have hnil : r.waiting.toList.Perm (r.waiting.toList ++ []) := .of_eq (List.append_nil _).symm
  cases h with
  | assigned _ => exact ⟨hnil, rfl, rfl, rfl, rfl, rfl⟩
  | @accepted s e _ h =>
    obtain ⟨⟨-, -, hnot⟩, rfl⟩ := insert_eq_ok_iff.1 h
    refine ⟨?_, rfl, rfl, rfl, rfl, rfl⟩
    have hp := Ascending.toList_insert_perm (s := r.waiting) (a := (s, e)) fun w hw he =>
      hnot (mem_slots_iff.2 ⟨w, hw, he⟩)
    exact hp.trans (List.perm_append_singleton (s, e) _).symm
  | released h =>
    obtain ⟨hw, hl, hn, hr⟩ := release?_eq_some_iff.1 h
    refine ⟨?_, congrArg (fun s => [s]) hw, ?_, rfl, hr, rfl⟩
    · rw [hl]
      exact .of_eq (List.append_nil _).symm
    · rw [hn, hw]
      rfl
  | discarded =>
    have hd : Resequencer.discarded [⟨r, .discard, .discarded r.discard.1⟩] = r.waiting.toList :=
      List.append_nil _
    refine ⟨?_, rfl, rfl, rfl, rfl, ?_⟩
    · rw [hd]
      exact .refl _
    · rw [hd]
      exact List.append_nil _
  | overflow _ | rejected _ | nothing _ => exact ⟨hnil, rfl, rfl, rfl, rfl, rfl⟩

/-- In range, the account holds for all that is said. -/
theorem InRange.account (h : r.InRange) (qs : List (Request α)) :
    Account r (r.dialogue qs) (r.after qs) := by
  induction qs generalizing r with
  | nil => exact .nil r
  | cons q qs ih =>
    have ha := h.answered q
    exact ha.account.append (ih (h.step ha))

/-! ## Runs that only fill slots -/

/-- Nothing is discarded, no slot is filled twice, and a slot is filled only after it was handed
out. -/
structure Fills (r : Resequencer α) (qs : List (Request α)) : Prop where
  discard_notMem : Request.discard ∉ qs
  nodup : ((offered qs).map Prod.fst).Nodup
  handedOut : ∀ x ∈ r.dialogue qs, ∀ w ∈ offered [x.request], w.1 < x.before.nextReceive

/-- All that could be released was. -/
def Drained (r : Resequencer α) : Prop := (r.ask .release).1 = .nothing

theorem InRange.drained_iff (h : r.InRange) : r.Drained ↔ r.release? = none := by
  unfold Drained
  rw [h.ask_release]
  split
  · next hr => simp [hr]
  · next hr => simp [hr]

theorem discarded_dialogue (h : Request.discard ∉ qs) : discarded (r.dialogue qs) = [] := by
  induction qs generalizing r with
  | nil => rfl
  | cons q qs ih =>
    obtain ⟨hq, hqs⟩ := not_or.1 (List.mem_cons.not.1 h)
    have hcons : discarded (r.dialogue (q :: qs)) =
        discarded [⟨r, q, (r.ask q).1⟩] ++ discarded ((r.ask q).2.dialogue qs) :=
      discarded_append [_] _
    rw [hcons, ih hqs, List.append_nil]
    cases q with
    | discard => exact absurd rfl hq
    | assign | insert _ _ | release => rfl

theorem Fills.of_append (h : Fills r (qs ++ qs')) : Fills r qs := by
  obtain ⟨hd, hn, hs⟩ := h
  rw [offered_append, List.map_append] at hn
  rw [dialogue_append] at hs
  exact ⟨fun hm => hd (List.mem_append_left _ hm), hn.of_append_left,
    fun x hx => hs x (List.mem_append_left _ hx)⟩

/-- What was released and what waits is what was accepted. -/
theorem Account.perm_of_discarded {xs : List (Exchange α)} (h : Account r xs r')
    (hr : r.waiting.toList = []) (hd : discarded xs = []) :
    (released xs ++ r'.waiting.toList).Perm (accepted xs) := by
  have hp := h.perm
  rwa [hd, hr, List.append_nil, List.nil_append] at hp

/-- If every slot is filled at most once, and after it was handed out, then all entries are
accepted. -/
theorem Fills.accepted_eq {first : Slot} (hf : first ≤ Slot.last)
    (h : Fills (ofFirst first : Resequencer α) qs) :
    accepted ((ofFirst first).dialogue qs) = offered qs := by
  induction qs using List.reverseRecOn with
  | nil => rfl
  | append_singleton qs q ih =>
    have hqs := h.of_append
    have hr := inRange_ofFirst (α := α) hf
    have hacc := hr.account qs
    rw [dialogue_append, accepted_append, offered_append, ih hqs]
    congr 1
    cases q with
    | insert s e =>
      have hperm := hacc.perm_of_discarded rfl (discarded_dialogue hqs.discard_notMem)
      rw [ih hqs] at hperm
      have hnew : s ∉ (offered qs).map Prod.fst := by
        have hn := h.nodup
        rw [offered_append, List.map_append] at hn
        exact fun hm => List.disjoint_of_nodup_append hn hm List.mem_cons_self
      rw [← (hperm.map Prod.fst).mem_iff, List.map_append, List.mem_append, not_or] at hnew
      obtain ⟨hrel, hwait⟩ := hnew
      rw [hacc.slots, List.mem_range'_1, ← hacc.nextSend] at hrel
      have hle := Nat.not_lt.1 fun hlt => hrel ⟨Nat.zero_le s, hlt⟩
      have hall := h.handedOut
      rw [dialogue_append] at hall
      have hlt := hall _ (List.mem_append_right _ List.mem_cons_self) (s, e) List.mem_cons_self
      show accepted [⟨_, .insert s e, (((ofFirst first).after qs).ask (.insert s e)).1⟩] = [(s, e)]
      rw [ask_insert_of_accepts ⟨hle, hlt, hwait⟩]
      rfl
    | assign | release | discard => rfl

/-- A run that only fills slots, and is drained, puts its entries in order. -/
theorem Fills.resequences {first : Slot} (hf : first ≤ Slot.last)
    (h : Fills (ofFirst first : Resequencer α) qs) (hd : ((ofFirst first).after qs).Drained) :
    Resequences (offered qs) (released ((ofFirst first).dialogue qs)) (ofFirst first)
      ((ofFirst first).after qs) := by
  have hr := inRange_ofFirst (α := α) hf
  have hr' := hr.after qs
  have hacc := hr.account qs
  have hperm := hacc.perm_of_discarded rfl (discarded_dialogue h.discard_notMem)
  refine ⟨?_, hacc.slots, hacc.nextSend, fun w hw => ?_⟩
  · rw [← h.accepted_eq hf]
    exact hperm
  · have hm : w.1 ∈ ((ofFirst first).after qs).slots := mem_slots_iff.2 ⟨w, hw, rfl⟩
    have hne := nextSend_notMem_slots (hr'.drained_iff.1 hd) hr'.le_slots
    exact Nat.lt_of_le_of_ne (hr'.le_slots w.1 hm) fun he => hne (he ▸ hm)

/-- The slot at which a run stops was not filled. -/
theorem Resequences.nextSend_notMem {es out : List (Slot × Entry α)} (h : Resequences es out r r') :
    r'.nextSend ∉ (r.waiting.toList ++ es).map Prod.fst := by
  rw [← (h.perm.map Prod.fst).mem_iff, List.map_append, List.mem_append, h.slots,
    List.mem_range'_1, ← h.nextSend]
  rintro (⟨-, hlt⟩ | hm)
  · exact Nat.lt_irrefl _ hlt
  · obtain ⟨w, hw, hn⟩ := List.mem_map.1 hm
    exact Nat.ne_of_gt (h.rest w hw) hn

theorem InRange.after_replicate (h : r.InRange) (hr : r.release? = none) (n : Nat) :
    r.after (List.replicate n .release) = r := by
  have hask : r.ask .release = (.nothing, r) := by rw [h.ask_release, hr]
  induction n with
  | zero => rfl
  | succ n ih =>
    show (r.ask .release).2.after (List.replicate n .release) = r
    rw [hask]
    exact ih

/-- Enough releases drain a resequencer. -/
theorem InRange.drained_after (h : r.InRange) {n : Nat} (hn : r.slots.length ≤ n) :
    (r.after (List.replicate n .release)).Drained := by
  induction n generalizing r with
  | zero =>
    refine h.drained_iff.2 ?_
    cases hr : r.release? with
    | none => rfl
    | some x =>
      rw [slots_of_release? hr] at hn
      exact absurd hn (Nat.not_succ_le_zero _)
  | succ n ih =>
    have ha := h.answered .release
    show ((r.ask .release).2.after (List.replicate n .release)).Drained
    generalize (r.ask .release).1 = a, (r.ask .release).2 = r' at ha ⊢
    cases ha with
    | released hr =>
      rw [slots_of_release? hr] at hn
      exact ih (h.step (.released hr)) (Nat.le_of_succ_le_succ hn)
    | nothing hr =>
      rw [h.after_replicate hr]
      exact h.drained_iff.2 hr

/-! ## What is released -/

/-- Whatever is asked of a resequencer, it releases the slots from 0 on, each with an entry that was
accepted for it, and every accepted entry is released, discarded or waits, only once.  An entry that
is not accepted is handed back.  Runs that only fill slots release the same, and leave the same
waiting, if they fill the same slots in any order. -/
theorem released_in_order {first : Slot} (hf : first ≤ Slot.last) :
    let r₀ : Resequencer α := ofFirst first
    (∀ qs, let xs := r₀.dialogue qs
      (released xs).map Prod.fst = List.range (released xs).length ∧
        (released xs ++ discarded xs ++ (r₀.after qs).waiting.toList).Perm (accepted xs) ∧
        returned xs = (discarded xs).filterMap fun w => w.2.data?) ∧
      (∀ qs s e, let r := r₀.after qs
        ((r.ask (.insert s e)).1 = .accepted ↔ r.nextSend ≤ s ∧ s < r.nextReceive ∧ s ∉ r.slots) ∧
          ((r.ask (.insert s e)).1 ≠ .accepted → r.ask (.insert s e) = (.rejected e, r))) ∧
      (∀ qs n, (r₀.after qs).slots.length ≤ n →
        (r₀.after (qs ++ List.replicate n .release)).Drained) ∧
      ∀ qs₁ qs₂, r₀.Fills qs₁ → r₀.Fills qs₂ → (offered qs₁).Perm (offered qs₂) →
        (r₀.after qs₁).Drained → (r₀.after qs₂).Drained →
        released (r₀.dialogue qs₁) = released (r₀.dialogue qs₂) ∧
          (r₀.after qs₁).waiting = (r₀.after qs₂).waiting ∧
          (released (r₀.dialogue qs₁) ++ (r₀.after qs₁).waiting.toList).Perm (offered qs₁) ∧
          ∃ n, (released (r₀.dialogue qs₁)).map Prod.fst = List.range n ∧
            n ∉ (offered qs₁).map Prod.fst := by
  intro r₀
  have h₀ : r₀.InRange := inRange_ofFirst hf
  refine ⟨fun qs => ?_, fun qs s e => ?_, fun qs n hn => ?_, fun qs₁ qs₂ h₁ h₂ hp hd₁ hd₂ => ?_⟩
  · have hacc := h₀.account qs
    exact ⟨hacc.slots.trans List.range_eq_range'.symm, hacc.perm, hacc.returned⟩
  · intro r
    by_cases ha : r.Accepts s
    · have hask := ask_insert_of_accepts (e := e) ha
      exact ⟨⟨fun _ => ha, fun _ => by rw [hask]⟩, fun hn => absurd (by rw [hask]) hn⟩
    · have hask := ask_insert_of_not_accepts (e := e) ha
      refine ⟨⟨fun h => ?_, fun h => absurd h ha⟩, fun _ => hask⟩
      rw [hask] at h
      cases h
  · rw [after_append]
    exact (h₀.after qs).drained_after hn
  · have hseq₁ := h₁.resequences hf hd₁
    have hseq₂ := h₂.resequences hf hd₂
    obtain ⟨hout, -, hwait⟩ := hseq₁.unique hseq₂ hp
    refine ⟨hout, hwait, hseq₁.perm, (r₀.after qs₁).nextSend, ?_, hseq₁.nextSend_notMem⟩
    rw [hseq₁.slots, hseq₁.nextSend, nextSend_ofFirst, Nat.zero_add, List.range_eq_range']

theorem released_in_order_of_two :
    1 ≤ Slot.last ∧
      let r₀ : Resequencer Nat := ofFirst 1
      let qs₁ : List (Request Nat) :=
        [.assign, .insert 1 (.data 7), .insert 0 .skip, .release, .release]
      let qs₂ : List (Request Nat) :=
        [.insert 0 .skip, .release, .assign, .insert 1 (.data 7), .release]
      released (r₀.dialogue qs₁) = released (r₀.dialogue qs₂) := by
  have hf : 1 ≤ Slot.last := by decide
  refine ⟨hf, ?_⟩
  intro r₀ qs₁ qs₂
  obtain ⟨-, -, -, h⟩ := released_in_order (α := Nat) hf
  have h₁ : r₀.Fills qs₁ := ⟨by simp [qs₁], by decide, by decide⟩
  have h₂ : r₀.Fills qs₂ := ⟨by simp [qs₂], by decide, by decide⟩
  exact (h qs₁ qs₂ h₁ h₂ (.swap _ _ _) rfl rfl).1

end Resequencer

end OrderedEcho
