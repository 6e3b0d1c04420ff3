import OrderedEcho.Ascending
import OrderedEcho.Slot

/-!
# The resequencer

An endpoint has several receives posted at a time, and their completions are handled in any order.
A `Resequencer` restores the order of posting.  It hands out slots (`assign`), takes an entry for
each slot in any order (`insert`), and lets the entries go in the order of slots (`release?`): an
entry waits until all slots before its own have been released.

For instance, let slots 0, 1 and 2 be assigned and filled in the order 2, 0, 1.  Then entry 2 waits,
entry 0 is released at once, and entry 1 is released together with entry 2.

Slots are unbounded here.  `assign?` is the form of `assign` for a 64-bit counter.
-/

namespace OrderedEcho

variable {α : Type}

/-- What a slot comes to: something to send, or nothing, in which case the slot is passed over. -/
inductive Entry (α : Type)
  | data (a : α)
  | skip

/-- What is to be sent for the entry, if anything. -/
def Entry.data? : Entry α → Option α
  | data a => some a
  | skip => none

/-- Restores the order of slots. -/
structure Resequencer (α : Type) where
  /-- The slot that the next receive gets. -/
  nextReceive : Slot
  /-- The slot that is to be released next. -/
  nextSend : Slot := 0
  /-- Entries that wait for the slots before them. -/
  waiting : Ascending (Slot × Entry α) Prod.fst := .empty

namespace Resequencer

/-- Nothing has been assigned yet, and the first receive gets the slot `first`.  Slots before
`first` count as assigned by other means. -/
def ofFirst (first : Slot) : Resequencer α := { nextReceive := first }

/-- The slots that wait, in ascending order. -/
def slots (r : Resequencer α) : List Slot := r.waiting.toList.map Prod.fst

/-- No slot waits. -/
def isIdle (r : Resequencer α) : Bool := r.waiting.toList.isEmpty

/-- Hands out the next slot. -/
def assign (r : Resequencer α) : Slot × Resequencer α :=
  (r.nextReceive, { r with nextReceive := r.nextReceive + 1 })

/-- Hands out the next slot, if a 64-bit counter can step over it. -/
def assign? (r : Resequencer α) : Option (Slot × Resequencer α) :=
  r.nextReceive.next?.map fun nextReceive => (r.nextReceive, { r with nextReceive })

/-- The slot was assigned, was not released yet, and does not wait. -/
def Accepts (r : Resequencer α) (s : Slot) : Prop :=
  r.nextSend ≤ s ∧ s < r.nextReceive ∧ s ∉ r.slots

instance (r : Resequencer α) (s : Slot) : Decidable (r.Accepts s) := by
  unfold Accepts
  infer_instance

/-- Puts an entry at its slot.  If the slot cannot be filled, the entry is handed back. -/
def insert (r : Resequencer α) (s : Slot) (e : Entry α) : Except (Entry α) (Resequencer α) :=
  if r.Accepts s then .ok { r with waiting := r.waiting.insert (s, e) } else .error e

/-- Lets the first waiting entry go, if its slot is next. -/
def release? (r : Resequencer α) : Option ((Slot × Entry α) × Resequencer α) :=
  match r.waiting.uncons? with
  | none => none
  | some ((s, e), waiting) =>
    if s = r.nextSend then some ((s, e), { r with nextSend := s + 1, waiting }) else none

/-- Lets up to `n` entries go. -/
def releaseUpTo : Nat → Resequencer α → List (Slot × Entry α) × Resequencer α
  | 0, r => ([], r)
  | n + 1, r =>
    match r.release? with
    | none => ([], r)
    | some (e, r) => let (es, r) := releaseUpTo n r; (e :: es, r)

/-- Lets all entries go that can, in order. -/
def releaseAll (r : Resequencer α) : List (Slot × Entry α) × Resequencer α :=
  r.releaseUpTo r.waiting.toList.length

/-- Gives up all waiting entries, and returns what was to be sent for them. -/
def discard (r : Resequencer α) : List α × Resequencer α :=
  (r.waiting.toList.filterMap fun w => w.2.data?, { r with waiting := .empty })

theorem assign?_eq_none_iff {r : Resequencer α} : r.assign? = none ↔ Slot.last ≤ r.nextReceive := by
  simp [assign?, Slot.next?_eq_none_iff]

theorem assign?_eq_some {r : Resequencer α} {x : Slot × Resequencer α} (h : r.assign? = some x) :
    x = r.assign := by
  obtain ⟨n, hn, rfl⟩ := Option.map_eq_some_iff.1 h
  rw [(Slot.next?_eq_some_iff.1 hn).2]
  rfl

theorem insert_eq_ok_iff {r r' : Resequencer α} {s : Slot} {e : Entry α} :
    r.insert s e = .ok r' ↔
      r.Accepts s ∧ r' = { r with waiting := r.waiting.insert (s, e) } := by
  unfold insert
  split <;> simp_all [eq_comm]

theorem release?_eq_some_iff {r r' : Resequencer α} {w : Slot × Entry α} :
    r.release? = some (w, r') ↔
      w.1 = r.nextSend ∧ r.waiting.toList = w :: r'.waiting.toList ∧ r'.nextSend = w.1 + 1 ∧
        r'.nextReceive = r.nextReceive := by
  obtain ⟨nr', ns', waiting'⟩ := r'
  rw [← Ascending.uncons?_eq_some_iff]
  unfold release?
  split
  · next h => simp [h]
  · next s e waiting h =>
    rw [h]
    split
    · next hs =>
      simp only [Option.some.injEq, Prod.mk.injEq, Resequencer.mk.injEq]
      constructor
      · rintro ⟨rfl, rfl, rfl, rfl⟩
        exact ⟨hs, ⟨rfl, rfl⟩, rfl, rfl⟩
      · rintro ⟨-, ⟨rfl, rfl⟩, rfl, rfl⟩
        exact ⟨rfl, rfl, rfl, rfl⟩
    · next hs =>
      simp only [reduceCtorEq, Option.some.injEq, Prod.mk.injEq, false_iff]
      rintro ⟨h₁, ⟨rfl, -⟩, -⟩
      exact hs h₁

end Resequencer

end OrderedEcho
