import OrderedEcho.Operation

/-!
# The pool of operations

A `Pool` hands out operations and counts those that are alive, up to a limit if it has one.  It
keeps a few released buffers of the regular size and hands them out again.  An operation ends its
life either by `Pool.release`, which also considers its buffer for keeping, or by `Pool.drop`.

Whether memory can hold what the pool makes is `Pool.FitsMemory`.  The functions here do not ask:
they go on as if memory had no end, and `Pool.peak` remembers the largest buffer that was made, so
a program that must stop when memory cannot hold a buffer finds out after each step.
-/

namespace OrderedEcho

/-- No operation can be handed out: as many are alive as the limit allows. -/
structure Exhausted where
  outstanding : Nat
  limit : Nat
  deriving DecidableEq

def Exhausted.message (e : Exhausted) : String :=
  s!"no descriptor available: {e.outstanding} of {e.limit} descriptors are outstanding"

/-- A pool of operations. -/
structure Pool where
  /-- The size of regular buffers. -/
  bufferSize : Nat
  /-- The number of buffers that are kept at most. -/
  cacheSize : Nat
  limit : Option Nat := none
  cache : List Buffer := []
  /-- The number of operations that are alive. -/
  outstanding : Nat := 0
  /-- The room of the largest buffer that was made so far. -/
  peak : Nat := 0

namespace Pool

/-! ## Memory -/

/-- The most places that a cache can have.  They lie in one piece of memory, with 32 bytes each. -/
def maxCacheSize : Nat := Buffer.maxRoom / 32

/-- Memory can hold the cache and every buffer that was made so far. -/
def FitsMemory (p : Pool) : Prop := p.cacheSize ≤ maxCacheSize ∧ p.peak ≤ Buffer.maxRoom

instance (p : Pool) : Decidable p.FitsMemory := by
  unfold FitsMemory
  infer_instance

/-! ## Buffers -/

/-- A new, empty buffer. -/
def makeBuffer (p : Pool) (room : Nat) : Buffer × Pool :=
  (.ofRoom room, { p with peak := max p.peak room })

/-- An empty buffer for `capacity` bytes: a kept one if the size is the regular one. -/
def takeBuffer (p : Pool) (capacity : Nat) : Buffer × Pool :=
  if capacity = p.bufferSize then
    match p.cache with
    | b :: cache => (b, { p with cache })
    | [] => p.makeBuffer capacity
  else p.makeBuffer capacity

/-- Keeps the buffer, emptied, if it is large enough and there is a place for it. -/
def keepBuffer (p : Pool) (b : Buffer) : Pool :=
  if p.bufferSize ≤ b.room ∧ p.cache.length < p.cacheSize then
    { p with cache := b.clear :: p.cache }
  else p

/-! ## Operations -/

/-- Why no operation can be handed out, if none can. -/
def exhausted? (p : Pool) : Option Exhausted :=
  match p.limit with
  | some limit => if limit ≤ p.outstanding then some ⟨p.outstanding, limit⟩ else none
  | none => none

/-- Hands out a new operation. -/
def allocate (p : Pool) (kind : OperationKind) (capacity : Nat) :
    Except Exhausted (Operation × Pool) :=
  match p.exhausted? with
  | some e => .error e
  | none =>
    let (buffer, p) := p.takeBuffer capacity
    .ok ({ kind, buffer, capacity }, { p with outstanding := p.outstanding + 1 })

/-- Ends the life of an operation whose buffer is not considered for keeping. -/
def drop (p : Pool) : Pool := { p with outstanding := p.outstanding - 1 }

/-- Ends the life of an operation. -/
def release (p : Pool) (op : Operation) : Pool := (p.keepBuffer op.buffer).drop

/-- Replaces the operation's buffer by an empty one of the regular size. -/
def refill (p : Pool) (op : Operation) : Operation × Pool :=
  let (buffer, p) := p.takeBuffer p.bufferSize
  ({ op with buffer, capacity := p.bufferSize }, p)

/-- Makes sure that the operation has the capacity of a regular buffer. -/
def equip (p : Pool) (op : Operation) : Operation × Pool :=
  if op.capacity < p.bufferSize then p.refill op else (op, p)

@[simp] theorem bufferSize_takeBuffer (p : Pool) (n : Nat) :
    (p.takeBuffer n).2.bufferSize = p.bufferSize := by
  unfold takeBuffer
  split
  · split <;> rfl
  · rfl

@[simp] theorem outstanding_takeBuffer (p : Pool) (n : Nat) :
    (p.takeBuffer n).2.outstanding = p.outstanding := by
  unfold takeBuffer
  split
  · split <;> rfl
  · rfl

@[simp] theorem outstanding_keepBuffer (p : Pool) (b : Buffer) :
    (p.keepBuffer b).outstanding = p.outstanding := by
  unfold keepBuffer
  split <;> rfl

@[simp] theorem outstanding_release (p : Pool) (op : Operation) :
    (p.release op).outstanding = p.outstanding - 1 := by
  simp [release, drop]

@[simp] theorem outstanding_equip (p : Pool) (op : Operation) :
    (p.equip op).2.outstanding = p.outstanding := by
  unfold equip
  split
  · exact outstanding_takeBuffer p p.bufferSize
  · rfl

theorem outstanding_foldl_release (ops : List Operation) (p : Pool) :
    (ops.foldl release p).outstanding = p.outstanding - ops.length := by
  induction ops generalizing p with
  | nil => rfl
  | cons op ops ih =>
    rw [List.foldl_cons, ih, outstanding_release, List.length_cons]
    omega

@[simp] theorem limit_takeBuffer (p : Pool) (n : Nat) : (p.takeBuffer n).2.limit = p.limit := by
  unfold takeBuffer
  split
  · split <;> rfl
  · rfl

@[simp] theorem limit_release (p : Pool) (op : Operation) : (p.release op).limit = p.limit := by
  unfold release keepBuffer
  split <;> rfl

@[simp] theorem limit_equip (p : Pool) (op : Operation) : (p.equip op).2.limit = p.limit := by
  unfold equip
  split
  · exact limit_takeBuffer p p.bufferSize
  · rfl

theorem limit_foldl_release (ops : List Operation) (p : Pool) :
    (ops.foldl release p).limit = p.limit := by
  induction ops generalizing p with
  | nil => rfl
  | cons op ops ih => rw [List.foldl_cons, ih, limit_release]

theorem le_peak_takeBuffer (p : Pool) (n : Nat) : p.peak ≤ (p.takeBuffer n).2.peak := by
  unfold takeBuffer
  split
  · split
    · exact Nat.le_refl _
    · exact Nat.le_max_left ..
  · exact Nat.le_max_left ..

theorem allocate_eq_error_iff {p : Pool} {kind : OperationKind} {n : Nat} {e : Exhausted} :
    p.allocate kind n = .error e ↔ p.exhausted? = some e := by
  unfold allocate
  split <;> simp_all

section Allocate

variable {p p' : Pool} {kind : OperationKind} {n : Nat} {op : Operation}

theorem outstanding_of_allocate (h : p.allocate kind n = .ok (op, p')) :
    p'.outstanding = p.outstanding + 1 := by
  unfold allocate at h
  split at h
  · cases h
  · obtain ⟨-, rfl⟩ := Prod.mk.inj (Except.ok.inj h)
    exact congrArg (· + 1) (outstanding_takeBuffer p n)

theorem limit_of_allocate (h : p.allocate kind n = .ok (op, p')) : p'.limit = p.limit := by
  unfold allocate at h
  split at h
  · cases h
  · obtain ⟨-, rfl⟩ := Prod.mk.inj (Except.ok.inj h)
    exact limit_takeBuffer p n

theorem lt_limit_of_allocate (h : p.allocate kind n = .ok (op, p')) {limit : Nat}
    (hl : p.limit = some limit) : p.outstanding < limit := by
  unfold allocate at h
  split at h
  · cases h
  · next he =>
    unfold exhausted? at he
    rw [hl] at he
    simpa using he

theorem exhausted?_of_allocate (h : p.allocate kind n = .ok (op, p')) : p.exhausted? = none := by
  cases hx : p.exhausted? with
  | none => rfl
  | some e => cases h.symm.trans (allocate_eq_error_iff.2 hx)

theorem kind_of_allocate (h : p.allocate kind n = .ok (op, p')) : op.kind = kind := by
  unfold allocate at h
  split at h
  · cases h
  · obtain ⟨rfl, -⟩ := Prod.mk.inj (Except.ok.inj h)
    rfl

end Allocate

end Pool

end OrderedEcho
