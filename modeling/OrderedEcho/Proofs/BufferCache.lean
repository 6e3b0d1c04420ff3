import OrderedEcho.Proofs.Link.Blank

/-!
# The cache of buffers does not show

A pool hands out buffers that were used before.  To those who use its operations this makes no
difference: whatever they do, they see what they would see if every operation got a new buffer full
of zeros (`Holder.act_plain`), as the `Plain` pool does it, which keeps nothing but its operations.

All that the cache needs for this is that its buffers were emptied (`Pool.Clean`).  How much room they
have does not matter, so memory may give a buffer more room than it was asked for (`Edit.grow`).
-/

namespace OrderedEcho

/-! ## The use of an operation -/

/-- What can be done with an operation, other than to end its life or to refill it. -/
inductive Edit
  | setPayload (data : List UInt8)
  /-- Opens the buffer, and writes into it from the beginning. -/
  | write (data : List UInt8)
  | truncate (n : Nat)
  | takeBuffer
  | becomeSend
  | setKind (kind : OperationKind)
  | setEndpoint (id : EndpointId)
  | setSlot (slot : Option Slot)
  | setPeer (peer : Option SocketAddress)
  /-- The buffer turns out to have more room. -/
  | grow (n : Nat)

/-- The bytes that an edit shows, and the operation after it. -/
def Operation.edit (op : Operation) : Edit → List UInt8 × Operation
  | .setPayload data => ([], op.setPayload data)
  | .write data => (op.openBuffer.payload, op.openBuffer.overwrite data)
  | .truncate n => ([], op.truncate n)
  | .takeBuffer => (op.takeBuffer.1.bytes, op.takeBuffer.2)
  | .becomeSend => ([], op.becomeSend)
  | .setKind kind => ([], { op with kind })
  | .setEndpoint id => ([], { op with endpoint := some id })
  | .setSlot slot => ([], { op with slot })
  | .setPeer peer => ([], { op with peer })
  | .grow n => ([], { op with buffer := { op.buffer with room := op.buffer.room + n } })

/-- What is to be seen of an operation. -/
structure Record where
  kind : OperationKind
  endpoint : Option EndpointId := none
  payload : List UInt8 := []
  capacity : Nat
  peer : Option SocketAddress := none
  slot : Option Slot := none

namespace Record

/-- The payload on top of a buffer full of zeros. -/
def exposed (r : Record) : List UInt8 :=
  (r.payload ++ List.replicate r.capacity 0).take r.capacity

theorem exposed_of_payload_eq_nil {r : Record} (h : r.payload = []) :
    r.exposed = List.replicate r.capacity 0 := by
  rw [exposed, h, List.nil_append, List.take_replicate, Nat.min_self]

/-- The bytes that an edit shows, and the record after it. -/
def edit (r : Record) : Edit → List UInt8 × Record
  | .setPayload data => ([], { r with payload := data })
  | .write data =>
    let payload := data.take r.capacity ++ r.exposed.drop data.length
    (r.exposed, { r with payload })
  | .truncate n => ([], { r with payload := r.payload.take n })
  | .takeBuffer => (r.payload, { r with payload := [], capacity := 0 })
  | .becomeSend => ([], { r with kind := .send })
  | .setKind kind => ([], { r with kind })
  | .setEndpoint id => ([], { r with endpoint := some id })
  | .setSlot slot => ([], { r with slot })
  | .setPeer peer => ([], { r with peer })
  | .grow _ => ([], r)

end Record

namespace Operation

/-- The operation without the memory it lives in. -/
def record (op : Operation) : Record :=
  ⟨op.kind, op.endpoint, op.payload, op.capacity, op.peer, op.slot⟩

theorem exposed_record (op : Operation) : op.record.exposed = op.openBuffer.payload := by
  show (op.payload ++ List.replicate op.capacity 0).take op.capacity =
    op.payload.take op.capacity ++ List.replicate (op.capacity - op.payload.length) 0
  rw [List.take_append, List.take_replicate, Nat.min_eq_left (Nat.sub_le _ _)]

/-- An operation whose buffer is empty shows zeros to whoever opens it. -/
theorem zeros_of_payload_eq_nil {op : Operation} (h : op.payload = []) :
    op.openBuffer.payload = List.replicate op.capacity 0 := by
  rw [← exposed_record]
  exact Record.exposed_of_payload_eq_nil h

theorem edit_record (op : Operation) (e : Edit) :
    op.record.edit e = ((op.edit e).1, (op.edit e).2.record) := by
  cases e with
  | write data =>
    have hlen := op.length_payload_openBuffer
    simp only [Record.edit, exposed_record, edit]
    congr 2
    show _ = data.take op.openBuffer.payload.length ++ op.openBuffer.payload.drop data.length
    rw [hlen]
    rfl
  | setPayload _ | truncate _ | takeBuffer | becomeSend | setKind _ | setEndpoint _ | setSlot _
  | setPeer _ | grow _ => rfl

end Operation

/-! ## Cached buffers -/

namespace Pool

variable {p p' : Pool} {size n : Nat} {kind : OperationKind} {op : Operation}

/-- The cache has a number of places, and the buffers in it are empty. -/
structure Clean (p : Pool) (size : Nat) : Prop where
  cacheSize : p.cacheSize = size
  length_le : p.cache.length ≤ size
  bytes : ∀ b ∈ p.cache, b.bytes = []

theorem Clean.takeBuffer (h : p.Clean size) (n : Nat) :
    (p.takeBuffer n).1.bytes = [] ∧ (p.takeBuffer n).2.Clean size := by
  have hmake : (p.makeBuffer n).2.Clean size := ⟨h.cacheSize, h.length_le, h.bytes⟩
  unfold Pool.takeBuffer
  split
  · split
    · next b cache hc =>
      have hlen := h.length_le
      have hbytes := h.bytes
      rw [hc] at hlen hbytes
      obtain ⟨hb, hcache⟩ := List.forall_mem_cons.1 hbytes
      exact ⟨hb, h.cacheSize, Nat.le_of_succ_le hlen, hcache⟩
    · exact ⟨rfl, hmake⟩
  · exact ⟨rfl, hmake⟩

theorem Clean.keepBuffer (h : p.Clean size) (b : Buffer) : (p.keepBuffer b).Clean size := by
  unfold Pool.keepBuffer
  split
  · next hk =>
    exact ⟨h.cacheSize, h.cacheSize ▸ hk.2, List.forall_mem_cons.2 ⟨rfl, h.bytes⟩⟩
  · exact h

theorem Clean.drop (h : p.Clean size) : p.drop.Clean size := ⟨h.cacheSize, h.length_le, h.bytes⟩

theorem Clean.release (h : p.Clean size) (op : Operation) : (p.release op).Clean size :=
  (h.keepBuffer op.buffer).drop

/-- A new operation is empty, and gets the capacity that was asked for. -/
theorem Clean.allocate (h : p.Clean size) (ha : p.allocate kind n = .ok (op, p')) :
    op.record = { kind, capacity := n } ∧ p'.Clean size := by
  unfold Pool.allocate at ha
  split at ha
  · cases ha
  · obtain ⟨rfl, rfl⟩ := Prod.mk.inj (Except.ok.inj ha)
    obtain ⟨hb, hc⟩ := h.takeBuffer n
    refine ⟨?_, hc.cacheSize, hc.length_le, hc.bytes⟩
    show Record.mk kind none (p.takeBuffer n).1.bytes n none none = _
    rw [hb]

/-- A refilled operation is empty, and has the capacity of a regular buffer. -/
theorem Clean.refill (h : p.Clean size) (op : Operation) :
    (p.refill op).1.record = { op.record with payload := [], capacity := p.bufferSize } ∧
      (p.refill op).2.Clean size := by
  obtain ⟨hb, hc⟩ := h.takeBuffer p.bufferSize
  refine ⟨?_, hc⟩
  show Record.mk op.kind op.endpoint (p.takeBuffer p.bufferSize).1.bytes
    (p.takeBuffer p.bufferSize).2.bufferSize op.peer op.slot = _
  rw [hb, bufferSize_takeBuffer]
  rfl

end Pool

/-! ## The use of a pool -/

/-- What can be done with a pool and with the operations in hand, which are called by their
positions. -/
inductive Act
  | allocate (kind : OperationKind) (capacity : Nat)
  | release (i : Nat)
  | drop (i : Nat)
  | refill (i : Nat)
  | edit (i : Nat) (e : Edit)

/-- What comes of it. -/
inductive Outcome
  /-- It was done, and these bytes were shown. -/
  | done (seen : List UInt8)
  | refused (e : Exhausted)
  /-- There is no such operation. -/
  | unknown

/-- A pool, and the operations that were taken out of it and are still in hand. -/
structure Holder where
  pool : Pool
  held : List Operation := []

namespace Holder

/-- Does something with the operation at a position, if there is one. -/
def withHeld (h : Holder) (i : Nat) (f : Operation → Outcome × Holder) : Outcome × Holder :=
  match h.held[i]? with
  | some op => f op
  | none => (.unknown, h)

/-- Takes one more operation out of the pool. -/
def take (h : Holder) (kind : OperationKind) (capacity : Nat) : Outcome × Holder :=
  match h.pool.allocate kind capacity with
  | .ok (op, pool) => (.done [], ⟨pool, h.held ++ [op]⟩)
  | .error e => (.refused e, h)

def act (h : Holder) : Act → Outcome × Holder
  | .allocate kind capacity => h.take kind capacity
  | .release i => h.withHeld i fun op => (.done [], ⟨h.pool.release op, h.held.eraseIdx i⟩)
  | .drop i => h.withHeld i fun _ => (.done [], ⟨h.pool.drop, h.held.eraseIdx i⟩)
  | .refill i => h.withHeld i fun op =>
    let (op, pool) := h.pool.refill op
    (.done [], ⟨pool, h.held.set i op⟩)
  | .edit i e => h.withHeld i fun op =>
    let (seen, op) := op.edit e
    (.done seen, { h with held := h.held.set i op })

/-- What comes of several acts, and what is in hand after them. -/
def run (h : Holder) : List Act → List Outcome × Holder
  | [] => ([], h)
  | a :: as => ((h.act a).1 :: ((h.act a).2.run as).1, ((h.act a).2.run as).2)

end Holder

/-- A pool without buffers, which has nothing but the operations in hand. -/
structure Plain where
  bufferSize : Nat
  limit : Option Nat
  held : List Record := []

namespace Plain

/-- Why there cannot be one more operation, if there cannot. -/
def exhausted? (p : Plain) : Option Exhausted :=
  if p.limit = some p.held.length then some ⟨p.held.length, p.held.length⟩ else none

/-- Does something with the record at a position, if there is one. -/
def withHeld (p : Plain) (i : Nat) (f : Record → Outcome × Plain) : Outcome × Plain :=
  match p.held[i]? with
  | some r => f r
  | none => (.unknown, p)

/-- Makes one more operation. -/
def take (p : Plain) (kind : OperationKind) (capacity : Nat) : Outcome × Plain :=
  match p.exhausted? with
  | some e => (.refused e, p)
  | none => (.done [], { p with held := p.held ++ [{ kind, capacity }] })

def act (p : Plain) : Act → Outcome × Plain
  | .allocate kind capacity => p.take kind capacity
  | .release i => p.withHeld i fun _ => (.done [], { p with held := p.held.eraseIdx i })
  | .drop i => p.withHeld i fun _ => (.done [], { p with held := p.held.eraseIdx i })
  | .refill i => p.withHeld i fun r =>
    (.done [], { p with held := p.held.set i { r with payload := [], capacity := p.bufferSize } })
  | .edit i e => p.withHeld i fun r =>
    let (seen, r) := r.edit e
    (.done seen, { p with held := p.held.set i r })

/-- What comes of several acts, and what is in hand after them. -/
def run (p : Plain) : List Act → List Outcome × Plain
  | [] => ([], p)
  | a :: as => ((p.act a).1 :: ((p.act a).2.run as).1, ((p.act a).2.run as).2)

/-- Only the operations in hand change. -/
theorem act_eq (p : Plain) (a : Act) : (p.act a).2 = { p with held := (p.act a).2.held } := by
  cases a with
  | allocate kind n =>
    show (p.take kind n).2 = { p with held := (p.take kind n).2.held }
    unfold take
    split <;> rfl
  | release i | drop i | refill i | edit i _ =>
    unfold act withHeld
    dsimp only
    split <;> rfl

theorem run_eq (p : Plain) (as : List Act) : (p.run as).2 = { p with held := (p.run as).2.held } := by
  induction as generalizing p with
  | nil => rfl
  | cons a as ih =>
    show ((p.act a).2.run as).2 = { p with held := ((p.act a).2.run as).2.held }
    rw [ih, act_eq]

end Plain

/-! ## The cache does not show -/

namespace Holder

variable {h : Holder} {size : Nat}

/-- What is to be seen of a pool and the operations in hand. -/
def plain (h : Holder) : Plain := ⟨h.pool.bufferSize, h.pool.limit, h.held.map Operation.record⟩

/-- The pool counts the operations in hand, has handed out no more than its limit, and has a clean
cache with a number of places. -/
structure Tidy (h : Holder) (size : Nat) : Prop where
  clean : h.pool.Clean size
  outstanding : h.pool.outstanding = h.held.length
  within : ∀ limit, h.pool.limit = some limit → h.held.length ≤ limit

/-- What is done with an operation in hand, seen from outside. -/
theorem withHeld_plain {i : Nat} {f : Operation → Outcome × Holder} {g : Record → Outcome × Plain}
    (hf : ∀ op, h.held[i]? = some op → g op.record = ((f op).1, (f op).2.plain)) :
    h.plain.withHeld i g = ((h.withHeld i f).1, (h.withHeld i f).2.plain) := by
  unfold Plain.withHeld Holder.withHeld plain
  rw [List.getElem?_map]
  cases hi : h.held[i]? with
  | none => rfl
  | some op => exact hf op hi

theorem Tidy.withHeld {i : Nat} {f : Operation → Outcome × Holder} (ht : h.Tidy size)
    (hf : ∀ op, h.held[i]? = some op → (f op).2.Tidy size) : (h.withHeld i f).2.Tidy size := by
  unfold Holder.withHeld
  split
  · next op hi => exact hf op hi
  · exact ht

/-- With as many operations in hand as the limit allows, and only then, there is no other one. -/
theorem Tidy.exhausted?_eq (ht : h.Tidy size) : h.pool.exhausted? = h.plain.exhausted? := by
  simp only [Pool.exhausted?, Plain.exhausted?, plain, ht.outstanding, List.length_map]
  cases hl : h.pool.limit with
  | none => rfl
  | some limit =>
    have hle := ht.within limit hl
    by_cases he : limit = h.held.length
    · simp [he]
    · have hgt : ¬ limit ≤ h.held.length := fun hge => he (Nat.le_antisymm hge hle)
      simp [he, hgt]

theorem Tidy.take_plain (ht : h.Tidy size) (kind : OperationKind) (n : Nat) :
    h.plain.take kind n = ((h.take kind n).1, (h.take kind n).2.plain) := by
  unfold Plain.take Holder.take
  rw [← ht.exhausted?_eq]
  cases ha : h.pool.allocate kind n with
  | error e => rw [Pool.allocate_eq_error_iff.1 ha]
  | ok x =>
    obtain ⟨op, pool⟩ := x
    obtain ⟨hop, -⟩ := ht.clean.allocate ha
    rw [Pool.exhausted?_of_allocate ha]
    dsimp only [plain]
    rw [Pool.bufferSize_of_allocate ha, Pool.limit_of_allocate ha, List.map_append,
      List.map_singleton, hop]

/-- An act shows what it shows without a cache. -/
theorem Tidy.act_plain (ht : h.Tidy size) (a : Act) :
    h.plain.act a = ((h.act a).1, (h.act a).2.plain) := by
  cases a with
  | allocate kind n => exact ht.take_plain kind n
  | release i =>
    refine withHeld_plain fun op _ => ?_
    dsimp only [plain]
    rw [Pool.bufferSize_release, Pool.limit_release, List.eraseIdx_map]
  | drop i =>
    refine withHeld_plain fun op _ => ?_
    dsimp only [plain]
    rw [List.eraseIdx_map]
    rfl
  | refill i =>
    refine withHeld_plain fun op _ => ?_
    obtain ⟨hop, -⟩ := ht.clean.refill op
    dsimp only [plain]
    rw [List.map_set, hop]
    simp only [Pool.refill, Pool.bufferSize_takeBuffer, Pool.limit_takeBuffer]
  | edit i e =>
    refine withHeld_plain fun op _ => ?_
    dsimp only [plain]
    rw [List.map_set, Operation.edit_record]

theorem Tidy.take (ht : h.Tidy size) (kind : OperationKind) (n : Nat) :
    (h.take kind n).2.Tidy size := by
  unfold Holder.take
  cases ha : h.pool.allocate kind n with
  | error e => exact ht
  | ok x =>
    obtain ⟨op, pool⟩ := x
    refine ⟨(ht.clean.allocate ha).2, ?_, fun limit hl => ?_⟩
    · rw [Pool.outstanding_of_allocate ha, ht.outstanding, List.length_append]
      rfl
    · rw [Pool.limit_of_allocate ha] at hl
      have hlt := Pool.lt_limit_of_allocate ha hl
      rw [ht.outstanding] at hlt
      rw [List.length_append]
      exact hlt

/-- An operation in hand ends its life. -/
theorem Tidy.erase (ht : h.Tidy size) {p : Pool} {i : Nat} {op : Operation}
    (hi : h.held[i]? = some op) (hc : p.Clean size) (ho : p.outstanding = h.pool.outstanding - 1)
    (hl : p.limit = h.pool.limit) : Tidy ⟨p, h.held.eraseIdx i⟩ size := by
  obtain ⟨hlt, -⟩ := List.getElem?_eq_some_iff.1 hi
  have hlen := List.length_eraseIdx_of_lt hlt
  refine ⟨hc, ?_, fun limit hlim => ?_⟩
  · rw [ho, ht.outstanding, hlen]
  · rw [hlen]
    exact Nat.le_trans (Nat.sub_le _ _) (ht.within limit (hl ▸ hlim))

/-- An operation in hand changes. -/
theorem Tidy.set (ht : h.Tidy size) {p : Pool} (i : Nat) (op : Operation) (hc : p.Clean size)
    (ho : p.outstanding = h.pool.outstanding) (hl : p.limit = h.pool.limit) :
    Tidy ⟨p, h.held.set i op⟩ size := by
  refine ⟨hc, ?_, fun limit hlim => ?_⟩
  · rw [ho, ht.outstanding, List.length_set]
  · rw [List.length_set]
    exact ht.within limit (hl ▸ hlim)

theorem Tidy.act (ht : h.Tidy size) (a : Act) : (h.act a).2.Tidy size := by
  cases a with
  | allocate kind n => exact ht.take kind n
  | release i =>
    exact ht.withHeld fun op hi => ht.erase hi (ht.clean.release op)
      (Pool.outstanding_release _ op) (Pool.limit_release _ op)
  | drop i => exact ht.withHeld fun op hi => ht.erase hi ht.clean.drop rfl rfl
  | refill i =>
    exact ht.withHeld fun op _ => ht.set i _ (ht.clean.refill op).2
      (Pool.outstanding_takeBuffer _ _) (Pool.limit_takeBuffer _ _)
  | edit i e => exact ht.withHeld fun op _ => ht.set i _ ht.clean rfl rfl

theorem Tidy.run (ht : h.Tidy size) (as : List Act) : (h.run as).2.Tidy size := by
  induction as generalizing h with
  | nil => exact ht
  | cons a as ih => exact ih (ht.act a)

theorem Tidy.run_plain (ht : h.Tidy size) (as : List Act) :
    h.plain.run as = ((h.run as).1, (h.run as).2.plain) := by
  induction as generalizing h with
  | nil => rfl
  | cons a as ih =>
    unfold Plain.run Holder.run
    rw [ht.act_plain, ih (ht.act a)]

theorem tidy_new (bufferSize cacheSize : Nat) (limit : Option Nat) :
    Tidy ⟨{ bufferSize, cacheSize, limit }, []⟩ cacheSize :=
  ⟨⟨rfl, Nat.zero_le _, List.forall_mem_nil _⟩, rfl, fun _ _ => Nat.zero_le _⟩

/-- As many operations are in hand as the limit allows, and one more is asked for. -/
theorem Tidy.act_allocate_of_limit (ht : h.Tidy size) (hl : h.pool.limit = some h.held.length)
    (kind : OperationKind) (n : Nat) :
    h.act (.allocate kind n) = (.refused ⟨h.held.length, h.held.length⟩, h) := by
  have he : h.pool.exhausted? = some ⟨h.held.length, h.held.length⟩ := by
    simp only [Pool.exhausted?, hl, ht.outstanding, Nat.le_refl, if_true]
  simp only [Holder.act, Holder.take, Pool.allocate_eq_error_iff.2 he]

/-- There is room for one more operation, and it is asked for. -/
theorem Tidy.allocate_of_limit_ne (ht : h.Tidy size) (hl : h.pool.limit ≠ some h.held.length)
    (kind : OperationKind) (n : Nat) :
    ∃ op pool, h.pool.allocate kind n = .ok (op, pool) ∧ op.payload = [] ∧ op.capacity = n ∧
      op.openBuffer.payload = List.replicate n 0 := by
  cases ha : h.pool.allocate kind n with
  | error e =>
    rw [Pool.allocate_eq_error_iff, ht.exhausted?_eq, Plain.exhausted?] at ha
    simp only [plain, List.length_map, if_neg hl, reduceCtorEq] at ha
  | ok x =>
    obtain ⟨op, pool⟩ := x
    obtain ⟨hop, -⟩ := ht.clean.allocate ha
    have hp : op.payload = [] := congrArg Record.payload hop
    have hc : op.capacity = n := congrArg Record.capacity hop
    exact ⟨op, pool, rfl, hp, hc, hc ▸ Operation.zeros_of_payload_eq_nil hp⟩

/-- Whatever is done with a pool and its operations, it shows what a pool shows that makes a new
buffer each time.  It counts the operations in hand, and keeps to its limit and to the size of its
cache. -/
theorem cache_not_seen (bufferSize cacheSize : Nat) (limit : Option Nat) (as : List Act) :
    let start : Holder := ⟨{ bufferSize, cacheSize, limit }, []⟩
    let h := (start.run as).2
    let plain := Plain.run ⟨bufferSize, limit, []⟩ as
    ((start.run as).1 = plain.1 ∧ h.held.map Operation.record = plain.2.held) ∧
      (h.pool.outstanding = h.held.length ∧ ∀ n, limit = some n → h.held.length ≤ n) ∧
      (∀ kind n, limit = some h.held.length →
        h.act (.allocate kind n) = (.refused ⟨h.held.length, h.held.length⟩, h)) ∧
      (∀ kind n, limit ≠ some h.held.length →
        ∃ op pool, h.pool.allocate kind n = .ok (op, pool) ∧ op.payload = [] ∧ op.capacity = n ∧
          op.openBuffer.payload = List.replicate n 0) ∧
      (∀ op ∈ h.held, let op' := (h.pool.refill op).1
        op'.payload = [] ∧ op'.capacity = bufferSize ∧
          op'.openBuffer.payload = List.replicate bufferSize 0) ∧
      h.pool.cache.length ≤ cacheSize ∧ ∀ b ∈ h.pool.cache, b.bytes = [] := by
  intro start h plain
  have h₀ : start.Tidy cacheSize := tidy_new bufferSize cacheSize limit
  have ht : h.Tidy cacheSize := h₀.run as
  have hrun : plain = ((start.run as).1, h.plain) := h₀.run_plain as
  have hplain : h.plain = ⟨bufferSize, limit, h.plain.held⟩ := by
    have hsnd : plain.2 = h.plain := congrArg Prod.snd hrun
    rw [← hsnd]
    exact Plain.run_eq _ as
  have hsize : h.pool.bufferSize = bufferSize := congrArg Plain.bufferSize hplain
  have hlimit : h.pool.limit = limit := congrArg Plain.limit hplain
  refine ⟨⟨?_, ?_⟩, ⟨ht.outstanding, ?_⟩, ?_, ?_, fun op _ => ?_, ht.clean.length_le, ht.clean.bytes⟩
  · rw [hrun]
  · rw [hrun]
    rfl
  · rw [← hlimit]
    exact ht.within
  · intro kind n hl
    exact ht.act_allocate_of_limit (hlimit.trans hl) kind n
  · intro kind n hl
    exact ht.allocate_of_limit_ne (hlimit.trans_ne hl) kind n
  · intro op'
    obtain ⟨hop, -⟩ := ht.clean.refill op
    have hp : op'.payload = [] := congrArg Record.payload hop
    have hc : op'.capacity = bufferSize := (congrArg Record.capacity hop).trans hsize
    exact ⟨hp, hc, hc ▸ Operation.zeros_of_payload_eq_nil hp⟩

end Holder

end OrderedEcho
