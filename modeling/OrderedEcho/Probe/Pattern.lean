/-!
# The byte pattern of a probe

A probe sends bytes that follow from their offset: `Pattern.byte`.  `Pattern.firstMismatch` finds
the first byte of an echo that differs.
-/

namespace OrderedEcho

namespace Probe.Pattern

/-- The byte at offset `n`. -/
def byte (n : Nat) : UInt8 := .ofNat (n % 251)

/-- The `n` bytes from offset `start` on. -/
def bytes : Nat → Nat → List UInt8
  | _, 0 => []
  | start, n + 1 => byte start :: bytes (start + 1) n

/-- The offset of the first byte that differs from the pattern, where `data` starts at `offset`. -/
def firstMismatch : List UInt8 → Nat → Option Nat
  | [], _ => none
  | b :: data, offset => if b = byte offset then firstMismatch data (offset + 1) else some offset

@[simp] theorem length_bytes (start n : Nat) : (bytes start n).length = n := by
  induction n generalizing start with
  | zero => rfl
  | succ n ih => simp [bytes, ih]

theorem length_of_eq_bytes {data : List UInt8} {start n : Nat} (h : data = bytes start n) :
    data.length = n := by
  rw [h, length_bytes]

/-- The pattern repeats itself after 251 bytes, and not before. -/
theorem byte_eq_iff {m n : Nat} : byte m = byte n ↔ m % 251 = n % 251 := by
  rw [byte, byte, ← UInt8.toNat_inj, UInt8.toNat_ofNat', UInt8.toNat_ofNat']
  omega

theorem bytes_congr {i j : Nat} (h : i % 251 = j % 251) (n : Nat) : bytes i n = bytes j n := by
  induction n generalizing i j with
  | zero => rfl
  | succ n ih => rw [bytes, bytes, byte_eq_iff.2 h, ih (j := j + 1) (by omega)]

theorem bytes_add (start m n : Nat) :
    bytes start (m + n) = bytes start m ++ bytes (start + m) n := by
  induction m generalizing start with
  | zero => rw [Nat.zero_add, bytes, List.nil_append, Nat.add_zero]
  | succ m ih =>
    rw [Nat.add_right_comm, bytes, bytes, ih, List.cons_append, Nat.add_right_comm, Nat.add_assoc]

theorem getElem?_bytes (start n i : Nat) :
    (bytes start n)[i]? = if i < n then some (byte (start + i)) else none := by
  induction n generalizing start i with
  | zero => rfl
  | succ n ih =>
    cases i with
    | zero => rfl
    | succ i => simp [bytes, ih, Nat.add_assoc, Nat.add_comm 1]

/-- The search goes on at the offset behind the first part. -/
theorem firstMismatch_append (xs ys : List UInt8) (offset : Nat) :
    firstMismatch (xs ++ ys) offset =
      (firstMismatch xs offset).or (firstMismatch ys (offset + xs.length)) := by
  induction xs generalizing offset with
  | nil => rfl
  | cons b xs ih =>
    rw [List.cons_append, firstMismatch, firstMismatch]
    split
    · rw [ih, List.length_cons, Nat.add_assoc, Nat.add_comm 1]
    · rfl

theorem firstMismatch_eq_none_iff {data : List UInt8} {offset : Nat} :
    firstMismatch data offset = none ↔ data = bytes offset data.length := by
  induction data generalizing offset with
  | nil => simp [firstMismatch, bytes]
  | cons b data ih =>
    rw [firstMismatch, List.length_cons, bytes, List.cons.injEq]
    split
    · next h => rw [ih]; exact (and_iff_right h).symm
    · next h => simp [h]

/-- The offset that is found is the one of the first byte that is not the pattern's. -/
theorem firstMismatch_eq_some_iff {data : List UInt8} {offset found : Nat} :
    firstMismatch data offset = some found ↔ ∃ n, found = offset + n ∧
      data.take n = (bytes offset data.length).take n ∧
      data[n]? ≠ (bytes offset data.length)[n]? := by
  induction data generalizing offset with
  | nil => simp [firstMismatch, bytes]
  | cons b data ih =>
    rw [firstMismatch, List.length_cons, bytes]
    split
    · next hb =>
      rw [ih, hb]
      constructor
      · rintro ⟨n, rfl, htake, hdiff⟩
        exact ⟨n + 1, by omega, by simp [htake], by simpa using hdiff⟩
      · rintro ⟨n, rfl, htake, hdiff⟩
        cases n with
        | zero => simp at hdiff
        | succ n => exact ⟨n, by omega, by simpa using htake, by simpa using hdiff⟩
    · next hb =>
      constructor
      · intro hfound
        exact ⟨0, (Option.some.inj hfound).symm, rfl, by simpa using hb⟩
      · rintro ⟨n, rfl, htake, -⟩
        cases n with
        | zero => rfl
        | succ n => simp [hb] at htake

end Probe.Pattern

end OrderedEcho
