/-!
# Big-endian digits

`BigEndian.digits base n v` are the lowest `n` digits of `v`, most significant first, and
`BigEndian.value` reads digits back.
-/

namespace OrderedEcho

namespace BigEndian

/-- The lowest `n` digits of `v`, most significant first. -/
def digits (base : Nat) : Nat → Nat → List Nat
  | 0, _ => []
  | n + 1, v => digits base n (v / base) ++ [v % base]

/-- The number that the digits spell. -/
def value (base : Nat) (ds : List Nat) : Nat :=
  ds.foldl (fun acc d => acc * base + d) 0

@[simp] theorem length_digits (base n v : Nat) : (digits base n v).length = n := by
  induction n generalizing v with
  | zero => rfl
  | succ n ih => simp [digits, ih]

theorem lt_of_mem_digits {base n v d : Nat} (hb : 0 < base) (h : d ∈ digits base n v) :
    d < base := by
  induction n generalizing v with
  | zero => simp [digits] at h
  | succ n ih =>
    rcases List.mem_append.1 h with h | h
    · exact ih h
    · rw [List.mem_singleton] at h
      exact h ▸ Nat.mod_lt v hb

theorem value_append_singleton (base : Nat) (ds : List Nat) (d : Nat) :
    value base (ds ++ [d]) = value base ds * base + d := by
  simp [value]

end BigEndian

end OrderedEcho
