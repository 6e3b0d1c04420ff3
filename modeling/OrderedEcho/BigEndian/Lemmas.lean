import Mathlib.Algebra.Group.Nat.Defs
import Mathlib.Data.List.Induction
import Mathlib.Data.Nat.ModEq
import OrderedEcho.BigEndian

/-!
# Reading big-endian digits back

`BigEndian.value_digits`: reading the digits of a number gives the number, reduced to what so many
digits can hold.  `BigEndian.digits_value`: the number that some digits spell has these digits.
`BigEndian.value_modEq_iff`: what a change of one digit does to the number, up to multiples of
something prime to the base.
-/

namespace OrderedEcho

namespace BigEndian

theorem value_digits (base n v : Nat) : value base (digits base n v) = v % base ^ n := by
  induction n generalizing v with
  | zero => simp [digits, value, Nat.mod_one]
  | succ n ih =>
    rw [digits, value_append_singleton, ih, Nat.pow_succ, Nat.mul_comm (base ^ n), Nat.mod_mul,
      Nat.mul_comm, Nat.add_comm]

theorem digits_value {base : Nat} {ds : List Nat} (h : ∀ d ∈ ds, d < base) :
    digits base ds.length (value base ds) = ds := by
  induction ds using List.reverseRecOn with
  | nil => rfl
  | append_singleton ds d ih =>
    have hd : d < base := h d (by simp)
    have hdiv : (value base ds * base + d) / base = value base ds := by
      rw [Nat.add_comm, Nat.add_mul_div_right d _ (by omega), Nat.div_eq_of_lt hd, Nat.zero_add]
    have hmod : (value base ds * base + d) % base = d := by
      rw [Nat.add_comm, Nat.add_mul_mod_self_right, Nat.mod_eq_of_lt hd]
    rw [value_append_singleton, List.length_append, List.length_singleton, digits, hdiv, hmod,
      ih fun c hc => h c (List.mem_append_left _ hc)]

theorem value_append (base : Nat) (xs ys : List Nat) :
    value base (xs ++ ys) = value base xs * base ^ ys.length + value base ys := by
  induction ys using List.reverseRecOn with
  | nil => simp [value]
  | append_singleton ys d ih =>
    rw [← List.append_assoc, value_append_singleton, value_append_singleton, ih,
      List.length_append, List.length_singleton, Nat.pow_succ, Nat.add_mul, Nat.mul_assoc,
      Nat.add_assoc]

/-- Two numbers that differ in one digit are congruent only if these digits are. -/
theorem value_modEq_iff {base n old new : Nat} (hn : n.gcd base = 1) {xs ys : List Nat} :
    value base (xs ++ old :: ys) ≡ value base (xs ++ new :: ys) [MOD n] ↔ old ≡ new [MOD n] := by
  have hcons (d : Nat) : value base (xs ++ d :: ys) =
      value base xs * base ^ (ys.length + 1) + (d * base ^ ys.length + value base ys) := by
    have hd : value base [d] = d := by simp [value]
    rw [value_append, ← List.singleton_append (l := ys), value_append, hd, List.length_append,
      List.length_singleton, Nat.add_comm 1]
  rw [hcons, hcons]
  constructor
  · intro h
    have h := (Nat.ModEq.add_left_cancel' _ h).add_right_cancel' _
    exact h.cancel_right_of_coprime (Nat.Coprime.pow_right _ hn)
  · intro h
    exact ((h.mul_right _).add_right _).add_left _

end BigEndian

end OrderedEcho
