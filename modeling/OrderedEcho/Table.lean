/-!
# Tables

A table has a value for every number, and all but finitely many of them are the table's blank.
`Table.get` is the view: two equations, `get_set_self` and `get_set_of_ne`, say all there is to say
about `Table.set`.
-/

namespace OrderedEcho

/-- Values by number, with a blank wherever none was set. -/
structure Table (α : Type) where
  blank : α
  entries : List (Nat × α) := []

namespace Table

variable {α : Type}

def get (t : Table α) (i : Nat) : α :=
  match t.entries.find? fun e => e.1 == i with
  | some e => e.2
  | none => t.blank

/-- The table with the value `a` at `i`. -/
def set (t : Table α) (i : Nat) (a : α) : Table α :=
  { t with entries := (i, a) :: t.entries.filter fun e => e.1 != i }

@[simp] theorem get_set_self (t : Table α) (i : Nat) (a : α) : (t.set i a).get i = a := by
  simp [get, set]

theorem find?_filter_ne (l : List (Nat × α)) {i j : Nat} (h : i ≠ j) :
    (l.filter fun e => e.1 != i).find? (fun e => e.1 == j) = l.find? fun e => e.1 == j := by
  rw [List.find?_filter]
  congr 1
  funext e
  by_cases hj : e.1 = j <;> simp [hj, h.symm]

theorem get_set_of_ne (t : Table α) {i j : Nat} (a : α) (h : i ≠ j) :
    (t.set i a).get j = t.get j := by
  simp [get, set, h, find?_filter_ne _ h]

theorem get_set (t : Table α) (i j : Nat) (a : α) :
    (t.set i a).get j = if i = j then a else t.get j := by
  split
  · next h => rw [h, get_set_self]
  · next h => exact get_set_of_ne t a h

@[simp] theorem get_blank (a : α) (i : Nat) : get { blank := a } i = a := rfl

end Table

end OrderedEcho
