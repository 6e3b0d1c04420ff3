/-!
# Ascending lists

An `Ascending` list keeps its elements in the order of their keys, and no two of them share one.
The view is `toList`: each operation says what it does to that list (`mem_insert`,
`toList_insert_perm`, `toList_filter`, `uncons?_eq_some_iff`).
-/

namespace OrderedEcho

/-- A list whose keys grow strictly. -/
@[ext] structure Ascending (α : Type) (key : α → Nat) where
  toList : List α
  pairwise : toList.Pairwise fun a b => key a < key b

namespace Ascending

variable {α : Type} {key : α → Nat}

/-- The list without elements. -/
def empty : Ascending α key := ⟨[], .nil⟩

@[simp] theorem toList_empty : (empty : Ascending α key).toList = [] := rfl

theorem nodup_toList (s : Ascending α key) : s.toList.Nodup :=
  s.pairwise.imp fun h he => Nat.ne_of_lt h (congrArg key he)

/-! ## Insertion -/

/-- Puts `a` at its place in the order of keys, instead of an element with the same key. -/
def insertList (key : α → Nat) (a : α) : List α → List α
  | [] => [a]
  | b :: l =>
    if key a < key b then a :: b :: l
    else if key a = key b then a :: l
    else b :: insertList key a l

theorem mem_insertList {a c : α} {l : List α} (h : l.Pairwise fun a b => key a < key b) :
    c ∈ insertList key a l ↔ c = a ∨ c ∈ l ∧ key c ≠ key a := by
  induction l with
  | nil => simp [insertList]
  | cons b l ih =>
    obtain ⟨hb, hl⟩ := List.pairwise_cons.1 h
    have hne : key a ≤ key b → ∀ d ∈ l, key d ≠ key a := fun hab d hd => by
      have := hb d hd
      omega
    unfold insertList
    split
    · next hlt =>
      have hall : ∀ d ∈ b :: l, key d ≠ key a := by
        intro d hd
        rcases List.mem_cons.1 hd with rfl | hd
        · omega
        · exact hne (by omega) d hd
      rw [List.mem_cons]
      exact or_congr_right ⟨fun hc => ⟨hc, hall c hc⟩, And.left⟩
    · split
      · next heq =>
        rw [List.mem_cons, List.mem_cons]
        refine or_congr_right ⟨fun hc => ⟨.inr hc, hne (by omega) c hc⟩, ?_⟩
        rintro ⟨rfl | hc, hk⟩
        · exact absurd heq.symm hk
        · exact hc
      · next hk =>
        rw [List.mem_cons, List.mem_cons, ih hl]
        constructor
        · rintro (rfl | rfl | hc)
          · exact .inr ⟨.inl rfl, Ne.symm hk⟩
          · exact .inl rfl
          · exact .inr ⟨.inr hc.1, hc.2⟩
        · rintro (rfl | ⟨rfl | hc, hk⟩)
          · exact .inr (.inl rfl)
          · exact .inl rfl
          · exact .inr (.inr ⟨hc, hk⟩)

theorem pairwise_insertList {a : α} {l : List α} (h : l.Pairwise fun a b => key a < key b) :
    (insertList key a l).Pairwise fun a b => key a < key b := by
  induction l with
  | nil => exact List.pairwise_singleton _ _
  | cons b l ih =>
    obtain ⟨hb, hl⟩ := List.pairwise_cons.1 h
    unfold insertList
    split
    · next hlt =>
      refine List.pairwise_cons.2 ⟨fun c hc => ?_, h⟩
      rcases List.mem_cons.1 hc with rfl | hc
      · exact hlt
      · exact Nat.lt_trans hlt (hb c hc)
    · split
      · next heq => exact List.pairwise_cons.2 ⟨fun c hc => heq ▸ hb c hc, hl⟩
      · next hlt hne =>
        refine List.pairwise_cons.2 ⟨fun c hc => ?_, ih hl⟩
        rcases (mem_insertList hl).1 hc with rfl | hc
        · omega
        · exact hb c hc.1

/-- An element with a new key comes in addition to the others. -/
theorem insertList_perm {a : α} {l : List α} (h : ∀ b ∈ l, key b ≠ key a) :
    (insertList key a l).Perm (a :: l) := by
  induction l with
  | nil => exact .refl _
  | cons b l ih =>
    unfold insertList
    split
    · exact .refl _
    · rw [if_neg (Ne.symm (h b List.mem_cons_self))]
      exact ((ih fun c hc => h c (List.mem_cons_of_mem _ hc)).cons b).trans (.swap a b l)

/-- The list with `a`, which takes the place of an element with the same key. -/
def insert (s : Ascending α key) (a : α) : Ascending α key :=
  ⟨insertList key a s.toList, pairwise_insertList s.pairwise⟩

theorem mem_insert {s : Ascending α key} {a c : α} :
    c ∈ (s.insert a).toList ↔ c = a ∨ c ∈ s.toList ∧ key c ≠ key a :=
  mem_insertList s.pairwise

theorem toList_insert_perm {s : Ascending α key} {a : α} (h : ∀ b ∈ s.toList, key b ≠ key a) :
    (s.insert a).toList.Perm (a :: s.toList) := insertList_perm h

/-! ## Removal -/

/-- The elements for which `p` holds. -/
def filter (s : Ascending α key) (p : α → Bool) : Ascending α key :=
  ⟨s.toList.filter p, s.pairwise.filter p⟩

@[simp] theorem toList_filter (s : Ascending α key) (p : α → Bool) :
    (s.filter p).toList = s.toList.filter p := rfl

/-- The first element and the others. -/
def uncons? (s : Ascending α key) : Option (α × Ascending α key) :=
  match s with
  | ⟨[], _⟩ => none
  | ⟨a :: l, h⟩ => some (a, ⟨l, (List.pairwise_cons.1 h).2⟩)

theorem uncons?_eq_none_iff {s : Ascending α key} : s.uncons? = none ↔ s.toList = [] := by
  obtain ⟨_ | ⟨a, l⟩, h⟩ := s <;> simp [uncons?]

theorem uncons?_eq_some_iff {s t : Ascending α key} {a : α} :
    s.uncons? = some (a, t) ↔ s.toList = a :: t.toList := by
  obtain ⟨_ | ⟨b, l⟩, h⟩ := s <;> simp [uncons?, Ascending.ext_iff]

end Ascending

end OrderedEcho
