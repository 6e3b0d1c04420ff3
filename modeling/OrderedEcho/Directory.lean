import OrderedEcho.Ascending
import OrderedEcho.Endpoint

/-!
# The directory of endpoints

A `Directory` hands out endpoint ids, each of them once, and lists the endpoints that are registered
at the moment.
-/

namespace OrderedEcho

/-- The registered endpoints, and the ids that are left. -/
structure Directory where
  /-- The id that is handed out next. -/
  nextId : EndpointId := 0
  /-- The registered endpoints. -/
  members : Ascending EndpointInfo EndpointInfo.id := .empty

namespace Directory

/-- Hands out an id. -/
def takeId (d : Directory) : EndpointId × Directory :=
  (d.nextId, { d with nextId := d.nextId + 1 })

/-- Registers an endpoint, instead of one with the same id. -/
def insert (d : Directory) (info : EndpointInfo) : Directory :=
  { d with members := d.members.insert info }

/-- The registered endpoint with that id. -/
def get? (d : Directory) (id : EndpointId) : Option EndpointInfo :=
  d.members.toList.find? fun info => info.id == id

/-- An endpoint with that id is registered. -/
def contains (d : Directory) (id : EndpointId) : Bool := (d.get? id).isSome

/-- Ends the registration of an endpoint. -/
def erase (d : Directory) (id : EndpointId) : Directory :=
  { d with members := d.members.filter fun info => info.id != id }

/-- The registered ids, in ascending order. -/
def ids (d : Directory) : List EndpointId := d.members.toList.map EndpointInfo.id

/-- The number of registered endpoints. -/
def size (d : Directory) : Nat := d.members.toList.length

theorem contains_iff {d : Directory} {id : EndpointId} : d.contains id ↔ id ∈ d.ids := by
  simp [contains, get?, ids]

theorem mem_ids_erase {d : Directory} {i j : EndpointId} :
    i ∈ (d.erase j).ids ↔ i ∈ d.ids ∧ i ≠ j := by
  simp only [ids, erase, Ascending.toList_filter, List.mem_map, List.mem_filter, bne_iff_ne, ne_eq]
  constructor
  · rintro ⟨info, ⟨hm, hne⟩, rfl⟩
    exact ⟨⟨info, hm, rfl⟩, hne⟩
  · rintro ⟨⟨info, hm, rfl⟩, hne⟩
    exact ⟨info, ⟨hm, hne⟩, rfl⟩

theorem mem_ids_insert {d : Directory} {info : EndpointInfo} {i : EndpointId} :
    i ∈ (d.insert info).ids ↔ i = info.id ∨ i ∈ d.ids := by
  simp only [ids, insert, List.mem_map, Ascending.mem_insert]
  constructor
  · rintro ⟨b, rfl | ⟨hb, -⟩, rfl⟩
    · exact .inl rfl
    · exact .inr ⟨b, hb, rfl⟩
  · rintro (rfl | ⟨b, hb, rfl⟩)
    · exact ⟨info, .inl rfl, rfl⟩
    · by_cases hk : b.id = info.id
      · exact ⟨info, .inl rfl, hk.symm⟩
      · exact ⟨b, .inr ⟨hb, hk⟩, rfl⟩

end Directory

end OrderedEcho
