import OrderedEcho.Endpoint

/-!
# Visiting orders

The registered and the starved endpoints are kept in sets, so nothing says in which order all of
them are visited.  A `VisitingOrder` makes that choice.  What visits endpoints takes one, and what
is said for every `VisitingOrder` is said for every order in which they may come
(`VisitingOrder.exists_arrange_eq`).
-/

namespace OrderedEcho

/-- An order for each set of endpoints. -/
structure VisitingOrder where
  /-- The endpoints in the order in which they are visited. -/
  arrange : List EndpointId → List EndpointId
  arrange_perm : ∀ ids, (arrange ids).Perm ids

namespace VisitingOrder

/-- Endpoints come as they are listed. -/
def listed : VisitingOrder := ⟨id, .refl⟩

/-- The endpoint that is listed last comes first. -/
def reversed : VisitingOrder := ⟨List.reverse, List.reverse_perm⟩

/-- Every endpoint is visited, and no other. -/
@[simp] theorem mem_arrange {order : VisitingOrder} {ids : List EndpointId} {id : EndpointId} :
    id ∈ order.arrange ids ↔ id ∈ ids := (order.arrange_perm ids).mem_iff

/-- There is a visiting order for every way to arrange the endpoints. -/
theorem exists_arrange_eq {ids ids' : List EndpointId} (h : ids'.Perm ids) :
    ∃ order : VisitingOrder, order.arrange ids = ids' := by
  refine ⟨⟨fun l => if l = ids then ids' else l, fun l => ?_⟩, if_pos rfl⟩
  split
  · next hl => exact hl ▸ h
  · exact .refl l

end VisitingOrder

end OrderedEcho
