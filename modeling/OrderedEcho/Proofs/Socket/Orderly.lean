import OrderedEcho.Proofs.Socket.History

/-!
# Orderly sockets

A socket is `Orderly` if nothing but a further close was asked of it after it was closed.  That is
kept by every post on an open socket (`Orderly.took`, `Orderly.refused`) and by closing, so an
endpoint keeps its socket orderly as long as it posts on open sockets only.
-/

namespace OrderedEcho

namespace Socket

variable {s s' : Socket} {kind : OperationKind} {op : Operation} {e : IoError}

/-- Nothing but a further close was asked of the socket after it was closed. -/
structure Orderly (s : Socket) : Prop where
  closed_iff : s.closed ↔ .close ∈ s.history
  last : s.history.Pairwise fun a b => a = .close → b = .close

theorem Orderly.congr (h : s.Orderly) (hc : s'.closed = s.closed)
    (hh : s'.history = s.history) : s'.Orderly := by
  refine ⟨?_, ?_⟩
  · rw [hc, hh]
    exact h.closed_iff
  · rw [hh]
    exact h.last

theorem orderly_of_history_eq_nil (hc : s.closed = false) (hh : s.history = []) : s.Orderly := by
  refine ⟨?_, ?_⟩
  · rw [hc, hh]
    simp
  · rw [hh]
    exact .nil

theorem Orderly.closed_eq_false (h : s.Orderly) (hh : s.history = []) : s.closed = false := by
  rw [Bool.eq_false_iff, Ne, h.closed_iff, hh]
  exact List.not_mem_nil

/-- A post on an open socket comes after no close. -/
theorem Orderly.post (h : s.Orderly) (ho : s.closed = false) (hc : s'.closed = s.closed)
    {r : Option IoError} (hh : s'.history = s.history ++ [.post kind op r]) : s'.Orderly := by
  have hn : .close ∉ s.history := by
    intro hm
    rw [h.closed_iff.2 hm] at ho
    cases ho
  refine ⟨?_, ?_⟩
  · rw [hc, hh, h.closed_iff]
    simp
  · rw [hh, List.pairwise_append]
    exact ⟨h.last, List.pairwise_singleton _ _, fun a ha _ _ he => absurd (he ▸ ha) hn⟩

theorem Orderly.took (h : s.Orderly) (hp : s.Took kind op s') : s'.Orderly :=
  h.post hp.opened hp.closed hp.history

theorem Orderly.refused (h : s.Orderly) (ho : s.closed = false) (hp : s.Refused kind op e s') :
    s'.Orderly := h.post ho hp.closed hp.history

theorem Orderly.close (h : s.Orderly) : s.close.Orderly := by
  have hh : s.close.history = s.history ++ [.close] := rfl
  refine ⟨?_, ?_⟩
  · rw [hh]
    exact iff_of_true rfl (List.mem_append_right _ List.mem_cons_self)
  · rw [hh, List.pairwise_append]
    exact ⟨h.last, List.pairwise_singleton _ _, fun _ _ b hb _ => List.mem_singleton.1 hb⟩

/-- After a close nothing comes but closes. -/
theorem Orderly.eq_close (h : s.Orderly) {before after : List SocketEvent}
    (hh : s.history = before ++ .close :: after) {x : SocketEvent} (hx : x ∈ after) :
    x = .close := by
  have hl := h.last
  rw [hh, List.pairwise_append, List.pairwise_cons] at hl
  exact hl.2.1.1 x hx rfl

/-- A socket that was closed has only been closed again since. -/
theorem Orderly.closes (h : s'.Orderly) (hc : .close ∈ s.history)
    (hp : s.history <+: s'.history) :
    ∃ n, s'.history = s.history ++ List.replicate n .close := by
  obtain ⟨rest, hrest⟩ := hp
  obtain ⟨before, after, hh⟩ := List.append_of_mem hc
  have hall : ∀ x ∈ rest, x = .close := by
    intro x hx
    have hsplit : s'.history = before ++ .close :: (after ++ rest) := by
      rw [← hrest, hh, List.append_assoc, List.cons_append]
    exact h.eq_close hsplit (List.mem_append_right _ hx)
  exact ⟨rest.length, by rw [← List.eq_replicate_of_mem hall, hrest]⟩

/-- Closing takes no operation. -/
theorem taken_closes {n : Nat} (h : s'.history = s.history ++ List.replicate n .close) :
    s'.taken = s.taken := by
  have hn : (List.replicate n SocketEvent.close).countP SocketEvent.isTaken = 0 := by
    rw [List.countP_replicate]
    rfl
  unfold taken
  rw [h, List.countP_append, hn, Nat.add_zero]

end Socket

end OrderedEcho
