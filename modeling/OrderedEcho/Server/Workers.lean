import OrderedEcho.Server.Completed

/-!
# Workers

Workers take completions out of an inbox and let the server handle them.  Here the completions are
handled one after the other, as they came, and of the workers it only matters whether there are any.
-/

namespace OrderedEcho

/-- Workers that wait for completions. -/
structure Workers where
  count : Nat

namespace Workers

/-- Sends all workers home. -/
def stop (_ : Workers) : Workers := ⟨0⟩

/-- The workers empty the inbox, and say how many completions they handled.  After the completion at
position `i` the starved endpoints come in the order `orders i`. -/
def work (w : Workers) (orders : Nat → VisitingOrder) (b : Inbox) (s : Server) :
    Nat × Inbox × Server :=
  if w.count = 0 then (0, b, s)
  else (b.waiting.length, { b with waiting := [] },
    b.waiting.zipIdx.foldl (fun s (c, i) => s.handle c (orders i)) s)

end Workers

end OrderedEcho
