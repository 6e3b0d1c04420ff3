import OrderedEcho.Resequencer

/-!
# Requests to a resequencer

A resequencer with counters of 64 bits, as its users meet it: they make requests, and each request
gets an answer (`ask`).  A counter that cannot step on ends the request with `Answer.overflow`.
-/

namespace OrderedEcho

variable {α : Type}

namespace Resequencer

/-- What can be asked of a resequencer. -/
inductive Request (α : Type)
  | assign
  | insert (s : Slot) (e : Entry α)
  | release
  | discard

/-- What a resequencer answers. -/
inductive Answer (α : Type)
  | assigned (s : Slot)
  | accepted
  | rejected (e : Entry α)
  | released (w : Slot × Entry α)
  | nothing
  | discarded (given : List α)
  | overflow

/-- Hands out the next slot, if the counter can step over it. -/
def handOut (r : Resequencer α) : Answer α × Resequencer α :=
  match r.assign? with
  | some (s, r) => (.assigned s, r)
  | none => (.overflow, r)

/-- Puts an entry at its slot, or hands it back. -/
def offer (r : Resequencer α) (s : Slot) (e : Entry α) : Answer α × Resequencer α :=
  match r.insert s e with
  | .ok r => (.accepted, r)
  | .error e => (.rejected e, r)

/-- Lets the first waiting entry go, if its slot is next.  The entry leaves before the counter steps
on, so an overflow would lose it. -/
def letGo (r : Resequencer α) : Answer α × Resequencer α :=
  match r.waiting.uncons? with
  | none => (.nothing, r)
  | some ((s, e), waiting) =>
    if s = r.nextSend then
      match s.next? with
      | some nextSend => (.released (s, e), { r with nextSend, waiting })
      | none => (.overflow, { r with waiting })
    else (.nothing, r)

/-- The answer to a request, and the state after it. -/
def ask (r : Resequencer α) : Request α → Answer α × Resequencer α
  | .assign => r.handOut
  | .insert s e => r.offer s e
  | .release => r.letGo
  | .discard => let (given, r) := r.discard; (.discarded given, r)

end Resequencer

end OrderedEcho
