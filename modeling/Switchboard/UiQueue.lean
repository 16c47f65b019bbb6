/-!
# The queue to the UI thread

Invocations for the UI thread wait in a queue, first in, first out, until the UI thread takes them
out. Senders put them in. Once the receiving end is gone nothing is kept: what waited is discarded,
and a sender gets back what it wanted to put in.
-/

namespace Switchboard

/-- A queue of invocations, which are left open here. -/
structure UiQueue (I : Type) where
  /-- What waits, the oldest first. -/
  waiting : List I := []
  /-- The receiving end is there. -/
  receiving : Bool := true
  /-- The first sender is still held by the one who made the queue. -/
  senderHeld : Bool := true

namespace UiQueue

variable {I : Type}

/-- The number of invocations that wait. -/
def pending (q : UiQueue I) : Nat := q.waiting.length

/-- Puts an invocation in, or gives nothing if no one will take it out. -/
def send? (q : UiQueue I) (i : I) : Option (UiQueue I) :=
  if q.receiving then some { q with waiting := q.waiting ++ [i] } else none

/-- Takes out the invocation that has waited longest. -/
def receive? (q : UiQueue I) : Option (I × UiQueue I) :=
  match q.waiting with
  | [] => none
  | i :: rest => some (i, { q with waiting := rest })

/-- The queue without its receiving end; what waited is discarded. -/
def dropReceiver (q : UiQueue I) : UiQueue I := { q with receiving := false, waiting := [] }

/-- The queue without the sender of its maker. -/
def dropSender (q : UiQueue I) : UiQueue I := { q with senderHeld := false }

end UiQueue

end Switchboard
