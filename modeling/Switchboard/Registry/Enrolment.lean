import Switchboard.Registry.Basic

/-!
# Adding mappings

Subsystems offer their mappings in lists. Each mapping is taken or turned down on its own: the
reserved identifier is never bound, and the first mapping of an action stays. The table doubles
when a mapping is added to a full one. A list may be offered with a filter on the actions; what the
filter holds back is neither taken nor turned down.
-/

namespace Switchboard

/-- What became of one mapping that was offered. -/
inductive Enrolment
  /-- The mapping was added, and the table grew if a new capacity is given. -/
  | added (grownTo : Option Nat)
  /-- The mapping is for the reserved identifier. -/
  | reserved
  /-- The action has a mapping already. -/
  | duplicate
  /-- The filter held the mapping back. -/
  | withheld
  deriving DecidableEq

/-- What became of a list of mappings. -/
structure Report where
  /-- How many mappings were added. -/
  added : Nat := 0
  /-- The actions of the mappings that were turned down, in the order of the list. -/
  rejected : List Action := []
  deriving DecidableEq

namespace Report

/-- Counts one more mapping. -/
def add (p : Report) (a : Action) : Enrolment → Report
  | .added _ => { p with added := p.added + 1 }
  | .reserved | .duplicate => { p with rejected := p.rejected ++ [a] }
  | .withheld => p

/-- The report on mappings of which each one's fate is known. -/
def ofEnrolments (es : List (Action × Enrolment)) : Report :=
  es.foldl (fun p e => p.add e.1 e.2) {}

/-- Two reports as one. -/
def append (p q : Report) : Report := ⟨p.added + q.added, p.rejected ++ q.rejected⟩

instance : Append Report := ⟨append⟩

end Report

namespace Registry

variable {H D : Type}

/-- The capacity after room for one more mapping has been made. -/
def grownTo? (r : Registry H D) : Option Nat :=
  if r.entries.length = r.capacity then some (r.capacity + max r.capacity 1) else none

/-- The registry with a mapping added at the end. -/
def push (r : Registry H D) (m : Mapping H) : Registry H D :=
  { r with
    capacity := r.grownTo?.getD r.capacity
    index := r.index.set m.action (some r.entries.length)
    entries := r.entries ++ [.ofMapping m] }

/-- Offers one mapping. -/
def enrol (r : Registry H D) (m : Mapping H) : Enrolment × Registry H D :=
  if !m.action.isReal then (.reserved, r)
  else if r.isRegistered m.action then (.duplicate, r)
  else (.added r.grownTo?, r.push m)

/-- Offers the mappings of a list in order, those held back by the filter apart, and tells what
became of each. -/
def enrolWhere (keep : Action → Bool) :
    Registry H D → List (Mapping H) → List (Action × Enrolment) × Registry H D
  | r, [] => ([], r)
  | r, m :: ms =>
    let one := if keep m.action then r.enrol m else (.withheld, r)
    let rest := enrolWhere keep one.2 ms
    ((m.action, one.1) :: rest.1, rest.2)

/-- Offers the mappings of a list in order. -/
def register (r : Registry H D) (ms : List (Mapping H)) : Report × Registry H D :=
  let (es, r) := r.enrolWhere (fun _ => true) ms
  (.ofEnrolments es, r)

end Registry

end Switchboard
