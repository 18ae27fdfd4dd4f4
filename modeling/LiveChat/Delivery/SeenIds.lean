import Std.Data.ExtTreeSet

/-!
# Rows that were sent already

The ids of the rows that this process has handed to its viewers, so that a row is not sent twice.
The set is bounded: a fresh id that finds it full empties it first.
-/

namespace LiveChat.Delivery

structure SeenIds where
  /-- The greatest number of ids, at least one. -/
  capacity : Nat
  ids : Std.ExtTreeSet String

namespace SeenIds

def defaultCapacity : Nat := 200000

def withCapacity (capacity : Nat) : SeenIds := ⟨max capacity 1, ∅⟩

def empty : SeenIds := withCapacity defaultCapacity

def contains (seen : SeenIds) (id : String) : Bool := seen.ids.contains id

def size (seen : SeenIds) : Nat := seen.ids.size

/-- Records an id, and says whether it is fresh. -/
def insert (seen : SeenIds) (id : String) : Bool × SeenIds :=
  if seen.contains id then (false, seen)
  else
    let kept := if seen.capacity ≤ seen.size then ∅ else seen.ids
    (true, { seen with ids := kept.insert id })

end SeenIds

end LiveChat.Delivery
