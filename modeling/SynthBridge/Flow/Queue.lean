/-!
# Bounded queues

A queue of fixed capacity that hands its items out in the order in which they came. Putting
an item into a full queue has to wait, and so has taking one from an empty queue; a queue
can be interrupted, after which taking from it never waits again but finds nothing once the
queue is empty.

Here a queue is a value and waiting is an outcome: `put?` has no result where a caller would
wait, and `take` says which of the three things happens to an interruptible caller.
-/

namespace SynthBridge

/-- A bounded first-in first-out queue. -/
structure Queue (β : Type) where
  capacity : Nat
  /-- The queued items, the oldest first. -/
  items : List β := []
  /-- Whether the queue was ever interrupted. -/
  interrupted : Bool := false
  deriving DecidableEq

namespace Queue

variable {β : Type}

/-- What an interruptible caller gets from a queue. -/
inductive Taken (β : Type)
  /-- The oldest item and the queue without it. -/
  | item (b : β) (rest : Queue β)
  /-- The queue is empty and was interrupted. -/
  | nothing
  /-- The queue is empty; the caller has to wait. -/
  | wait

/-- An empty queue, if it has room for at least one item. -/
def new? (capacity : Nat) : Option (Queue β) :=
  if capacity = 0 then none else some { capacity }

/-- What is said of a queue without room. -/
def emptyMessage : String := "queue capacity must be at least 1"

def size (q : Queue β) : Nat := q.items.length

def isEmpty (q : Queue β) : Bool := q.items.isEmpty

def isFull (q : Queue β) : Bool := decide (q.capacity ≤ q.size)

/-- Appends an item; `none` if the queue is full. -/
def put? (q : Queue β) (b : β) : Option (Queue β) :=
  if q.isFull then none else some { q with items := q.items ++ [b] }

/-- Removes the oldest item; `none` if there is none. -/
def pop? (q : Queue β) : Option (β × Queue β) :=
  match q.items with
  | [] => none
  | b :: rest => some (b, { q with items := rest })

/-- Takes the oldest item, even from an interrupted queue. -/
def take (q : Queue β) : Taken β :=
  match q.pop? with
  | some (b, rest) => .item b rest
  | none => if q.interrupted then .nothing else .wait

/-- Removes every item. -/
def drain (q : Queue β) : List β × Queue β := (q.items, { q with items := [] })

/-- Wakes whoever waits for an item and lets nobody wait for one again. -/
def interrupt (q : Queue β) : Queue β := { q with interrupted := true }

end Queue

end SynthBridge
