import SynthBridge.Flow.Queue

/-!
# A queue with callers waiting on it

A queue together with at most one caller that waits to put an item and at most one that waits
for an item. A waiting caller finishes in the very operation that makes it possible: the one
that takes an item lets the waiting item in, and the one that brings an item, or interrupts
the queue, ends the wait for an item.

`Contention.perform` is one operation, with what its caller sees and which waiting caller it
released.
-/

namespace SynthBridge

/-- A queue and the callers that wait on it. -/
structure Contention (β : Type) where
  queue : Queue β
  /-- The item of a caller that waits for room. -/
  sender : Option β := none
  /-- Whether a caller waits for an item. -/
  receiver : Bool := false
  deriving DecidableEq

namespace Contention

variable {β : Type}

/-- The operations on a queue; the last two are those of callers that are ready to wait. -/
inductive Operation (β : Type)
  | enqueue (b : β)
  | tryEnqueue (b : β)
  | dequeue
  | dequeueInterruptible
  | tryDequeue
  | drain
  | interrupt
  | waitingEnqueue (b : β)
  | waitingDequeue

/-- What the caller of an operation sees. -/
inductive Answer (β : Type)
  | done
  /-- The item found, if any. -/
  | found (b : Option β)
  /-- The queue is full and hands the item back. -/
  | full (b : β)
  | drained (items : List β)
  /-- The caller now waits. -/
  | waiting
  /-- The operation would wait for ever and was not begun. -/
  | wouldBlock
  /-- The operation is not open to a caller at this point. -/
  | refused

/-- A waiting caller that an operation released. -/
inductive Released (β : Type)
  | sender
  /-- With the item handed to it, if any. -/
  | receiver (b : Option β)

/-- The queue after an item left it: a waiting item moves in. -/
def moveIn (c : Contention β) (q : Queue β) : Contention β × Option (Released β) :=
  match c.sender with
  | none => ({ c with queue := q }, none)
  | some b =>
    match q.put? b with
    | none => ({ c with queue := q }, none)
    | some q => ({ c with queue := q, sender := none }, some .sender)

/-- The queue after an item came: a waiting receiver takes the oldest one. -/
def deliver (c : Contention β) (q : Queue β) : Contention β × Option (Released β) :=
  if c.receiver then
    match q.pop? with
    | none => ({ c with queue := q }, none)
    | some (b, rest) => ({ c with queue := rest, receiver := false }, some (.receiver (some b)))
  else
    ({ c with queue := q }, none)

/-- Takes an item, or answers `otherwise` where there is none. -/
def taking (c : Contention β) (otherwise : Answer β) :
    Contention β × Answer β × Option (Released β) :=
  match c.queue.pop? with
  | none => (c, otherwise, none)
  | some (b, rest) =>
    let (c, released) := c.moveIn rest
    (c, .found (some b), released)

/-- Brings an item, or answers `otherwise` where there is no room. -/
def bringing (c : Contention β) (b : β) (otherwise : Answer β) :
    Contention β × Answer β × Option (Released β) :=
  match c.queue.put? b with
  | none => (c, otherwise, none)
  | some q =>
    let (c, released) := c.deliver q
    (c, .done, released)

/-- One operation: the new state, the answer, and the caller that was released. -/
def perform (c : Contention β) : Operation β → Contention β × Answer β × Option (Released β)
  | .enqueue b => c.bringing b .wouldBlock
  | .tryEnqueue b => c.bringing b (.full b)
  | .dequeue => c.taking .wouldBlock
  | .dequeueInterruptible => c.taking (if c.queue.interrupted then .found none else .wouldBlock)
  | .tryDequeue => c.taking (.found none)
  | .drain =>
    if c.sender.isSome then (c, .refused, none)
    else ({ c with queue := c.queue.drain.2 }, .drained c.queue.drain.1, none)
  | .interrupt =>
    ({ c with queue := c.queue.interrupt, receiver := false }, .done,
      if c.receiver then some (.receiver none) else none)
  | .waitingEnqueue b =>
    if c.queue.isFull && c.sender.isNone then ({ c with sender := some b }, .waiting, none)
    else (c, .refused, none)
  | .waitingDequeue =>
    if c.queue.isEmpty && !c.queue.interrupted && !c.receiver then
      ({ c with receiver := true }, .waiting, none)
    else (c, .refused, none)

end Contention

end SynthBridge
