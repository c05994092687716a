import SynthBridge.Flow.Contention

/-!
# A queue that many use

A queue with all who are in the middle of using it, each on a thread of its own. Appending an
item, taking the oldest one and interrupting the queue are done at once; whoever waits until an
item comes or the queue is interrupted, and whoever empties the queue, takes several such steps,
and others may come between them.

`Caller.step` is one step of a caller. It has no result while the caller has to wait.
`Throng.step` lets somebody begin with an operation or lets one of the callers go on.
-/

namespace SynthBridge

/-- What a caller of a queue does next. -/
inductive Caller (β : Type)
  /-- Append an item as soon as there is room. -/
  | put (b : β)
  /-- Append an item if there is room. -/
  | tryPut (b : β)
  /-- Take the oldest item as soon as there is one. -/
  | get
  /-- Take the oldest item if there is one. -/
  | tryGet
  /-- Take the oldest item if there is one, and otherwise wait. -/
  | look
  /-- Wait for an item or for an interruption. -/
  | wait
  /-- Take an item that has come together with the interruption. -/
  | lookAgain
  /-- Take one item after the other until there is none. -/
  | drain (taken : List β)
  | interrupt
  deriving DecidableEq

namespace Caller

variable {β : Type}

/-- What a step has brought a caller. -/
inductive Outcome (β : Type)
  /-- The caller has something else to do. -/
  | goesOn (c : Caller β)
  /-- It has taken an item and goes on. -/
  | took (b : β) (c : Caller β)
  /-- Its operation is over. -/
  | answered (a : Contention.Answer β)

/-- The caller after the step, if it is still there. -/
def Outcome.caller? : Outcome β → Option (Caller β)
  | .goesOn c | .took _ c => some c
  | .answered _ => none

/-- An item that was found is the answer. -/
def Outcome.found (b : β) : Outcome β := .answered (.found (some b))

/-- Tries to take the oldest item. -/
def attempt (q : Queue β) (got : β → Outcome β) (missed : Outcome β) : Queue β × Outcome β :=
  match q.pop? with
  | some (b, rest) => (rest, got b)
  | none => (q, missed)

/-- One step of a caller. Where an item and the interruption have both come, a waiting caller
may `heed` either. -/
def step (c : Caller β) (q : Queue β) (heed : Bool) : Option (Queue β × Outcome β) :=
  match c with
  | .put b => (q.put? b).map fun q => (q, .answered .done)
  | .tryPut b =>
    match q.put? b with
    | some q => some (q, .answered .done)
    | none => some (q, .answered (.full b))
  | .get => q.pop?.map fun (b, rest) => (rest, .found b)
  | .tryGet => some (attempt q .found (.answered (.found none)))
  | .look => some (attempt q .found (.goesOn .wait))
  | .wait =>
    if heed then if q.interrupted then some (q, .goesOn .lookAgain) else none
    else q.pop?.map fun (b, rest) => (rest, .found b)
  | .lookAgain => some (attempt q .found (.answered (.found none)))
  | .drain taken =>
    some (attempt q (fun b => .took b (.drain (taken ++ [b]))) (.answered (.drained taken)))
  | .interrupt => some (q.interrupt, .answered .done)

end Caller

/-- Who begins with an operation. -/
def Contention.Operation.caller {β : Type} : Contention.Operation β → Caller β
  | .enqueue b | .waitingEnqueue b => .put b
  | .tryEnqueue b => .tryPut b
  | .dequeue => .get
  | .tryDequeue => .tryGet
  | .dequeueInterruptible | .waitingDequeue => .look
  | .drain => .drain []
  | .interrupt => .interrupt

/-- A queue and its callers, who came in this order. -/
structure Throng (β : Type) where
  queue : Queue β
  callers : List (Caller β) := []
  deriving DecidableEq

namespace Throng

variable {β : Type}

/-- Somebody begins with an operation, or the caller in some place goes on. -/
inductive Label (β : Type)
  | call (op : Contention.Operation β)
  | go (place : Nat) (heed : Bool)

def step (t : Throng β) : Label β → Option (Throng β)
  | .call op => some { t with callers := t.callers ++ [op.caller] }
  | .go place heed =>
    t.callers[place]?.bind fun c =>
      (c.step t.queue heed).map fun (queue, outcome) =>
        { queue
          callers :=
            t.callers.take place ++ outcome.caller?.toList ++ t.callers.drop (place + 1) }

end Throng

end SynthBridge
