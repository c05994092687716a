import SynthBridge.Flow.Player

/-!
# Taking a session apart

The steps in which a session's buffers are recovered while the renderer and the mixer may
still be at work: rendering is stopped, the player is taken out of the mixer's reach, its
buffer goes to the renderer if that one may be waiting for it, the playable queue is emptied
buffer by buffer so that the renderer cannot wait on it, the renderer is awaited, and what then
lies in the queues is counted.

`Teardown.advance` is one step. It has no result where the step has to wait: for a pull that
is under way, for room in backstock, or for the renderer.
-/

namespace SynthBridge

/-- The next step of taking a session apart. -/
inductive Teardown
  | clearFlag
  | wake
  | takePlayer
  /-- Look whether the renderer may be waiting for a buffer. -/
  | inspect (player : Option Player)
  /-- Hand it `buffer`, the player's own. -/
  | handOver (buffer : Buffer)
  /-- Take the rendered buffers out, one after the other, until there are none. -/
  | drain (recovered : Nat)
  /-- Wait for the renderer to leave. -/
  | await (recovered : Nat) (played : UInt64)
  | reclaim (recovered : Nat) (played : UInt64)
  | finished (recovered : Nat) (played : UInt64)
  deriving DecidableEq

namespace Teardown

/-- One step, in a session whose player slot is `slot` and whose renderer has left or not. -/
def advance (t : Teardown) (p : Pipeline) (slot : Option Player) (rendererGone : Bool) :
    Option (Teardown × Pipeline × Option Player) :=
  match t with
  | .clearFlag => some (.wake, p.clearFlag, slot)
  | .wake => some (.takePlayer, p.wake, slot)
  | .takePlayer => if slot.all Player.isFree then some (.inspect slot, p, none) else none
  | .inspect player =>
    match player.bind Player.current with
    | some buffer =>
      if p.backstock.isEmpty then some (.handOver buffer, p, slot) else some (.drain 1, p, slot)
    | none => some (.drain 0, p, slot)
  | .handOver buffer =>
    (p.backstock.put? buffer).map fun q => (.drain 0, { p with backstock := q }, slot)
  | .drain recovered =>
    match p.playable.pop? with
    | some (_, rest) => some (.drain (recovered + 1), { p with playable := rest }, slot)
    | none => some (.await recovered p.played, p, slot)
  | .await recovered played =>
    if rendererGone then some (.reclaim recovered played, p, slot) else none
  | .reclaim recovered played =>
    some (.finished (recovered + p.reclaim.1) played, p.reclaim.2, slot)
  | .finished .. => none

end Teardown

end SynthBridge
