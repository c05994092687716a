import SynthBridge.Flow.Queue

/-!
# The buffer pipeline

The state that rendering and playback share. A fixed number of buffers circulates between two
queues: `backstock` carries spent buffers back to the renderer, `playable` carries rendered
ones to playback. Beside the queues there are the flag that keeps the renderer going and the
published position of playback.

`Sizes.check` is the test that the sizes of a pipeline have to pass, and `Pipeline.stop` asks
the renderer to leave and wakes a waiting player.
-/

namespace SynthBridge

/-! ## Sizes -/

/-- The sizes of a pipeline: one buffer plays while another is rendered, and none is empty. -/
structure Sizes where
  /-- Frames per buffer, which is one render quantum. -/
  frames : Nat
  /-- Buffers in circulation, and the capacity of either queue. -/
  capacity : Nat
  two_le_capacity : 2 ≤ capacity
  frames_pos : 0 < frames
  deriving DecidableEq

/-- Why a pair of sizes is no pipeline. -/
inductive SizeFault
  | tooFewBuffers
  | emptyQuantum
  deriving DecidableEq, Repr

def SizeFault.message : SizeFault → String
  | .tooFewBuffers => "pipeline needs at least two buffers"
  | .emptyQuantum => "render quantum must not be empty"

namespace Sizes

/-- The sizes in use when nothing else is asked for: four buffers of 1024 frames. -/
def standard : Sizes := ⟨1024, 4, by decide, by decide⟩

/-- Tests the number of buffers first. -/
def check (frames capacity : Nat) : Except SizeFault Sizes :=
  if h : 2 ≤ capacity then
    if h' : 0 < frames then .ok ⟨frames, capacity, h, h'⟩ else .error .emptyQuantum
  else .error .tooFewBuffers

end Sizes

/-! ## Buffers -/

/-- One render quantum of interleaved stereo samples. The tag names the piece of storage, so
that a buffer can be followed on its way round. -/
structure Buffer where
  tag : Nat
  samples : List Int16
  deriving DecidableEq

/-! ## The shared state -/

/-- The two queues, the flag and the position of playback. -/
structure Pipeline where
  sizes : Sizes
  /-- Spent buffers that wait to be rendered into. -/
  backstock : Queue Buffer
  /-- Rendered buffers that wait to be played. -/
  playable : Queue Buffer
  /-- Cleared to ask the renderer to leave. -/
  rendering : Bool := true
  /-- Frames handed to the mixer so far. -/
  played : UInt64 := 0
  /-- Buffers made so far. -/
  made : Nat := 0

namespace Pipeline

def new (sizes : Sizes) : Pipeline where
  sizes := sizes
  backstock := { capacity := sizes.capacity }
  playable := { capacity := sizes.capacity }

def frames (p : Pipeline) : Nat := p.sizes.frames

def capacity (p : Pipeline) : Nat := p.sizes.capacity

/-- A new silent buffer. -/
def newBuffer (p : Pipeline) : Buffer × Pipeline :=
  (⟨p.made, List.replicate (2 * p.frames) 0⟩, { p with made := p.made + 1 })

/-- Asks the renderer to leave after its present quantum. -/
def clearFlag (p : Pipeline) : Pipeline := { p with rendering := false }

/-- Wakes a player that waits for a buffer, now and later. -/
def wake (p : Pipeline) : Pipeline := { p with playable := p.playable.interrupt }

/-- Ends rendering, and with it every wait for a rendered buffer. -/
def stop (p : Pipeline) : Pipeline := p.clearFlag.wake

/-- Empties both queues and counts what they held. -/
def reclaim (p : Pipeline) : Nat × Pipeline :=
  (p.backstock.size + p.playable.size,
    { p with backstock := p.backstock.drain.2, playable := p.playable.drain.2 })

end Pipeline

end SynthBridge
