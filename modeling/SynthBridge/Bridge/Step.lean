import SynthBridge.Bridge.Closing
import SynthBridge.Bridge.Traffic

/-!
# Schedules

`Bridge.step` is the transition system of a bridge and the threads that use it: a label says who
acts, or that the system does not start a thread, and a label whose thread has to wait has no step.
A schedule is a list of labels.
-/

namespace SynthBridge

namespace Bridge

/-- Who acts, and what they begin if they have nothing under way. -/
inductive Label (α : Type)
  /-- Begin to open a session on a mixer of the given rate, or to close it. -/
  | startOpen (rate : UInt32)
  | startClose
  /-- The next step of the controller. -/
  | control
  /-- The system does not start the render thread that the controller is about to start. -/
  | refuseThread (reason : String)
  /-- The next step of the render thread. -/
  | render
  | startPull (samples : Nat)
  /-- The next step of the pull under way. -/
  | pull
  | message (bytes : List UInt8)
  | sysex (bytes : List UInt8)
  /-- The two halves of a level change. -/
  | setGain (left right : α)
  | setLevels (place : Nat)
  | startList
  /-- The next step of the listing at a place among those under way. -/
  | list (place : Nat)

variable {α σ : Type} [Amplitude α]

/-- The next step of the controller; none where it waits or has nothing to do. -/
def stepControl (E : Engine α σ) (t : FileTree) (b : Bridge α σ) : Option (Bridge α σ) :=
  match b.controller with
  | .idle => none
  | .closing s stage next => b.stepClosing s next stage
  | .opening rate stage => b.stepOpening E t rate stage

/-- Begins something that only one thread may do at a time. -/
def whenIdle (b : Bridge α σ) (f : Bridge α σ → Bridge α σ) : Option (Bridge α σ) :=
  if b.isIdle then some (f b) else none

/-- One step of the thread that the label names. -/
def step (E : Engine α σ) (t : FileTree) (b : Bridge α σ) : Label α → Option (Bridge α σ)
  | .startOpen rate => b.whenIdle (·.startClosing (some rate))
  | .startClose => b.whenIdle (·.startClosing none)
  | .control => b.stepControl E t
  | .refuseThread reason => b.refuseThread reason
  | .render => b.stepRender E
  | .startPull samples => b.startPull samples
  | .pull => b.stepPull
  | .message bytes => some (b.message E bytes)
  | .sysex bytes => some (b.sysex E bytes)
  | .setGain left right => some (b.setGain E left right)
  | .setLevels place => b.setLevels place
  | .startList => some (b.startList E)
  | .list place => b.stepList E t place

end Bridge

end SynthBridge
