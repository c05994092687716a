import SynthBridge.Flow.Pipeline
import SynthBridge.Log

/-!
# The renderer

The thread that keeps the playable queue full. At start it makes all buffers but the one that
playback begins with. Then each pass renders one quantum, takes an idle buffer, limits the
quantum into it and queues it for playback. The flag is read once per pass, so a quantum
in progress is always finished; only an interrupted backstock ends a pass in the middle.

`Renderer.advance` is one step. It has no result where the renderer has to wait and once it
has left.
-/

namespace SynthBridge

open Amplitude

/-- Something that renders audio. -/
structure Source (α σ : Type) where
  /-- Renders the given number of stereo frames; `none` is a panic. -/
  render : σ → Nat → Option (List α × σ)
  /-- The region is always filled. -/
  length_render : ∀ s frames samples s',
    render s frames = some (samples, s') → samples.length = 2 * frames

/-- What the renderer shares with the other threads: the pipeline, the engine if there is one,
and the limiter. -/
structure Shared (α σ : Type) where
  pipeline : Pipeline
  service : Option σ
  limiter : Limiter α

namespace Renderer

/-- Where the renderer stands. -/
inductive Stage (α : Type)
  /-- Making buffers, `left` of them still to come. -/
  | filling (left : Nat)
  /-- About to read the flag. -/
  | deciding
  /-- About to render a quantum. -/
  | rendering
  /-- About to take an idle buffer for the quantum. -/
  | taking (quantum : List α)
  | limiting (quantum : List α) (buffer : Buffer)
  /-- About to queue a filled buffer for playback. -/
  | queueing (buffer : Buffer)
  | stopped
  /-- The engine panicked, or a buffer was too short. -/
  | panicked

end Renderer

/-- The render thread. -/
structure Renderer (α : Type) where
  stage : Renderer.Stage α
  /-- Quanta queued for playback. -/
  quanta : Nat := 0
  /-- What the thread has reported. -/
  log : List (Log α) := []

namespace Renderer

variable {α σ : Type}

/-- A renderer about to make all buffers but one. -/
def new (p : Pipeline) : Renderer α := { stage := .filling (p.capacity - 1) }

/-- Whether the thread has come to its end. -/
def isGone (r : Renderer α) : Bool :=
  match r.stage with
  | .stopped | .panicked => true
  | _ => false

/-- Leaves the loop. -/
def leave (r : Renderer α) : Renderer α :=
  { r with stage := .stopped, log := r.log ++ [.rendererStopped r.quanta] }

variable [Amplitude α]

/-- One quantum of the engine; silence where there is none. -/
def quantum (source : Source α σ) (frames : Nat) :
    Option σ → Option (List α × Option σ)
  | none => some (List.replicate (2 * frames) zero, none)
  | some s => (source.render s frames).map fun (samples, s) => (samples, some s)

/-- One step of the render thread. -/
def advance (source : Source α σ) (r : Renderer α) (s : Shared α σ) :
    Option (Renderer α × Shared α σ) :=
  let p := s.pipeline
  match r.stage with
  | .filling 0 =>
    some ({ r with
      stage := .deciding, log := r.log ++ [.rendererStarted p.capacity p.frames] }, s)
  | .filling (left + 1) =>
    let (b, p) := p.newBuffer
    (p.backstock.put? b).map fun q =>
      ({ r with stage := .filling left }, { s with pipeline := { p with backstock := q } })
  | .deciding => if p.rendering then some ({ r with stage := .rendering }, s) else some (r.leave, s)
  | .rendering =>
    match quantum source p.frames s.service with
    | some (samples, service) => some ({ r with stage := .taking samples }, { s with service })
    | none => some ({ r with stage := .panicked }, s)
  | .taking samples =>
    match p.backstock.take with
    | .item b rest =>
      some ({ r with stage := .limiting samples b },
        { s with pipeline := { p with backstock := rest } })
    | .nothing => some (r.leave, s)
    | .wait => none
  | .limiting samples b =>
    match s.limiter.processInto? samples p.frames b.samples with
    | some (limiter, filled) =>
      some ({ r with stage := .queueing { b with samples := filled } }, { s with limiter })
    | none => some ({ r with stage := .panicked }, s)
  | .queueing b =>
    (p.playable.put? b).map fun q =>
      ({ r with stage := .deciding, quanta := r.quanta + 1 },
        { s with pipeline := { p with playable := q } })
  | .stopped | .panicked => none

/-- More steps than the thread can take before it rests: each pass uses up an idle buffer. -/
def restBound (r : Renderer α) (p : Pipeline) : Nat :=
  let left := match r.stage with
    | .filling left => left
    | _ => 0
  left + 5 * (p.backstock.size + left) + 12

/-- Takes steps until the thread rests, at most `fuel` of them. -/
def run (source : Source α σ) : Nat → Renderer α → Shared α σ → Renderer α × Shared α σ
  | 0, r, s => (r, s)
  | fuel + 1, r, s =>
    match r.advance source s with
    | none => (r, s)
    | some (r, s) => run source fuel r s

/-- Lets the thread go on until it waits or has left. -/
def settle (source : Source α σ) (r : Renderer α) (s : Shared α σ) : Renderer α × Shared α σ :=
  r.run source (r.restBound s.pipeline) s

end Renderer

end SynthBridge
