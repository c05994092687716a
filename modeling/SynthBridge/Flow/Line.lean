import SynthBridge.Flow.Player
import SynthBridge.Flow.Renderer
import SynthBridge.Flow.Teardown

/-!
# A pipeline and its threads

One pipeline with a render thread, a player that the mixer pulls from, and a controller that
makes the player and may take the whole apart. `Line.step` is the transition system of these
threads: a label says which of them acts, and a label whose thread has to wait has no step.
Every schedule of the threads is a list of labels.

Whoever holds all threads in one hand lets the renderer run whenever it can: `Line.settle`
brings it to rest, and `Line.play` carries a prime or a pull to its end. Both are runs of the
same steps.
-/

namespace SynthBridge

/-- A pipeline with its threads. -/
structure Line (α σ : Type) where
  shared : Shared α σ
  /-- The render thread, while there is one. -/
  renderer : Option (Renderer α) := none
  /-- The player, while the mixer can reach it. -/
  player : Option Player
  /-- How far the controller has come in taking the line apart. -/
  teardown : Option Teardown := none

namespace Line

variable {α σ : Type}

/-- A line without a player: there is no buffer yet. -/
def bare (sizes : Sizes) (service : Option σ) (limiter : Limiter α) : Line α σ :=
  { shared := { pipeline := .new sizes, service, limiter }, player := none }

/-- A line at rest: the player holds the only buffer and nothing runs. -/
def new (sizes : Sizes) (service : Option σ) (limiter : Limiter α) : Line α σ :=
  let (player, pipeline) := Player.new (Pipeline.new sizes)
  { shared := { pipeline, service, limiter }, player := some player }

/-- The same line with its render thread at the start. -/
def spawn (l : Line α σ) : Line α σ := { l with renderer := some (.new l.shared.pipeline) }

def pipeline (l : Line α σ) : Pipeline := l.shared.pipeline

def withPipeline (l : Line α σ) (p : Pipeline) : Line α σ :=
  { l with shared := { l.shared with pipeline := p } }

/-- Whether the render thread has ended, or never began. -/
def rendererGone (l : Line α σ) : Bool := l.renderer.all Renderer.isGone

/-! ## Steps -/

/-- Which thread acts, and what it begins if it has nothing under way. -/
inductive Label
  /-- The next step of the render thread. -/
  | render
  /-- Make the player. -/
  | makePlayer
  /-- The next step of the prime or pull under way. -/
  | play
  | startPrime
  | startPull (samples : Nat)
  /-- The two halves of stopping the pipeline. -/
  | clearFlag
  | wake
  /-- Interrupt the queue that the render thread waits on. -/
  | interrupt
  /-- Begin to take the line apart, and go on with it. -/
  | startTeardown
  | tearDown
  deriving DecidableEq

/-- Makes the player of a line that never had one. -/
def makePlayer (l : Line α σ) : Option (Line α σ) :=
  if l.player.isNone && l.teardown.isNone then
    let (player, p) := Player.new l.pipeline
    some { l.withPipeline p with player := some player }
  else none

/-- Begins to take a line apart that has its player. -/
def startTeardown (l : Line α σ) : Option (Line α σ) :=
  if l.player.isSome && l.teardown.isNone then some { l with teardown := some .clearFlag } else none

/-- Begins a task of the player, if it has none under way. -/
def begin (l : Line α σ) (start : Player → Player) : Option (Line α σ) :=
  match l.player with
  | some player => if player.isFree then some { l with player := some (start player) } else none
  | none => none

variable [Amplitude α]

def stepRender (source : Source α σ) (l : Line α σ) : Option (Line α σ) :=
  l.renderer.bind fun r =>
    (r.advance source l.shared).map fun (r, shared) => { l with renderer := some r, shared }

def stepPlay (l : Line α σ) : Option (Line α σ) :=
  l.player.bind fun player =>
    (player.advance l.pipeline).map fun (player, p) =>
      { l.withPipeline p with player := some player }

def stepTeardown (l : Line α σ) : Option (Line α σ) :=
  l.teardown.bind fun t =>
    (t.advance l.pipeline l.player l.rendererGone).map fun (t, p, player) =>
      { l.withPipeline p with teardown := some t, player }

/-- One step of the thread that the label names. -/
def step (source : Source α σ) (l : Line α σ) : Label → Option (Line α σ)
  | .render => l.stepRender source
  | .makePlayer => l.makePlayer
  | .play => l.stepPlay
  | .startPrime => l.begin Player.startPrime
  | .startPull samples => l.begin (Player.startPull · samples)
  | .clearFlag => some (l.withPipeline l.pipeline.clearFlag)
  | .wake => some (l.withPipeline l.pipeline.wake)
  | .interrupt =>
    some (l.withPipeline { l.pipeline with backstock := l.pipeline.backstock.interrupt })
  | .startTeardown => l.startTeardown
  | .tearDown => l.stepTeardown

/-- The state after a schedule, if every label of it has a step. -/
def follow? (source : Source α σ) (l : Line α σ) : List Label → Option (Line α σ)
  | [] => some l
  | label :: rest => (l.step source label).bind fun l => l.follow? source rest

/-! ## Runs with all threads in one hand -/

/-- Lets the render thread go on until it waits or has left. -/
def settle (source : Source α σ) (l : Line α σ) : Line α σ :=
  match l.renderer with
  | none => l
  | some r =>
    let (r, shared) := r.settle source l.shared
    { l with renderer := some r, shared }

/-- Steps of the player, and of the render thread wherever the player waits, at most `fuel`. -/
def playFor (source : Source α σ) : Nat → Line α σ → Line α σ
  | 0, l => l
  | fuel + 1, l =>
    match l.stepPlay with
    | some l => playFor source fuel l
    | none =>
      if l.player.all Player.isFree then l
      else
        match l.stepRender source with
        | some l => playFor source fuel l
        | none => l

/-- More steps than the task at hand can take: each buffer that it needs yields a frame. -/
def playBound (l : Line α σ) : Nat :=
  let wanted := match l.player.map Player.task with
    | some (.pulling wanted ..) => wanted
    | _ => 0
  let rest := (l.renderer.map (Renderer.restBound · l.pipeline)).getD 0
  10 * (wanted + 3) + rest

/-- Carries the prime or pull under way to its end, or to where it would wait for ever. -/
def play (source : Source α σ) (l : Line α σ) : Line α σ := playFor source l.playBound l

/-- Primes the player; `none` if that would wait for ever. -/
def prime? (source : Source α σ) (l : Line α σ) : Option (Line α σ) :=
  (l.begin Player.startPrime).bind fun l =>
    let l := l.play source
    if l.player.all Player.isFree then some l else none

/-- Pulls a region of the given number of samples; `none` if that would wait for ever. -/
def pull? (source : Source α σ) (l : Line α σ) (samples : Nat) :
    Option (Line α σ × List Int16) :=
  (l.begin (Player.startPull · samples)).bind fun l =>
    let l := l.play source
    match l.player.map Player.task with
    | some (.pulled out) => some (l, out)
    | _ => none

end Line

end SynthBridge
