import SynthBridge.Engine.Scripted
import SynthBridge.Flow.Line

/-!
# A pipeline on the bench

A line with a scripted engine whose threads are all in one hand, for trying out its parts one
by one: queues are stocked by hand, the player is primed and pulled, the render loop is run for
some quanta or left running. Each operation is open only where it cannot wait for ever or spoil
the number of buffers; elsewhere it is refused and changes nothing.

While a render thread runs it is brought to rest after every operation.
-/

namespace SynthBridge

namespace Line

variable {α σ : Type}

/-! ## Buffers brought in and taken out by hand -/

def isRunning (l : Line α σ) : Bool := l.renderer.isSome

def isStopped (l : Line α σ) : Bool := !l.pipeline.rendering

/-- The buffers in the player's hands: one or none. -/
def held (l : Line α σ) : Nat := if l.player.any Player.hasBuffer then 1 else 0

/-- The buffers in the player's hands and in the queues. -/
def total (l : Line α σ) : Nat := l.held + l.pipeline.backstock.size + l.pipeline.playable.size

/-- Whether one more buffer may be brought in by hand. -/
def hasRoom (l : Line α σ) : Bool := !l.isRunning && l.total < l.pipeline.capacity

def withPlayer (l : Line α σ) (player : Player) : Line α σ := { l with player := some player }

def withBackstock (l : Line α σ) (q : Queue Buffer) : Line α σ :=
  l.withPipeline { l.pipeline with backstock := q }

/-- Queues a buffer for rendering, if there is room. -/
def giveBackstock (l : Line α σ) (buffer : Buffer) : Line α σ :=
  match l.pipeline.backstock.put? buffer with
  | some q => l.withBackstock q
  | none => l

/-- Gives the renderer a buffer to go on with: the player's, or else a new one. -/
def feed (l : Line α σ) : Line α σ :=
  match l.player with
  | some player =>
    match player.current with
    | some buffer => (l.giveBackstock buffer).withPlayer { player with current := none }
    | none =>
      let (buffer, p) := l.pipeline.newBuffer
      (l.withPipeline p).giveBackstock buffer
  | none => l

/-- Stops the pipeline at once. -/
def stop (l : Line α σ) : Line α σ := l.withPipeline l.pipeline.stop

/-- The end of the render thread: it goes on until it has left. -/
def finish [Amplitude α] (source : Source α σ) (l : Line α σ) : Line α σ :=
  { l.settle source with renderer := none }

end Line

/-- A line with a scripted engine. -/
abbrev Bench (α : Type) := Line α (Scripted.State α)

namespace Bench

variable {α : Type}

inductive Operation (α : Type)
  /-- Queue a buffer for playback that is filled with a table of samples. -/
  | stock (wave : Array α)
  /-- Queue a silent buffer for rendering. -/
  | idle
  | prime
  | pull (samples : Nat)
  /-- Take the player's buffer away. -/
  | take
  | stop
  | reclaim
  | levels (levels : Stereo α)
  /-- Run the render loop here and now; the engine stops the pipeline in the given call. -/
  | render (quanta : Nat) (wave : Array α)
  /-- Start a render thread, with an engine or with none. -/
  | spawn (wave : Option (Array α))
  /-- Stop the render thread by giving it a buffer, or by interrupting its queue. -/
  | join
  | interrupt

inductive Answer
  | done
  | stocked
  | audio (samples : List Int16)
  /-- The length of the buffer taken. -/
  | taken (length : Option Nat)
  | reclaimed (count : Nat)
  | rendered (calls : Nat)
  | wouldBlock
  | refused

/-- A line of the given sizes with its limiter. -/
def new [Amplitude α] (sizes : Sizes) : Bench α := Line.new sizes none (.new "pipe")

variable [Amplitude α]

/-- A new buffer, filled through the limiter with the start of a table of samples. -/
def stock (b : Bench α) (wave : Array α) : Bench α :=
  let (buffer, p) := b.pipeline.newBuffer
  let b := b.withPipeline p
  let engine := Scripted.new wave none
  let quantum := (List.range (2 * p.frames)).map (Scripted.sampleAt engine)
  match b.shared.limiter.processInto? quantum p.frames buffer.samples with
  | none => b
  | some (limiter, samples) =>
    let b : Bench α := { b with shared := { b.shared with limiter } }
    match p.playable.put? { buffer with samples } with
    | some q => b.withPipeline { p with playable := q }
    | none => b

/-- Render calls made so far. -/
def calls (b : Bench α) : Nat := (b.shared.service.map Scripted.State.renders).getD 0

/-- Runs the render loop, at most `fuel` steps of it; the call that makes up `quanta` calls
stops the pipeline. -/
def renderFor (quanta : Nat) : (fuel : Nat) → Bench α → Bench α
  | 0, b => b
  | fuel + 1, b =>
    match b.stepRender Scripted.source with
    | none => b
    | some next =>
      let stops := b.calls < calls next && calls next == quanta
      renderFor quanta fuel (if stops then next.stop else next)

/-- Runs the render loop with a new engine. -/
def render (b : Bench α) (quanta : Nat) (wave : Array α) : Bench α × Nat × List (Log α) :=
  let renderer : Renderer α := .new b.pipeline
  let service := some (Scripted.new wave none)
  let b : Bench α := { b with shared := { b.shared with service }, renderer := some renderer }
  let b := b.renderFor quanta (renderer.restBound b.pipeline)
  let log := (b.renderer.map Renderer.log).getD []
  ({ b with renderer := none }, b.calls, log)

/-- Starts a render thread. -/
def start (b : Bench α) (wave : Option (Array α)) : Bench α :=
  let service := wave.map (Scripted.new · none)
  Line.spawn { b with shared := { b.shared with service } }

/-- One operation, before the render thread comes to rest. -/
def operate (b : Bench α) : Operation α → Bench α × Answer × List (Log α)
  | .stock wave => if b.hasRoom then (b.stock wave, .stocked, []) else (b, .refused, [])
  | .idle =>
    if b.hasRoom then
      let (buffer, p) := b.pipeline.newBuffer
      ((b.withPipeline p).giveBackstock buffer, .stocked, [])
    else (b, .refused, [])
  | .prime =>
    if b.isRunning || b.isStopped || !b.pipeline.playable.isEmpty then
      match b.prime? Scripted.source with
      | some b => (b, .done, [])
      | none => (b, .wouldBlock, [])
    else (b, .refused, [])
  | .pull samples =>
    match b.pull? Scripted.source samples with
    | some (b, out) => (b, .audio out, [])
    | none => (b, .wouldBlock, [])
  | .take =>
    if b.isRunning then (b, .refused, [])
    else
      match b.player with
      | some player =>
        (b.withPlayer { player with current := none },
          .taken (player.current.map fun buffer => buffer.samples.length), [])
      | none => (b, .taken none, [])
  | .stop => if b.isRunning then (b, .refused, []) else (b.stop, .done, [])
  | .reclaim =>
    if b.isRunning then (b, .refused, [])
    else
      let (count, p) := b.pipeline.reclaim
      (b.withPipeline p, .reclaimed count, [])
  | .levels levels =>
    let limiter := b.shared.limiter.setLevels levels Amplitude.fullScale
    ({ b with shared := { b.shared with limiter } }, .done, [])
  | .render quanta wave =>
    if !b.isRunning && b.total ≤ 1 then
      let quanta := max 1 (min quanta (b.pipeline.capacity - 1))
      let (b, calls, log) := b.render quanta wave
      (b, .rendered calls, log)
    else (b, .refused, [])
  | .spawn wave =>
    if !b.isRunning && !b.isStopped && b.total == 1 && b.held == 1 then (b.start wave, .done, [])
    else (b, .refused, [])
  | .join =>
    if b.isRunning then (b.stop.feed.finish Scripted.source, .done, [])
    else (b, .refused, [])
  | .interrupt =>
    if b.isRunning then
      let b := b.stop
      ((b.withBackstock b.pipeline.backstock.interrupt).finish Scripted.source, .done, [])
    else (b, .refused, [])

/-- One operation: the line at rest after it, what the caller sees, and what was logged. -/
def perform (b : Bench α) (o : Operation α) : Bench α × Answer × List (Log α) :=
  let (b, answer, log) := b.operate o
  (b.settle Scripted.source, answer, log)

end Bench

end SynthBridge
