import SynthBridge.Bridge.Step

/-!
# One thing at a time

The operations of a bridge for someone who does one thing after the other. Each is a run of
steps: the controller, the pull or the listing goes first, and the render thread wherever they
wait.
`Bridge.settle` then brings the render thread to rest.
-/

namespace SynthBridge

namespace Bridge

variable {α σ : Type} [Amplitude α]

/-! ## Runs -/

/-- Steps of the render thread until it rests, at most `fuel`. -/
def settleFor (E : Engine α σ) : (fuel : Nat) → Bridge α σ → Bridge α σ
  | 0, b => b
  | fuel + 1, b =>
    match b.stepRender E with
    | none => b
    | some b => settleFor E fuel b

/-- More steps than the render thread can take before it rests. -/
def restBound (b : Bridge α σ) : Nat :=
  match b.renderer, b.pipeline with
  | some r, some p => r.restBound p
  | _, _ => 0

/-- Brings the render thread to rest. -/
def settle (E : Engine α σ) (b : Bridge α σ) : Bridge α σ := settleFor E b.restBound b

/-- Steps of the controller, and of the render thread wherever it waits, at most `fuel`. -/
def driveFor (E : Engine α σ) (t : FileTree) : (fuel : Nat) → Bridge α σ → Bridge α σ
  | 0, b => b
  | fuel + 1, b =>
    if b.isIdle then b
    else
      match b.stepControl E t with
      | some b => driveFor E t fuel b
      | none =>
        match b.stepRender E with
        | some b => driveFor E t fuel b
        | none => b

/-- More steps than closing one session and opening another can take. -/
def driveBound (b : Bridge α σ) : Nat :=
  let capacity := max b.setup.capacity ((b.pipeline.map Pipeline.capacity).getD 0)
  100 + b.candidates.length + 24 * (capacity + 1)

/-- Carries what the controller has begun to its end. -/
def drive (E : Engine α σ) (t : FileTree) (b : Bridge α σ) : Bridge α σ :=
  driveFor E t b.driveBound b

/-- Steps of the pull under way, and of the render thread wherever it waits, at most `fuel`. -/
def deliverFor (E : Engine α σ) : (fuel : Nat) → Bridge α σ → Bridge α σ
  | 0, b => b
  | fuel + 1, b =>
    if b.player.all Player.isFree then b
    else
      match b.stepPull with
      | some b => deliverFor E fuel b
      | none =>
        match b.stepRender E with
        | some b => deliverFor E fuel b
        | none => b

/-- Steps of the listing begun last, at most `fuel`. -/
def listFor (E : Engine α σ) (t : FileTree) : (fuel : Nat) → Bridge α σ → Bridge α σ
  | 0, b => b
  | fuel + 1, b =>
    match b.stepList E t (b.surveys.length - 1) with
    | some b => listFor E t fuel b
    | none => b

/-! ## Operations -/

/-- Opens a session on a mixer of the given rate; one that is open is closed first. -/
def openOn (E : Engine α σ) (t : FileTree) (b : Bridge α σ) (rate : UInt32) : Bridge α σ :=
  (b.startClosing (some rate)).drive E t

/-- Closes the session, if there is one. -/
def close (E : Engine α σ) (t : FileTree) (b : Bridge α σ) : Bridge α σ :=
  (b.startClosing none).drive E t

/-- What a pull comes to. -/
inductive Pulled
  | audio (samples : List Int16)
  /-- It would wait for ever, and was not begun. -/
  | wouldBlock
  /-- No mixer has an enabled channel to pull from. -/
  | nobody

/-- Fills a region of the given number of samples; without a player it is silence. -/
def callback (E : Engine α σ) (b : Bridge α σ) (samples : Nat) : Bridge α σ × Pulled :=
  match b.startPull samples with
  | none => (b, .audio (List.replicate samples 0))
  | some begun =>
    let after := begun.deliverFor E (10 * (samples + 3) + begun.restBound)
    match after.player.map Player.task with
    | some (.pulled out) => (after, .audio out)
    | _ => (b, .wouldBlock)

/-- The channel that the mixer has for the bridge. -/
def channel? (b : Bridge α σ) : Option Registration := b.channels.getLast?

/-- The mixer pulls from the channel, if it is enabled. -/
def mixerPull (E : Engine α σ) (b : Bridge α σ) (samples : Nat) : Bridge α σ × Pulled :=
  if b.channel?.any Registration.enabled then b.callback E samples else (b, .nobody)

/-- Changes the level, both halves. -/
def setLevel (E : Engine α σ) (b : Bridge α σ) (left right : α) : Bridge α σ :=
  let b := b.setGain E left right
  (b.setLevels (b.halfDone.length - 1)).getD b

/-- The mixer changes the level, if it has a channel that listens. -/
def mixerLevel (E : Engine α σ) (b : Bridge α σ) (left right : α) : Bridge α σ × Bool :=
  if b.channel?.any Registration.listening then (b.setLevel E left right, true) else (b, false)

/-- Lists the models present in the directories of the search. -/
def list (E : Engine α σ) (t : FileTree) (b : Bridge α σ) (color : Bool) (width : Nat) :
    String × Bridge α σ :=
  let b := (b.startList E).listFor E t (b.surveyed.length + 2)
  (b.listing t color width, b)

end Bridge

end SynthBridge
