import SynthBridge.Bridge.Basic

/-!
# Closing a session

The channel is switched off, the session's threads and buffers are taken apart, and only when
the render thread has left are the engine closed and the channel dropped. What was recovered is
then counted and reported, and the limiter's statistics start anew.
-/

namespace SynthBridge

namespace Bridge

variable {α σ : Type}

/-- Takes the session, if there is one, in order to close it; `next` is what to open then. -/
def startClosing (b : Bridge α σ) (next : Option UInt32) : Bridge α σ :=
  match b.session, next with
  | some s, _ => { b with session := none, controller := .closing s .disable next }
  | none, some rate => b.opening rate .create
  | none, none => b.ended (.closed none)

/-- Whether the render thread has left. -/
def rendererGone (b : Bridge α σ) : Bool := b.renderer.all Renderer.isGone

/-- What is said of a render thread when it has been awaited. -/
def panicLog (b : Bridge α σ) : List (Log α) :=
  match b.renderer.map Renderer.stage with
  | some .panicked => [.rendererPanicked]
  | _ => []

/-- The render thread has been awaited. -/
def joined (b : Bridge α σ) : Bridge α σ := { b.logged b.panicLog with renderer := none }

variable [Amplitude α]

/-- One step of closing a session; none where it has to wait. -/
def stepClosing (b : Bridge α σ) (s : Session) (next : Option UInt32) :
    Closing → Option (Bridge α σ)
  | .disable =>
    some ((b.withChannel s.channel fun r => { r with enabled := false }).closing s
      (.tearing .clearFlag) next)
  | .tearing (.reclaim recovered played) =>
    some (b.joined.closing s (.closeEngine (.reclaim recovered played)) next)
  | .tearing t =>
    b.pipeline.bind fun p =>
      (t.advance p b.player b.rendererGone).map fun (t, p, player) =>
        { b.closing s (.tearing t) next with pipeline := some p, player }
  | .closeEngine t => some ((b.closeEngine).closing s (.clearPipeline t) next)
  | .clearPipeline t =>
    b.pipeline.map fun p => { b.closing s (.dropChannel t p) next with pipeline := none }
  | .dropChannel t p => some ((b.withoutChannel s.channel).closing s (.count t p) next)
  | .count t p =>
    match t.advance p none true with
    | some (.finished recovered played, _, _) =>
      let lost := if recovered = p.capacity then [] else [.buffersMissing recovered p.capacity]
      some ((b.logged lost).closing s (.clearLimiter ⟨recovered, p.capacity, played⟩) next)
    | _ => none
  | .clearLimiter report =>
    let stats := Log.limiter b.limiter.name b.limiter.report
    some ({ b.logged [stats] with limiter := b.limiter.reset }.closing s (.finish report) next)
  | .finish report =>
    let b := b.logged [.closed s.model report.played]
    match next with
    | some rate => some (b.opening rate .create)
    | none => some (b.ended (.closed (some report)))

end Bridge

end SynthBridge
