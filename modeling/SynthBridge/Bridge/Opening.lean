import SynthBridge.Bridge.Basic

/-!
# Opening a session

A new engine is made and the first usable model is loaded into it. The bridge then gets a
channel at the mixer, and the engine is configured for the channel's rate and opened. The slots
are filled, the render thread is started, a player is primed, and last the channel is enabled.

An opening fails where no model is found, where the engine refuses to open, and where the render
thread cannot be started, which is up to the system (`Bridge.refuseThread`). It is left by a panic
where the sizes make no pipeline. In none of these cases it leaves a channel behind, or anything
in a slot. An engine that refused to open is closed, and so is one without a render thread.
-/

namespace SynthBridge

namespace Bridge

variable {α σ : Type}

/-- The candidates for a session. -/
def candidates (b : Bridge α σ) : List Catalog.Candidate :=
  b.inventory.catalog.candidates b.setup.config.model b.searchOrder

/-- A new engine with its number. -/
def makeEngine (E : Engine α σ) (b : Bridge α σ) : Instance σ × Bridge α σ :=
  (⟨b.made, E.create⟩, { b.called b.made [.create] with made := b.made + 1 })

/-- What is logged where no model was found. -/
def missingLog (b : Bridge α σ) : List (Log α) :=
  .romsMissing b.setup.config.model.text :: b.searchOrder.map .searched

/-- The failure where no model was found. -/
def missing (b : Bridge α σ) : Failure :=
  .romsNotFound b.setup.config.model.text b.searchOrder

/-- Tries to load one candidate into an engine. -/
def tryCandidate (E : Engine α σ) (t : FileTree) (b : Bridge α σ) (i : Instance σ)
    (c : Catalog.Candidate) : Bool × Instance σ × Bridge α σ :=
  let l : Loading α σ := { engine := i.state, inventory := b.inventory }
  let (loaded, l) := l.tryCandidate E t c
  (loaded, { i with state := l.engine },
    { (b.called i.number l.calls).logged l.log with inventory := l.inventory })

/-- Reports which model was loaded, if such events are reported. -/
def announce (E : Engine α σ) (b : Bridge α σ) (i : Instance σ) (c : Catalog.Candidate) :
    Bridge α σ :=
  if b.setup.informs then
    let description := (E.describe i.state).getD c.entry.model.name
    (b.called i.number [.describe]).logged [.initialized description c.dir]
  else b

/-- One step of opening a session; none where it has to wait. -/
def stepOpening (E : Engine α σ) (t : FileTree) (b : Bridge α σ) (rate : UInt32) :
    Opening σ → Option (Bridge α σ)
  | .create =>
    let (i, b) := b.makeEngine E
    some (b.opening rate (.resolve i b.candidates))
  | .resolve _ [] => some ((b.logged b.missingLog).ended (.failed b.missing))
  | .resolve i (c :: rest) =>
    let (loaded, i, b) := b.tryCandidate E t i c
    some (b.opening rate (if loaded then .describe i c else .resolve i rest))
  | .describe i c => some ((b.announce E i c).opening rate (.addChannel i c))
  | .addChannel i c =>
    let number := b.added
    let s : Session := ⟨number, c.entry.model.name, c.dir⟩
    some { b.opening rate (.listen i s) with
      channels := b.channels ++ [{ number }], added := number + 1 }
  | .listen i s =>
    some ((b.withChannel s.channel fun r => { r with listening := true }).opening rate
      (.configure i s))
  | .configure i s =>
    let settings := b.setup.config.engine
    let i := { i with state := E.configure i.state settings rate }
    some ((b.called i.number [.configure rate settings]).opening rate (.start i s))
  | .start i s =>
    let (refusal, state) := E.start i.state
    let i := { i with state }
    let b := b.called i.number [.start refusal]
    match refusal with
    | none => some (b.opening rate (.checkSizes i s))
    | some code => some ((b.logged [.engineRefused code]).opening rate (.refuse i s code))
  | .refuse i s code =>
    some ((b.called i.number [.close]).opening rate (.leave s (.failed (.engineRefused code))))
  | .leave s outcome => some ((b.withoutChannel s.channel).ended outcome)
  | .checkSizes i s =>
    match Sizes.check b.setup.frames b.setup.capacity with
    | .ok sizes => some (b.opening rate (.fillEngine i s sizes))
    | .error fault => some (b.opening rate (.leave s (.panicked fault)))
  | .fillEngine i s sizes =>
    some { b.opening rate (.fillPipeline s sizes) with engine := some i }
  | .fillPipeline s sizes => some { b.opening rate (.spawn s) with pipeline := some (.new sizes) }
  | .spawn s =>
    b.pipeline.map fun p => { b.opening rate (.makePlayer s) with renderer := some (.new p) }
  | .withdrawEngine s reason => some (b.closeEngine.opening rate (.withdrawPipeline s reason))
  | .withdrawPipeline s reason =>
    some { b.opening rate (.leave s (.failed (.threadRefused reason))) with pipeline := none }
  | .makePlayer s =>
    b.pipeline.map fun p =>
      let (player, p) := Player.new p
      { b.opening rate (.prime s player.startPrime) with pipeline := some p }
  | .prime s player =>
    if player.isFree then some (b.opening rate (.fillPlayer s player))
    else
      b.pipeline.bind fun p =>
        (player.advance p).map fun (player, p) =>
          { b.opening rate (.prime s player) with pipeline := some p }
  | .fillPlayer s player => some { b.opening rate (.enable s) with player := some player }
  | .enable s =>
    some ((b.withChannel s.channel fun r => { r with enabled := true }).opening rate (.finish s))
  | .finish s => some { b.ended .opened with session := some s }

/-- The system does not start the render thread, for some reason. -/
def refuseThread (b : Bridge α σ) (reason : String) : Option (Bridge α σ) :=
  match b.controller with
  | .opening rate (.spawn s) => some (b.opening rate (.withdrawEngine s reason))
  | _ => none

end Bridge

end SynthBridge
