import SynthBridge.Bridge.Opening
import SynthBridge.Rom.Listing

/-!
# Traffic through a bridge

What other threads than the controller do with a bridge: the render thread renders, the mixer
pulls audio and changes the level, players send messages, and somebody asks for a listing.

A message is stamped with the position of playback. A level change has two halves: the engine's
gain, then the limiter's levels; other threads may come in between.
-/

namespace SynthBridge

namespace Bridge

variable {α σ : Type}

/-! ## Messages -/

/-- The first four bytes of a message as a word, the first byte lowest; missing bytes are
zero. -/
def packed (bytes : List UInt8) : UInt32 :=
  (bytes.take 4).foldr (fun b word => word <<< 8 ||| b.toUInt32) 0

/-- Submits an event to the engine, if there is one, at the position of playback. -/
def submit (E : Engine α σ) (b : Bridge α σ) (event : σ → UInt32 → σ) (call : UInt32 → Call α)
    (dropped : Log α) : Bridge α σ :=
  match b.engine with
  | none => b.logged [dropped]
  | some i =>
    let time := E.timestamp i.state b.played
    { b.called i.number [.timestamp b.played, call time] with
      engine := some { i with state := event i.state time } }

/-- Sends a short message. -/
def message (E : Engine α σ) (b : Bridge α σ) (bytes : List UInt8) : Bridge α σ :=
  let word := packed bytes
  b.submit E (E.message · word) (.message word) (.messageDropped word)

/-- Sends a long message. -/
def sysex (E : Engine α σ) (b : Bridge α σ) (bytes : List UInt8) : Bridge α σ :=
  b.submit E (E.sysex · bytes) (.sysex bytes) (.sysexDropped bytes.length)

/-! ## Levels -/

variable [Amplitude α]

/-- The first half of a level change: the engine gets its gain. -/
def setGain (E : Engine α σ) (b : Bridge α σ) (left right : α) : Bridge α σ :=
  let v := Volume.split left right
  let b := { b with halfDone := b.halfDone ++ [v.levels] }
  match b.engine with
  | none => b
  | some i =>
    { b.called i.number [.gain v.gain] with
      engine := some { i with state := E.gain i.state v.gain } }

/-- The second half of the level change at a place among those that are half done. -/
def setLevels (b : Bridge α σ) (place : Nat) : Option (Bridge α σ) :=
  b.halfDone[place]?.map fun levels =>
    { b with
      halfDone := b.halfDone.eraseIdx place
      limiter := b.limiter.setLevels levels Amplitude.fullScale }

/-! ## Audio -/

/-- What the step of a render thread asks of an engine. -/
def renderCalls (r : Renderer α) (engine : Option (Instance σ)) (calls : List (Nat × Call α)) :
    List (Nat × Call α) :=
  match r.stage, engine with
  | .rendering, some i => calls ++ [(i.number, .render)]
  | _, _ => calls

/-- One step of the render thread; none where it has to wait or has left. -/
def stepRender (E : Engine α σ) (b : Bridge α σ) : Option (Bridge α σ) :=
  match b.renderer, b.pipeline with
  | some r, some p =>
    (r.advance E.numbered ⟨p, b.engine, b.limiter⟩).map fun (r', shared) =>
      { b with
        renderer := some r'
        pipeline := some shared.pipeline
        engine := shared.service
        limiter := shared.limiter
        calls := renderCalls r b.engine b.calls }
  | _, _ => none

/-- Begins a pull into a region of the given number of samples; none where there is no player
or another pull is under way. -/
def startPull (b : Bridge α σ) (samples : Nat) : Option (Bridge α σ) :=
  b.player.bind fun player =>
    if player.isFree then some { b with player := some (player.startPull samples) } else none

/-- One step of the pull under way. -/
def stepPull (b : Bridge α σ) : Option (Bridge α σ) :=
  match b.player, b.pipeline with
  | some player, some p =>
    (player.advance p).map fun (player, p) =>
      { b with player := some player, pipeline := some p }
  | _, _ => none

/-! ## Listings -/

/-- What a listing highlights: the model in use, or else what is configured. -/
def listingSelector (b : Bridge α σ) : ModelSelector :=
  match b.session with
  | some s => .named s.model
  | none => b.setup.config.model

/-- What a listing looks for: every model, in each directory of the search. -/
def surveyed (b : Bridge α σ) : List Catalog.Candidate :=
  b.searchOrder.flatMap fun dir => b.inventory.catalog.entries.map (⟨·, dir⟩)

/-- Begins a listing. It has an engine of its own, which only identifies files, and shares
nothing with a session but the memory of what is present where. -/
def startList (E : Engine α σ) (b : Bridge α σ) : Bridge α σ :=
  let (engine, b) := b.makeEngine E
  { b with surveys := b.surveys ++ [{ engine, todo := b.surveyed }] }

/-- One step of the listing at a place. What it highlights can be asked for only while nothing
is opened or closed; models are then looked for one after the other, and a listing that has
looked for all of them is over. -/
def stepList (E : Engine α σ) (t : FileTree) (b : Bridge α σ) (place : Nat) :
    Option (Bridge α σ) :=
  b.surveys[place]?.bind fun s =>
    match s.selector, s.todo with
    | none, _ =>
      if b.isIdle then
        let s := { s with selector := some b.listingSelector }
        some { b with surveys := b.surveys.set place s }
      else none
    | some _, [] => some { b with surveys := b.surveys.eraseIdx place }
    | some _, c :: rest =>
      let (_, looks, inventory) := b.inventory.check (E.identify s.engine.state) t c.entry c.dir
      some { b.called s.engine.number (Loading.looked looks) with
        inventory, surveys := b.surveys.set place { s with todo := rest } }

/-- The text of a listing that has looked for all models: everything is remembered, and no file
is looked at again. -/
def listing (t : FileTree) (b : Bridge α σ) (color : Bool) (width : Nat) : String :=
  (Listing.render color b.inventory (fun _ _ => none) t b.listingSelector b.searchOrder width).1

end Bridge

end SynthBridge
