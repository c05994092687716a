import SynthBridge.Config
import SynthBridge.Flow.Renderer
import SynthBridge.Flow.Teardown
import SynthBridge.Rom.Resolve
import SynthBridge.Rom.Search

/-!
# The bridge

A bridge ties an engine to a channel of a mixer. While it is open there is a session: a model
is loaded into an engine, a render thread runs, a player is primed, and the channel is enabled.

Several threads use a bridge at once. They meet in four slots (the engine, the limiter, the
player and the pipeline), and opening and closing are done by one of them at a time, the
controller, in many steps between which the others go on. This module has the state of all of
them: `Opening` and `Closing` say what the controller has still to do, and with what in its
hands. Every engine that is ever made has a number, and all that is asked of engines is kept
with their numbers.
-/

namespace SynthBridge

/-- An engine that was made, and its number among all that were. -/
structure Instance (σ : Type) where
  number : Nat
  state : σ

/-- The audio of a numbered engine. -/
def Source.numbered {α σ : Type} (S : Source α σ) : Source α (Instance σ) where
  render i frames :=
    (S.render i.state frames).map fun (samples, state) => (samples, { i with state })
  length_render i frames samples i' h := by
    simp only [Option.map_eq_some_iff, Prod.mk.injEq] at h
    obtain ⟨⟨xs, s⟩, hx, rfl, -⟩ := h
    exact S.length_render _ _ _ _ hx

namespace Bridge

/-- A channel that a mixer has for the bridge. -/
structure Registration where
  number : Nat
  enabled : Bool := false
  /-- Whether the mixer reports level changes. -/
  listening : Bool := false
  deriving DecidableEq, Repr

/-- What a bridge is set up with. -/
structure Setup where
  config : Config
  platform : Platform
  env : SearchEnv
  /-- The sizes asked for; they are tested when a session is opened. -/
  frames : Nat := Sizes.standard.frames
  capacity : Nat := Sizes.standard.capacity
  /-- Whether events of level info are reported. An engine is asked to describe itself only for
  such an event. -/
  informs : Bool := true

/-- What there is while the bridge is open: its channel, and which model it loaded from where. -/
structure Session where
  channel : Nat
  model : String
  dir : String
  deriving DecidableEq, Repr

/-- What closing a session found. -/
structure Report where
  /-- Buffers accounted for at the end, of those that were in circulation. -/
  recovered : Nat
  capacity : Nat
  /-- Frames handed to the mixer. -/
  played : UInt64
  deriving DecidableEq, Repr

/-- How an opening or a closing ended. -/
inductive Outcome
  | opened
  | failed (f : Failure)
  /-- The sizes make no pipeline. -/
  | panicked (fault : SizeFault)
  /-- With a report, if there was a session. -/
  | closed (report : Option Report)
  deriving DecidableEq

/-- The next step of closing a session. -/
inductive Closing
  | disable
  | tearing (t : Teardown)
  | closeEngine (t : Teardown)
  | clearPipeline (t : Teardown)
  /-- The pipeline is in the controller's hands from here on. -/
  | dropChannel (t : Teardown) (p : Pipeline)
  | count (t : Teardown) (p : Pipeline)
  | clearLimiter (report : Report)
  | finish (report : Report)

/-- The next step of opening a session. -/
inductive Opening (σ : Type)
  | create
  /-- Try the first of the candidates. -/
  | resolve (i : Instance σ) (candidates : List Catalog.Candidate)
  | describe (i : Instance σ) (c : Catalog.Candidate)
  | addChannel (i : Instance σ) (c : Catalog.Candidate)
  | listen (i : Instance σ) (s : Session)
  | configure (i : Instance σ) (s : Session)
  | start (i : Instance σ) (s : Session)
  /-- Close the engine, which refused to open. -/
  | refuse (i : Instance σ) (s : Session) (code : Int)
  /-- Drop the channel and end so. -/
  | leave (s : Session) (outcome : Outcome)
  | checkSizes (i : Instance σ) (s : Session)
  | fillEngine (i : Instance σ) (s : Session) (sizes : Sizes)
  | fillPipeline (s : Session) (sizes : Sizes)
  /-- Start the render thread, unless the system does not. -/
  | spawn (s : Session)
  /-- Close the engine and empty the slots again, since there is no render thread. -/
  | withdrawEngine (s : Session) (reason : String)
  | withdrawPipeline (s : Session) (reason : String)
  | makePlayer (s : Session)
  | prime (s : Session) (player : Player)
  | fillPlayer (s : Session) (player : Player)
  | enable (s : Session)
  | finish (s : Session)

/-- A listing under way. -/
structure Survey (σ : Type) where
  /-- The listing's own engine. -/
  engine : Instance σ
  /-- What it highlights, once that is known. -/
  selector : Option ModelSelector := none
  /-- The models still to be looked for, and where. -/
  todo : List Catalog.Candidate

/-- What the controller is doing. -/
inductive Controller (σ : Type)
  | idle
  /-- Closing a session; then perhaps opening another on a mixer of the given rate. -/
  | closing (s : Session) (stage : Closing) (next : Option UInt32)
  /-- Opening a session on a mixer of the given rate. -/
  | opening (rate : UInt32) (stage : Opening σ)

end Bridge

/-- A bridge and the threads that use it. -/
structure Bridge (α σ : Type) where
  setup : Bridge.Setup
  inventory : Inventory
  /-- The slots. -/
  engine : Option (Instance σ) := none
  limiter : Limiter α
  player : Option Player := none
  pipeline : Option Pipeline := none
  /-- The render thread, until it has been awaited. -/
  renderer : Option (Renderer α) := none
  /-- The session, while the bridge is open. -/
  session : Option Bridge.Session := none
  controller : Bridge.Controller σ := .idle
  /-- How the last opening or closing ended. -/
  outcome : Option Bridge.Outcome := none
  /-- The channels that mixers have for this bridge, and how many there ever were. -/
  channels : List Bridge.Registration := []
  added : Nat := 0
  /-- Level changes of which the engine has heard and the limiter has not. -/
  halfDone : List (Stereo α) := []
  /-- Listings that are being put together. -/
  surveys : List (Bridge.Survey σ) := []
  /-- Engines made so far, and what was asked of each. -/
  made : Nat := 0
  calls : List (Nat × Call α) := []
  log : List (Log α) := []

namespace Bridge

variable {α σ : Type}

/-- A closed bridge over a catalog. -/
def new [Amplitude α] (setup : Setup) (catalog : Catalog) : Bridge α σ where
  setup := setup
  inventory := { catalog }
  limiter := .new channelName

/-! ## What can be seen of a bridge -/

def isOpen (b : Bridge α σ) : Bool := b.session.isSome

/-- The model in use and where it was loaded from. -/
def loaded (b : Bridge α σ) : Option (String × String) :=
  b.session.map fun s => (s.model, s.dir)

/-- Frames handed to the mixer in this session. -/
def played (b : Bridge α σ) : UInt64 := (b.pipeline.map Pipeline.played).getD 0

/-- The directories in the order of the search. -/
def searchOrder (b : Bridge α σ) : List String :=
  Search.order b.setup.platform b.setup.env b.setup.config.romdir

def isIdle (b : Bridge α σ) : Bool :=
  match b.controller with
  | .idle => true
  | _ => false

/-! ## Records -/

/-- Records what was asked of an engine. -/
def called (b : Bridge α σ) (number : Nat) (calls : List (Call α)) : Bridge α σ :=
  { b with calls := b.calls ++ calls.map (number, ·) }

def logged (b : Bridge α σ) (events : List (Log α)) : Bridge α σ :=
  { b with log := b.log ++ events }

/-! ## The engine -/

/-- Takes the engine out of its slot and closes it. -/
def closeEngine (b : Bridge α σ) : Bridge α σ :=
  match b.engine with
  | none => b
  | some i => { b.called i.number [.close] with engine := (none : Option (Instance σ)) }

/-! ## Channels -/

/-- Changes one of the bridge's channels. -/
def withChannel (b : Bridge α σ) (number : Nat) (f : Registration → Registration) :
    Bridge α σ :=
  { b with channels := b.channels.map fun r => if r.number = number then f r else r }

/-- Drops a channel: its mixer forgets it. -/
def withoutChannel (b : Bridge α σ) (number : Nat) : Bridge α σ :=
  { b with channels := b.channels.filter fun r => r.number ≠ number }

/-! ## The controller -/

def closing (b : Bridge α σ) (s : Session) (stage : Closing) (next : Option UInt32) :
    Bridge α σ :=
  { b with controller := .closing s stage next }

def opening (b : Bridge α σ) (rate : UInt32) (stage : Opening σ) : Bridge α σ :=
  { b with controller := .opening rate stage }

/-- Ends what the controller was doing. -/
def ended (b : Bridge α σ) (outcome : Outcome) : Bridge α σ :=
  { b with controller := .idle, outcome := some outcome }

end Bridge

end SynthBridge
