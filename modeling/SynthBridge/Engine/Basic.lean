import SynthBridge.Engine.Settings
import SynthBridge.Flow.Renderer
import SynthBridge.Storage.Tree

/-!
# The synthesis engine

What the program needs of an engine: it identifies and accepts ROM files, is configured and
opened, renders, takes events at timestamps of its own, and is closed. An `Engine` is a record
of these operations on states of a type `σ`; any such record can be driven. Closing ends an
engine, so there is no state after it.

Every operation that the program asks of an engine is a `Call`, so that what was asked, and
in which order, can be looked at afterwards.
-/

namespace SynthBridge

/-- What a ROM holds. -/
inductive RomKind
  | control
  | pcm
  deriving DecidableEq, Repr

/-- What an engine reports of a ROM file: the ids of the control ROM and of the PCM ROM in it. -/
structure RomInfo where
  control : Option String := none
  pcm : Option String := none
  deriving DecidableEq, Repr

/-- Whether either reported id is `id`. -/
def RomInfo.reports (info : RomInfo) (id : String) : Bool :=
  info.control == some id || info.pcm == some id

/-- An engine: its states and what can be asked of it. -/
structure Engine (α σ : Type) extends Source α σ where
  /-- The state of a new engine. -/
  create : σ
  /-- Which ROM the file at a path is, if it is one. -/
  identify : σ → FileTree → String → Option RomInfo
  /-- Adds a full ROM and tells what it was accepted as. -/
  add : σ → FileTree → String → Option RomKind × σ
  /-- Adds the ROM that two halves make up. -/
  merge : σ → FileTree → String → String → Option RomKind × σ
  /-- Forgets all ROMs added so far. -/
  discard : σ → σ
  /-- A description of the control ROM. -/
  describe : σ → Option String
  configure : σ → EngineSettings → UInt32 → σ
  /-- Opens the synthesizer; a refusal has a code. -/
  start : σ → Option Int × σ
  /-- The engine's timestamp for a count of output frames. -/
  timestamp : σ → UInt64 → UInt32
  message : σ → UInt32 → UInt32 → σ
  sysex : σ → List UInt8 → UInt32 → σ
  gain : σ → α → σ

/-- One operation asked of an engine, with its answer where it has one. -/
inductive Call (α : Type)
  | create
  | identify (path : String) (info : Option RomInfo)
  | add (path : String) (kind : Option RomKind)
  | merge (first second : String) (kind : Option RomKind)
  | discard
  | describe
  | configure (rate : UInt32) (settings : EngineSettings)
  | start (refusal : Option Int)
  | render
  | gain (value : α)
  | timestamp (frames : UInt64)
  | message (word time : UInt32)
  | sysex (bytes : List UInt8) (time : UInt32)
  | close

end SynthBridge
