import SynthBridge.Decimal.Fixed
import SynthBridge.Sound.Limiter
import SynthBridge.Text.Quoted

/-!
# What is logged

Every event that the program reports while it works, as a value; `Log.level` and `Log.text`
say how each is written.

Events are recorded as if those of every level were reported, since to make one has no effect but
that it is reported. The exception is `Log.initialized`, for which an engine is asked to describe
itself: there is no such event, and no such question, where level info is not reported
(`Bridge.Setup.informs`).
-/

namespace SynthBridge

inductive LogLevel
  | debug
  | info
  | warn
  | error
  deriving DecidableEq, Repr

def LogLevel.name : LogLevel → String
  | .debug => "DEBUG"
  | .info => "INFO"
  | .warn => "WARN"
  | .error => "ERROR"

/-- The name of the mixer channel; it heads the lines of a session and of its limiter. -/
def channelName : String := "MT32"

/-- A reported event. -/
inductive Log (α : Type)
  /-- A model was loaded from a directory. -/
  | loaded (model dir : String)
  /-- A model is present in a directory but was not accepted. -/
  | loadFailed (model dir : String)
  /-- No model was found for a selector, and then each directory that was searched. -/
  | romsMissing (selector : String)
  | searched (dir : String)
  | initialized (description dir : String)
  /-- The engine refused to open. -/
  | engineRefused (code : Int)
  | rendererStarted (capacity frames : Nat)
  | rendererStopped (quanta : Nat)
  | rendererPanicked
  /-- How often the limiter of the given name engaged. -/
  | limiter (name : String) (report : Limiter.Report α)
  | buffersMissing (recovered capacity : Nat)
  | closed (model : String) (frames : UInt64)
  /-- A short message, or a long one of the given size, came while nothing was open. -/
  | messageDropped (word : UInt32)
  | sysexDropped (size : Nat)
  | channelAdded (name : String)
  /-- An error chain, outermost first. -/
  | failure (chain : List String)

namespace Log

variable {α : Type}

def level : Log α → LogLevel
  | .loaded .. | .loadFailed .. | .rendererStarted .. | .rendererStopped .. => .debug
  | .limiter _ (.quiet _) => .debug
  | .limiter _ (.engaged ..) => .info
  | .closed .. | .messageDropped .. | .sysexDropped .. | .channelAdded .. => .debug
  | .romsMissing .. | .searched .. | .buffersMissing .. => .warn
  | .initialized .. => .info
  | .engineRefused .. | .rendererPanicked | .failure .. => .error

variable [Amplitude α]

/-- How often a limiter engaged, in words. -/
def limiterText (name : String) : Limiter.Report α → String
  | .quiet blocks => s!"{name}: No limiting needed over {blocks} blocks"
  | .engaged limited blocks percent peak excess =>
    let percent := (Amplitude.exact percent).fixed 1
    let peak := (Amplitude.exact peak).fixed 0
    let excess := (Amplitude.exact excess).fixed 1
    s!"{name}: Limited {limited} of {blocks} blocks ({percent}%), " ++
      s!"peak {peak} ({excess}x the playback range)"

def text : Log α → String
  | .loaded model dir => s!"Loaded model {model} from {dir}"
  | .loadFailed model dir => s!"Model {model} present in {dir} but failed to load"
  | .romsMissing selector =>
    s!"{channelName}: Could not find ROMs for model {selector} in directories:"
  | .searched dir => s!"{channelName}:  - {dir}"
  | .initialized description dir => s!"{channelName}: Initialized {description} from {dir}"
  | .engineRefused code => s!"{channelName}: Error initialising emulation: {code}"
  | .rendererStarted capacity frames =>
    s!"Render thread started: {capacity} buffers of {frames} frames"
  | .rendererStopped quanta => s!"Render thread stopped after {quanta} quanta"
  | .rendererPanicked => "Render thread panicked"
  | .limiter name report => limiterText name report
  | .buffersMissing recovered capacity =>
    s!"{channelName}: Recovered {recovered} of {capacity} buffers on close"
  | .closed model frames => s!"{channelName}: Closed {model} after {frames} frames"
  | .messageDropped word =>
    let digits := Text.hexWord word
    s!"{channelName}: Dropped message {digits} while closed"
  | .sysexDropped size => s!"{channelName}: Dropped {size} byte sysex while closed"
  | .channelAdded name => s!"Added mixer channel {name}"
  | .failure chain => ": ".intercalate chain

/-- The line of an event: its level and its text. -/
def line (e : Log α) : String := e.level.name ++ " " ++ e.text

end Log

end SynthBridge
