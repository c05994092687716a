import SynthBridge.Engine.Basic
import SynthBridge.Text.Blank
import SynthBridge.Text.Quoted

/-!
# An engine that follows a script

An engine without synthesis, for trying out everything around one. A ROM file is what its text
says; the text is its id. Text with a bar holds a control id before the first bar and a PCM id
after it. Rendering repeats a table of samples under the output gain, and may be told to fail
at a certain call.

`Scripted.engine` is the record of its operations under a `Script`.
-/

namespace SynthBridge

/-- What the engines of a session are told to do. -/
structure Script (α : Type) where
  /-- Texts of ROMs that are identified but not accepted. -/
  reject : List String := []
  /-- The code with which opening is refused. -/
  openError : Option Int := none
  /-- The samples that a new engine renders over and over. -/
  wave : Array α
  /-- The render call, counted from 1, in which a new engine fails. -/
  failAt : Option Nat := none

namespace Scripted

/-- The rate of the engine's own timestamps. -/
def timestampRate : Nat := 32000

structure State (α : Type) where
  wave : Array α
  failAt : Option Nat
  gain : α
  /-- Samples rendered and render calls made so far. -/
  rendered : Nat := 0
  renders : Nat := 0
  controlId : Option String := none
  rate : UInt32 := 32000

/-! ## ROM files -/

/-- The text of a ROM file, if the file is one. -/
def romText (t : FileTree) (path : String) : Option String :=
  match t.readText path with
  | .ok text =>
    let text := Text.trim text
    if text.isEmpty then none else some text
  | .error _ => none

/-- An id, unless it is empty. -/
def nonEmpty (id : String) : Option String := if id.isEmpty then none else some id

/-- The ids that a ROM of the given text reports. -/
def infoOfText (text : String) : RomInfo :=
  match Text.splitOnce? '|' text with
  | some (control, pcm) => ⟨nonEmpty control, nonEmpty pcm⟩
  | none => if text.startsWith "ctrl" then ⟨some text, none⟩ else ⟨none, some text⟩

/-- A ROM with a control id is a control ROM. -/
def kindOfText (text : String) : RomKind :=
  if (infoOfText text).control.isSome then .control else .pcm

variable {α : Type}

/-- Accepts a ROM of the given kind; a control ROM is remembered by its text. -/
def accept (s : State α) (text : String) (kind : RomKind) : Option RomKind × State α :=
  (some kind, if kind = .control then { s with controlId := some text } else s)

def add (script : Script α) (s : State α) (t : FileTree) (path : String) :
    Option RomKind × State α :=
  match romText t path with
  | none => (none, s)
  | some text => if text ∈ script.reject then (none, s) else accept s text (kindOfText text)

/-- Two halves of one kind make up one ROM, named by the first. -/
def merge (script : Script α) (s : State α) (t : FileTree) (first second : String) :
    Option RomKind × State α :=
  match romText t first, romText t second with
  | some a, some b =>
    if kindOfText a ≠ kindOfText b ∨ a ∈ script.reject ∨ b ∈ script.reject then (none, s)
    else accept s a (kindOfText a)
  | _, _ => (none, s)

/-! ## Audio -/

variable [Amplitude α]

/-- The sample at a position of the stream. -/
def sampleAt (s : State α) (k : Nat) : α :=
  s.wave.getD (k % s.wave.size) Amplitude.zero * s.gain

/-- The next frames, unless this call is the one that fails. -/
def render (s : State α) (frames : Nat) : Option (List α × State α) :=
  if s.failAt = some (s.renders + 1) then none
  else
    some ((List.range (2 * frames)).map fun i => sampleAt s (s.rendered + i),
      { s with rendered := s.rendered + 2 * frames, renders := s.renders + 1 })

theorem length_render (s : State α) (frames : Nat) (samples : List α) (s' : State α)
    (h : render s frames = some (samples, s')) : samples.length = 2 * frames := by
  unfold render at h
  split at h
  · cases h
  · cases h
    simp

/-- The audio of a scripted engine. -/
def source : Source α (State α) := ⟨render, length_render⟩

/-- A new engine with a table of samples. -/
def new (wave : Array α) (failAt : Option Nat) : State α :=
  { wave, failAt, gain := Amplitude.unity }

/-- The engine that follows a script. -/
def engine (script : Script α) : Engine α (State α) where
  toSource := source
  create := new script.wave script.failAt
  identify _ t path := (romText t path).map infoOfText
  add := add script
  merge := merge script
  discard s := { s with controlId := none }
  describe s := s.controlId.map ("Fake " ++ ·)
  configure s _ rate := { s with rate }
  start s := (script.openError, s)
  timestamp s frames := UInt32.ofNat (frames.toNat * timestampRate / s.rate.toNat)
  message s _ _ := s
  sysex s _ _ := s
  gain s value := { s with gain := value }

/-! ## What was asked of it -/

def kindName : Option RomKind → String
  | some .control => "control"
  | some .pcm => "pcm"
  | none => "none"

/-- The eight hexadecimal digits of the bits of a float. -/
def bitsText (x : Float32) : String :=
  if x.isNaN then "nan"
  else if x == 0 then "0x00000000"
  else "0x" ++ Text.hexWord x.toBits

/-- The line of a call in a record of what was asked; render calls are not recorded. The tree
is the one in which files were identified. -/
def callLine? (t : FileTree) : Call Float32 → Option String
  | .create => some "create"
  | .identify path _ =>
    let text := (romText t path).getD "none"
    some s!"identify {path} => {text}"
  | .add path kind =>
    let kind := kindName kind
    some s!"add {path} => {kind}"
  | .merge first second kind =>
    let kind := kindName kind
    some s!"merge {first} + {second} => {kind}"
  | .discard => some "discard"
  | .describe => some "describe"
  | .configure rate s =>
    let analog := s.analogMode.name
    let dac := s.dacMode.name
    let quality := s.rateQuality.name
    let ramp := s.niceAmpRamp
    let panning := s.nicePanning
    let mixing := s.nicePartialMixing
    some s!"configure {rate} {analog} {dac} {quality} {ramp} {panning} {mixing}"
  | .start none => some "open => ok"
  | .start (some code) => some s!"open => {code}"
  | .render => none
  | .gain value => some ("gain " ++ bitsText value)
  | .timestamp frames => some s!"convert {frames}"
  | .message word time =>
    let digits := Text.hexWord word
    some s!"msg {digits} @{time}"
  | .sysex bytes time =>
    let digits := Text.hexBytes bytes
    some s!"sysex {digits} @{time}"
  | .close => some "close"

end Scripted

end SynthBridge
