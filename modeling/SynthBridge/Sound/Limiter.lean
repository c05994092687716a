import SynthBridge.Sound.Amplitude

/-!
# The soft limiter

Rendered audio lies around `-1 .. 1`; playback takes 16-bit samples. The limiter scales each
channel into the playback range, and where a block would leave that range it attenuates the
whole block so that its peak lands on the upper end. The attenuation then eases back to
unity, a tenth of the remaining gap per block.

The main definitions are `Limiter.setLevels`, `Limiter.process` for one block of interleaved
stereo samples, and `Limiter.report`, how often the limiter engaged.
-/

namespace SynthBridge

open Amplitude

/-- One value for each of the two channels. -/
structure Stereo (α : Type) where
  left : α
  right : α
  deriving DecidableEq, Repr

/-- A stereo soft limiter with its statistics. -/
structure Limiter (α : Type) where
  /-- Heads the line that reports the statistics. -/
  name : String
  /-- What a full-scale sample of each channel is scaled to. -/
  range : Stereo α
  /-- The factor on the whole block; unity while not limiting. -/
  attenuation : α
  /-- Blocks processed, and how many of them were limited. -/
  blocks : Nat
  limited : Nat
  /-- The largest scaled magnitude seen. -/
  peak : α

namespace Limiter

variable {α : Type} [Amplitude α]

/-- A limiter at unity levels that has seen nothing. -/
def new (name : String) : Limiter α where
  name := name
  range := ⟨fullScale, fullScale⟩
  attenuation := unity
  blocks := 0
  limited := 0
  peak := zero

/-- What a channel at `level` scales a full-scale sample to. A level that is negative, infinite
or not a number is silent. -/
def channelRange (range level : α) : α :=
  if isFinite level then larger level zero * range else zero

/-- Sets both channels' levels, unity being 1, and the range that they scale into. -/
def setLevels (l : Limiter α) (levels : Stereo α) (range : α) : Limiter α :=
  { l with range := ⟨channelRange range levels.left, channelRange range levels.right⟩ }

/-- Both channels' levels, as ratios of the playback range. -/
def levels (l : Limiter α) : Stereo α :=
  ⟨l.range.left / fullScale, l.range.right / fullScale⟩

/-! ## One block -/

/-- The samples of a block, each scaled into its channel's range. -/
def scaled (range : Stereo α) : List α → List α
  | left :: right :: rest => left * range.left :: right * range.right :: scaled range rest
  | _ => []

/-- The largest magnitude among `samples`; zero if there is none. -/
def blockPeak (samples : List α) : α :=
  samples.foldl (fun peak x => larger peak (magnitude x)) zero

/-- One step of the attenuation back to unity. -/
def ease (attenuation : α) : α := attenuation + (unity - attenuation) * release

/-- Limits one block of interleaved stereo frames. -/
def process (l : Limiter α) (block : List α) : Limiter α × List Int16 :=
  let samples := scaled l.range block
  let peak := blockPeak samples
  let limiting := lt fullScale (peak * l.attenuation)
  let attenuation := if limiting then fullScale / peak else l.attenuation
  ({ l with
      attenuation := ease attenuation
      blocks := l.blocks + 1
      limited := if limiting then l.limited + 1 else l.limited
      peak := larger l.peak peak },
    samples.map fun x => toSample (x * attenuation))

/-- Limits the first `frames` frames of `input` over the start of `output`; `none` if either is
too short to hold them. -/
def processInto? (l : Limiter α) (input : List α) (frames : Nat) (output : List Int16) :
    Option (Limiter α × List Int16) :=
  if 2 * frames ≤ input.length ∧ 2 * frames ≤ output.length then
    let (l, samples) := l.process (input.take (2 * frames))
    some (l, samples ++ output.drop (2 * frames))
  else
    none

/-- Limits the same block `times` times over one output. -/
def processTimes? (l : Limiter α) (times : Nat) (input : List α) (frames : Nat)
    (output : List Int16) : Option (Limiter α × List Int16) :=
  match times with
  | 0 => some (l, output)
  | times + 1 =>
    (l.processInto? input frames output).bind fun (l, output) =>
      l.processTimes? times input frames output

/-! ## Statistics -/

/-- The fraction of processed blocks that were limited. -/
def limitedRatio (l : Limiter α) : α :=
  if l.blocks = 0 then zero else ofCount l.limited / ofCount l.blocks

/-- How often a limiter engaged since it was last reset. -/
inductive Report (α : Type)
  | quiet (blocks : Nat)
  /-- With the limited share in percent, the peak, and the peak as a multiple of the playback
  range. -/
  | engaged (limited blocks : Nat) (percent peak excess : α)

def report (l : Limiter α) : Report α :=
  if l.limited = 0 then .quiet l.blocks
  else .engaged l.limited l.blocks (l.limitedRatio * ofCount 100) l.peak (l.peak / fullScale)

/-- Clears the statistics and the attenuation and keeps the levels. -/
def reset (l : Limiter α) : Limiter α :=
  { l with attenuation := unity, blocks := 0, limited := 0, peak := zero }

end Limiter

/-! ## Volumes

A mixer asks for a left and a right volume; the engine takes one gain. The louder side becomes the
gain and each side's level is its ratio to it. Where the louder side is inaudible or not finite both
sides are silenced, so nothing is ever divided by zero. -/

/-- What a pair of volumes asks of the engine and of the limiter. -/
structure Volume (α : Type) where
  gain : α
  levels : Stereo α

namespace Volume

variable {α : Type} [Amplitude α]

/-- Splits a left and a right volume into a common gain and levels relative to it. -/
def split (left right : α) : Volume α :=
  let gain := larger left right
  if isFinite gain && lt threshold gain then ⟨gain, left / gain, right / gain⟩
  else ⟨zero, zero, zero⟩

end Volume

end SynthBridge
