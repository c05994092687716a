import SynthBridge.Sound.Amplitude

/-!
# Streams of a channel

The device plays a channel as an endless stream of samples. The stream asks the channel's
owner for one quantum of interleaved stereo samples at a time and hands them out one by one.
While the channel is disabled quanta are silence, and the owner is not asked; once the
channel is removed there are no more samples.

`Stream.next` is one sample. The switches are the handle's, who may throw them between any two
samples; they are looked at when a quantum is begun and, for the end, at every sample.
-/

namespace SynthBridge

/-- What the holder of a channel and its stream share. -/
structure Switches where
  enabled : Bool := false
  removed : Bool := false
  deriving DecidableEq, Repr

/-- Something that fills regions with samples. -/
structure Filler (π : Type) where
  /-- Fills a region of the given length. -/
  fill : π → Nat → List Int16 × π
  /-- The region is always filled completely. -/
  length_fill : ∀ s n, (fill s n).1.length = n

/-- The stream of a channel. -/
structure Stream (π : Type) where
  /-- Frames per quantum. -/
  frames : Nat
  /-- Samples of the present quantum that are still to be played. -/
  pending : List Int16 := []
  /-- The state of whoever fills the quanta. -/
  owner : π

namespace Stream

variable {α π : Type}

/-- A new quantum. -/
def quantum (F : Filler π) (switches : Switches) (s : Stream π) : List Int16 × Stream π :=
  if switches.enabled then
    let (samples, owner) := F.fill s.owner (2 * s.frames)
    (samples, { s with owner })
  else (List.replicate (2 * s.frames) 0, s)

/-- The next sample, if the stream goes on. -/
def next [Amplitude α] (F : Filler π) (switches : Switches) (s : Stream π) :
    Option α × Stream π :=
  if switches.removed then (none, s)
  else
    let (samples, s) := if s.pending.isEmpty then s.quantum F switches else (s.pending, s)
    match samples with
    | [] => (none, s)
    | x :: rest => (some (Amplitude.ofSample x), { s with pending := rest })

/-- Up to `n` samples, the last one first, before those of `done`. -/
def takeOnto [Amplitude α] (F : Filler π) (switches : Switches) :
    (n : Nat) → Stream π → List α → List α × Stream π
  | 0, s, done => (done, s)
  | n + 1, s, done =>
    match s.next F switches with
    | (some x, s) => takeOnto F switches n s (x :: done)
    | (none, s) => (done, s)

/-- Up to `n` samples. -/
def take [Amplitude α] (F : Filler π) (switches : Switches) (s : Stream π) (n : Nat) :
    List α × Stream π :=
  let (samples, s) := s.takeOnto F switches n []
  (samples.reverse, s)

end Stream

/-! ## Patterns -/

/-- A filler that repeats a table of values, for trying out streams. Each call takes the next value
of the table for its whole region, or runs through the table from there. -/
structure Pattern where
  values : Array Int16
  /-- Whether a region runs through the table. -/
  running : Bool
  /-- Calls made so far. -/
  calls : Nat := 0

namespace Pattern

/-- The sample at a place of the next region. -/
def sampleAt (p : Pattern) (i : Nat) : Int16 :=
  p.values.getD ((p.calls + if p.running then i else 0) % p.values.size) 0

def filler : Filler Pattern where
  fill p n := ((List.range n).map p.sampleAt, { p with calls := p.calls + 1 })
  length_fill p n := by simp

end Pattern

end SynthBridge
