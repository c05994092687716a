import SynthBridge.Flow.Pipeline

/-!
# Playback

A player owns one buffer at a time and hands its frames out. Where the buffer is used up it
goes to backstock and the next one is taken from the playable queue, with a wait if there is
none. Once the pipeline is stopped and empty, what is still asked for is silence.

Priming and pulling are tasks of several steps, since other threads act between them.
`Player.advance` is one step of the task at hand; it has no result while the task has to wait
and when there is no task. `Player.run` takes steps as long as there are any.
-/

namespace SynthBridge

/-- A position in the stream of rendered buffers. -/
structure Cursor where
  /-- Buffers fully played since the player was primed. -/
  buffersPlayed : Nat := 0
  /-- Frames already played from the current buffer. -/
  frameOffset : Nat := 0
  deriving DecidableEq, Repr

/-- Frames played in all, as a 64-bit count. -/
def Cursor.playedFrames (c : Cursor) (frames : Nat) : UInt64 :=
  UInt64.ofNat (c.buffersPlayed * frames + c.frameOffset)

namespace Player

/-- What a player is in the middle of. -/
inductive Task
  | idle
  /-- Swapping the first, silent buffer for a rendered one. -/
  | priming
  /-- Filling a region of `length` samples: `wanted` frames are still to come after the
  samples in `out`. -/
  | pulling (wanted : Nat) (out : Array Int16) (length : Nat)
  /-- A pull is over and has filled its region so. -/
  | pulled (out : List Int16)
  deriving DecidableEq

end Player

/-- The owner of the buffer that is being played. -/
structure Player where
  current : Option Buffer
  cursor : Cursor
  task : Player.Task := .idle
  deriving DecidableEq

namespace Player

/-- A player that holds a silent buffer, already used up. -/
def new (p : Pipeline) : Player × Pipeline :=
  let (b, p) := p.newBuffer
  ({ current := some b, cursor := { frameOffset := p.frames } }, p)

def hasBuffer (pl : Player) : Bool := pl.current.isSome

/-- Whether no prime and no pull is under way. -/
def isFree (pl : Player) : Bool :=
  match pl.task with
  | .idle | .pulled _ => true
  | .priming | .pulling .. => false

/-- Begins to wait for the first rendered buffer. -/
def startPrime (pl : Player) : Player := { pl with task := .priming }

/-- Begins to fill a region of `length` samples. -/
def startPull (pl : Player) (length : Nat) : Player :=
  { pl with task := .pulling (length / 2) #[] length }

/-- Publishes how far playback has come. -/
def publish (pl : Player) (p : Pipeline) : Pipeline :=
  { p with played := pl.cursor.playedFrames p.frames }

/-- The end of a prime: the position is the start of the stream, whatever was played. -/
def finishPrime (pl : Player) (p : Pipeline) : Player × Pipeline :=
  let pl := { pl with cursor := {}, task := .idle }
  (pl, pl.publish p)

/-- The end of a pull: frames never delivered and an odd last sample are silence. -/
def finishPull (pl : Player) (out : Array Int16) (length : Nat) (p : Pipeline) :
    Player × Pipeline :=
  let pl := { pl with task := .pulled (out.toList ++ List.replicate (length - out.size) 0) }
  (pl, pl.publish p)

/-- The next `n` frames of a buffer of which `offset` frames are played. -/
def slice (b : Buffer) (offset n : Nat) : List Int16 :=
  (b.samples.drop (2 * offset)).take (2 * n)

/-- Gives a spent buffer back, if backstock has room for it. -/
def giveBack? (pl : Player) (spent : Buffer) (p : Pipeline) : Option (Player × Pipeline) :=
  (p.backstock.put? spent).map fun q => ({ pl with current := none }, { p with backstock := q })

/-- One step of the task at hand. -/
def advance (pl : Player) (p : Pipeline) : Option (Player × Pipeline) :=
  match pl.task with
  | .idle | .pulled _ => none
  | .priming =>
    match pl.current with
    | some spent => pl.giveBack? spent p
    | none =>
      match p.playable.take with
      | .item b rest => some (finishPrime { pl with current := some b } { p with playable := rest })
      | .nothing => some (pl.finishPrime p)
      | .wait => none
  | .pulling 0 out length => some (pl.finishPull out length p)
  | .pulling (wanted + 1) out length =>
    match pl.current with
    | some b =>
      if pl.cursor.frameOffset < p.frames then
        let n := min (p.frames - pl.cursor.frameOffset) (wanted + 1)
        some ({ pl with
          cursor.frameOffset := pl.cursor.frameOffset + n
          task := .pulling (wanted + 1 - n) (out ++ slice b pl.cursor.frameOffset n) length }, p)
      else pl.giveBack? b p
    | none =>
      match p.playable.take with
      | .item b rest =>
        some ({ pl with current := some b, cursor := ⟨pl.cursor.buffersPlayed + 1, 0⟩ },
          { p with playable := rest })
      | .nothing => some (pl.finishPull out length p)
      | .wait => none

/-- Takes steps until the task is over or has to wait, at most `fuel` of them. -/
def run : Nat → Player → Pipeline → Player × Pipeline
  | 0, pl, p => (pl, p)
  | fuel + 1, pl, p =>
    match pl.advance p with
    | none => (pl, p)
    | some (pl, p) => run fuel pl p

end Player

end SynthBridge
