import SynthBridge.Log
import SynthBridge.Output.Stream

/-!
# The mixing desk

A mixer that plays every channel on the default output device. Adding a channel starts a
stream and gives out a handle to it. The handle switches the channel on and off, changes its
level, and removes the channel when it is dropped.

A device may refuse to play. Whoever asked for the desk's own kind of handle is told; anyone
else gets a handle to a channel that is never heard. Levels are changed through handles of the
desk's own kind only.
-/

namespace SynthBridge

/-- Why the device cannot be used. -/
inductive DeviceFault
  | noDevice
  deriving DecidableEq, Repr

def DeviceFault.name : DeviceFault → String
  | .noDevice => "NoDevice"

/-- Why there is no sound. -/
inductive OutputFault
  | cannotOpen (cause : DeviceFault)
  | cannotPlay (channel : String) (cause : DeviceFault)
  deriving DecidableEq, Repr

namespace OutputFault

/-- What went wrong, and beneath it the cause. -/
def chain : OutputFault → List String
  | .cannotOpen cause => ["Failed to open audio output", cause.name]
  | .cannotPlay channel cause => [s!"Failed to start playback of channel {channel}", cause.name]

def message (f : OutputFault) : String := ": ".intercalate f.chain

end OutputFault

/-- A channel of the desk. -/
structure Channel (π : Type) where
  /-- Who fills the quanta while nothing is played. -/
  owner : π
  /-- What the device plays, if it does. -/
  stream : Option (Stream π)
  /-- Whether the handle is of the desk's own kind. -/
  own : Bool
  /-- Whether there is still a handle. -/
  held : Bool
  switches : Switches := {}
  /-- Who is told of level changes. -/
  listener : Option String := none

/-- The channels of a desk, in the order in which they were added. -/
structure Desk (π : Type) where
  channels : List (Channel π) := []

namespace Desk

variable {α π : Type}

/-- The rate of the output, its number of channels, and the frames of a quantum. -/
def rate : Nat := 44100

def width : Nat := 2

def quantumFrames : Nat := 1024

/-- A desk on a device that may not be there. -/
def make (device : Option DeviceFault) : Except OutputFault (Desk π) :=
  match device with
  | some cause => .error (.cannotOpen cause)
  | none => .ok {}

def channel? (d : Desk π) (i : Nat) : Option (Channel π) := d.channels[i]?

def push (d : Desk π) (c : Channel π) : Desk π := ⟨d.channels ++ [c]⟩

/-- Changes a channel that still has its handle. -/
def modify (d : Desk π) (i : Nat) (f : Channel π → Channel π) : Desk π :=
  ⟨d.channels.modify i fun c => if c.held then f c else c⟩

/-- Adds a channel on a device that may refuse to play it. -/
def add (d : Desk π) (name : String) (owner : π) (own : Bool) (refusal : Option DeviceFault) :
    Except OutputFault Unit × Desk π × List (Log α) :=
  match refusal with
  | none =>
    (.ok (), d.push { owner, stream := some ⟨quantumFrames, [], owner⟩, own, held := true },
      [.channelAdded name])
  | some cause =>
    let fault := OutputFault.cannotPlay name cause
    if own then
      (.error fault, d.push { owner, stream := none, own, held := false }, [])
    else (.ok (), d.push { owner, stream := none, own, held := true }, [.failure fault.chain])

/-- Switches a channel on or off. -/
def enable (d : Desk π) (i : Nat) (on : Bool) : Desk π :=
  d.modify i fun c => { c with switches := { c.switches with enabled := on } }

/-- Sets who is told of a channel's level. -/
def listen (d : Desk π) (i : Nat) (listener : String) : Desk π :=
  d.modify i fun c => { c with listener := some listener }

/-- Drops the handle of a channel. -/
def drop (d : Desk π) (i : Nat) : Desk π :=
  d.modify i fun c =>
    { c with held := false, listener := none, switches := ⟨false, true⟩ }

/-- The rate that a handle names. -/
def rateOf (d : Desk π) (i : Nat) : Option Nat :=
  (d.channel? i).bind fun c => if c.held then some rate else none

/-- Whether the level of a channel can be changed, and who is told. -/
def levelListener (d : Desk π) (i : Nat) : Option (Option String) :=
  (d.channel? i).bind fun c => if c.held && c.own then some c.listener else none

/-- Whether the device plays a channel. -/
def plays (d : Desk π) (i : Nat) : Bool := ((d.channel? i).bind Channel.stream).isSome

/-- Up to `n` samples of a channel, if it is played. -/
def take [Amplitude α] (F : Filler π) (d : Desk π) (i n : Nat) : Option (List α × Desk π) :=
  (d.channel? i).bind fun c =>
    c.stream.map fun stream =>
      let (samples, stream) := stream.take F c.switches n
      (samples, ⟨d.channels.set i { c with stream := some stream }⟩)

/-- Who fills the quanta of each channel, in their present state. -/
def owners (d : Desk π) : List π :=
  d.channels.map fun c => (c.stream.map Stream.owner).getD c.owner

end Desk

end SynthBridge
