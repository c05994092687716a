import SynthBridge.Sound.Extended

/-!
# Arithmetic of amplitudes

What the audio path needs of a number format: the four operations, magnitude, order, the
two tests for special values and a few constants. The limiter and the volume split are
written over this interface, so they run on 32-bit floats and can be read exactly on
`Extended`.
-/

namespace SynthBridge

/-- A number format in which audio can be scaled. -/
class Amplitude (α : Type) extends Add α, Sub α, Mul α, Div α where
  magnitude : α → α
  /-- The strict order; false whenever an operand is not a number. -/
  lt : α → α → Bool
  isNaN : α → Bool
  /-- Neither infinite nor `nan`. -/
  isFinite : α → Bool
  /-- A natural number, rounded to the format. -/
  ofCount : Nat → α
  /-- The part of the remaining gap to unity that is recovered per block: a tenth. -/
  release : α
  /-- The least gain that counts as audible: `2 ^ -23`. -/
  threshold : α
  /-- The value that a number of the format stands for. -/
  exact : α → Extended

namespace Amplitude

variable {α : Type} [Amplitude α]

def zero : α := ofCount 0

def unity : α := ofCount 1

/-- The upper end of the playback range. -/
def fullScale : α := ofCount 32767

/-- The larger of two numbers, `nan` standing back for the other operand. -/
def larger (x y : α) : α :=
  if isNaN x then y else if isNaN y then x else if lt x y then y else x

/-- The 16-bit sample nearest to a number. -/
def toSample (x : α) : Int16 := (exact x).toSample

/-- A 16-bit sample as a share of the format's unit range. -/
def ofSample (x : Int16) : α :=
  let n := x.toInt
  (if n < 0 then zero - ofCount n.natAbs else ofCount n.natAbs) / ofCount 32768

end Amplitude

instance : Amplitude Extended where
  magnitude := Extended.abs
  lt := Extended.lt
  isNaN := Extended.isNaN
  isFinite := Extended.isFinite
  ofCount n := .finite n
  release := .finite (1 / 10)
  threshold := .finite (1 / 8388608)
  exact := id

/-! ## 32-bit floats

The format the engine renders in. A finite number of the format is `m * 2 ^ (e - 150)`, with the
significand `m` and the biased exponent `e` read off its bits; `Binary32.valueOfBits` computes that
rational. -/

namespace Binary32

/-- The value of the number with the given bits: sign, 8 bits of exponent, 23 bits of
significand. -/
def valueOfBits (bits : UInt32) : Extended :=
  let negative := bits >>> 31 == 1
  let exponent := ((bits >>> 23) &&& 0xff).toNat
  let fraction := (bits &&& 0x7fffff).toNat
  if exponent = 255 then
    if fraction = 0 then .infinite negative else .nan
  else
    let m := if exponent = 0 then fraction else fraction + 8388608
    let scale := max exponent 1
    let magnitude : Rat :=
      if 150 ≤ scale then ((m <<< (scale - 150) : Nat) : Rat) else mkRat m (1 <<< (150 - scale))
    .finite (if negative then -magnitude else magnitude)

end Binary32

instance : Amplitude Float32 where
  magnitude := Float32.abs
  lt := Float32.lt
  isNaN := Float32.isNaN
  isFinite := Float32.isFinite
  ofCount n := n.toUInt64.toFloat32
  release := Float32.ofBits 0x3dcccccd
  threshold := Float32.ofBits 0x34000000
  exact x := Binary32.valueOfBits x.toBits

end SynthBridge
