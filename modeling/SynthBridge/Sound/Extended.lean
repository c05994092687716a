/-!
# Exact sample values

A sample value read exactly: a rational number, one of the two infinities, or no number at
all. The operations follow the usual rules of binary arithmetic for these special values,
without any rounding; there is one zero, and a quotient by it is infinite with the sign of
the dividend.

The exact values serve twice: they are the values that samples of limited precision stand
for, and they are samples themselves, on which the limiter can be studied free of rounding.
-/

namespace SynthBridge

/-- A rational number, an infinity, or no number. -/
inductive Extended
  /-- The result of an operation without a value. -/
  | nan
  | infinite (negative : Bool)
  | finite (q : Rat)
  deriving DecidableEq

namespace Extended

instance : Inhabited Extended := ⟨.nan⟩

/-- The infinity with the sign of `q`. -/
def signedInfinity (q : Rat) (flip : Bool) : Extended := .infinite (decide (q < 0) != flip)

/-- Opposite infinities have no sum. -/
protected def add : Extended → Extended → Extended
  | .nan, _ | _, .nan => .nan
  | .infinite s, .infinite t => if s = t then .infinite s else .nan
  | .infinite s, .finite _ => .infinite s
  | .finite _, .infinite s => .infinite s
  | .finite p, .finite q => .finite (p + q)

protected def neg : Extended → Extended
  | .nan => .nan
  | .infinite s => .infinite !s
  | .finite q => .finite (-q)

protected def sub (x y : Extended) : Extended := x.add y.neg

/-- An infinity times zero has no value. -/
protected def mul : Extended → Extended → Extended
  | .nan, _ | _, .nan => .nan
  | .infinite s, .infinite t => .infinite (s != t)
  | .infinite s, .finite q => if q = 0 then .nan else signedInfinity q s
  | .finite q, .infinite s => if q = 0 then .nan else signedInfinity q s
  | .finite p, .finite q => .finite (p * q)

/-- Neither zero by zero nor an infinity by an infinity has a value. -/
protected def div : Extended → Extended → Extended
  | .nan, _ | _, .nan => .nan
  | .infinite _, .infinite _ => .nan
  | .infinite s, .finite q => signedInfinity q s
  | .finite _, .infinite _ => .finite 0
  | .finite p, .finite q =>
    if q = 0 then (if p = 0 then .nan else signedInfinity p false) else .finite (p / q)

instance : Add Extended := ⟨Extended.add⟩
instance : Sub Extended := ⟨Extended.sub⟩
instance : Mul Extended := ⟨Extended.mul⟩
instance : Div Extended := ⟨Extended.div⟩

def abs : Extended → Extended
  | .nan => .nan
  | .infinite _ => .infinite false
  | .finite q => .finite q.abs

/-- The strict order; nothing is comparable to `nan`. -/
def lt : Extended → Extended → Bool
  | .nan, _ | _, .nan => false
  | .infinite s, .infinite t => s && !t
  | .infinite s, .finite _ => s
  | .finite _, .infinite t => !t
  | .finite p, .finite q => decide (p < q)

def isNaN : Extended → Bool
  | .nan => true
  | _ => false

def isFinite : Extended → Bool
  | .finite _ => true
  | _ => false

/-- The integer nearest to `q`, a half going away from zero. -/
def roundHalfAway (q : Rat) : Int :=
  if q < 0 then -((-q + 1 / 2).floor) else (q + 1 / 2).floor

/-- The 16-bit sample nearest to a value: a half goes away from zero, what lies outside the
range of a sample goes to its nearer end, and `nan` is silence. -/
def toSample : Extended → Int16
  | .nan => 0
  | .infinite negative => if negative then -32768 else 32767
  | .finite q => Int16.ofInt (max (-32768) (min 32767 (roundHalfAway q)))

end Extended

end SynthBridge
