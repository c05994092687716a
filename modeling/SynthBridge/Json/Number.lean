import SynthBridge.Decimal.Shortest
import SynthBridge.Json.Text

/-!
# Numbers in JSON

No setting is a number, so the value of one is wanted only to name it where something else was
expected. A number without fraction and exponent that fits into 64 bits is an integer. Every
other is a float: of its digits as many are taken up as fit into 64 bits, and the significand
is then scaled by a power of ten.

`numberAt` reads a number, and `numberLength` tells how long one is that is skipped.
-/

namespace SynthBridge.Json

/-- What a number comes to. -/
abbrev NumberOutcome := Except Fault Unexpected

def startsWithDigit (cs : List Char) : Bool := cs.head?.any Char.isDigit

def digitValue (c : Char) : Nat := c.toNat - '0'.toNat

/-! ## Floats -/

/-- The float nearest to a power of ten. -/
def powerOfTen (k : Nat) : Float := Float.ofScientific 1 false k

/-- The largest power of ten that is a float. -/
def maxPower : Nat := 308

/-- A float scaled down by a power of ten, in steps of the largest one. -/
def scaleDown (x : Float) (k : Nat) : Float :=
  if k ≤ maxPower then x / powerOfTen k
  else if x == 0 then x
  else scaleDown (x / powerOfTen maxPower) (k - maxPower)
termination_by k
decreasing_by
  simp only [maxPower] at *
  omega

/-- The float that a significand and a power of ten stand for. -/
def floatOf (negative : Bool) (significand : Nat) (exponent : Int) : NumberOutcome :=
  let x := significand.toUInt64.toFloat
  let signed (x : Float) : NumberOutcome :=
    .ok (.float (Decimal.shortestText (if negative then -x else x)))
  if exponent < 0 then signed (scaleDown x exponent.natAbs)
  else if exponent ≤ maxPower then
    let x := x * powerOfTen exponent.natAbs
    if x.isInf then .error .numberOutOfRange else signed x
  else if x == 0 then signed x
  else .error .numberOutOfRange

/-! ## Parts of a number -/

/-- Takes up digits as long as the significand stays below `2 ^ 64`: the new significand, the
number of digits taken, and what follows them. -/
def takeDigits (significand : Nat) : List Char → Nat × Nat × List Char
  | [] => (significand, 0, [])
  | c :: rest =>
    let next := significand * 10 + digitValue c
    if c.isDigit && next < 0x10000000000000000 then
      let (s, n, rest) := takeDigits next rest
      (s, n + 1, rest)
    else (significand, 0, c :: rest)

/-- The sign of an exponent and what follows it. -/
def exponentSign : List Char → Bool × List Char
  | '+' :: rest => (false, rest)
  | '-' :: rest => (true, rest)
  | cs => (false, cs)

/-- Exponents beyond this are not told apart. -/
def maxExponent : Nat := 0x7fffffff

/-- The number whose exponent begins here, behind its letter; the digits before it are scaled
by `10 ^ shift`. -/
def exponentAt (negative : Bool) (significand : Nat) (shift : Int) (cs : List Char) :
    NumberOutcome :=
  let (down, cs) := exponentSign cs
  if cs.isEmpty then .error .eofValue
  else if !startsWithDigit cs then .error .invalidNumber
  else
    let exponent := (cs.takeWhile Char.isDigit).foldl (fun n c => n * 10 + digitValue c) 0
    if maxExponent < exponent then
      if significand ≠ 0 ∧ !down then .error .numberOutOfRange else floatOf negative 0 0
    else floatOf negative significand (shift + if down then -(exponent : Int) else exponent)

/-- A float of which the digits have been read. -/
def scaledAt (negative : Bool) (significand : Nat) (shift : Int) : List Char → NumberOutcome
  | 'e' :: rest | 'E' :: rest => exponentAt negative significand shift rest
  | _ => floatOf negative significand shift

/-- The number whose places begin here, behind the point. -/
def placesAt (negative : Bool) (significand : Nat) (shift : Int) (cs : List Char) :
    NumberOutcome :=
  if cs.isEmpty then .error .eofValue
  else if !startsWithDigit cs then .error .invalidNumber
  else
    let (significand, places, rest) := takeDigits significand cs
    scaledAt negative significand (shift - places) (rest.dropWhile Char.isDigit)

/-- The integer that digits make up. Zero has no negative integer, and none lies below
`-2 ^ 63`. -/
def integerOf (negative : Bool) (significand : Nat) : NumberOutcome :=
  if negative then
    if significand = 0 ∨ 0x8000000000000000 < significand then floatOf true significand 0
    else .ok (.integer (-significand))
  else .ok (.integer significand)

/-- A number of which the digits before the point have been read, `more` of them too many to
be taken up. -/
def restAt (negative : Bool) (significand more : Nat) : List Char → NumberOutcome
  | '.' :: rest => placesAt negative significand more rest
  | cs =>
    if more = 0 && !(cs.head? == some 'e' || cs.head? == some 'E') then
      integerOf negative significand
    else scaledAt negative significand more cs

/-- The number that begins here, behind its sign. -/
def numberAt (negative : Bool) (cs : List Char) : NumberOutcome :=
  match cs with
  | [] => .error .eofValue
  | c :: rest =>
    if !c.isDigit then .error .invalidNumber
    else if c = '0' then
      if startsWithDigit rest then .error .invalidNumber else restAt negative 0 0 rest
    else
      let (significand, _, rest) := takeDigits 0 cs
      restAt negative significand (rest.takeWhile Char.isDigit).length
        (rest.dropWhile Char.isDigit)

/-! ## Skipping -/

/-- The number of digits at the front of a text; there has to be one. -/
def digitsLength (cs : List Char) : Except Fault Nat :=
  if startsWithDigit cs then .ok (cs.takeWhile Char.isDigit).length else .error .invalidNumber

/-- The length of an exponent, if there is one. -/
def exponentLength (cs : List Char) : Except Fault Nat :=
  match cs with
  | [] => .ok 0
  | c :: rest =>
    if c = 'e' || c = 'E' then
      let digits := (exponentSign rest).2
      (digitsLength digits).map (· + (cs.length - digits.length))
    else .ok 0

/-- The length of what follows the digits before the point. -/
def fractionLength (cs : List Char) : Except Fault Nat :=
  match cs with
  | '.' :: rest => do
    let places ← digitsLength rest
    let exponent ← exponentLength (rest.drop places)
    .ok (1 + places + exponent)
  | _ => exponentLength cs

/-- The length of the number that begins here, behind its sign. -/
def numberLength (cs : List Char) : Except Fault Nat := do
  let whole ← digitsLength cs
  if cs.head? == some '0' && 1 < whole then .error .invalidNumber
  else
    let fraction ← fractionLength (cs.drop whole)
    .ok (whole + fraction)

end SynthBridge.Json
