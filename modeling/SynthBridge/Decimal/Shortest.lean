/-!
# Shortest decimal text of a float

A finite 64-bit float stands for `m * 2 ^ q`, and the reals that round to it form an interval
around that value, with its ends if `m` is even. The digits written are the fewest that fall
into the interval; of two such numbers the nearer one is taken, and of two that are equally
near the one with the even last digit.

Numbers from `1e-5` up to `1e16` are written in full, with at least one place; all others have
one digit before the point and an exponent with its sign.
-/

namespace SynthBridge

namespace Decimal

/-- A value and the interval that rounds to it, over one denominator. -/
structure Interval where
  low : Nat
  value : Nat
  high : Nat
  den : Nat
  /-- Whether the ends belong to the interval. -/
  closed : Bool

/-- The interval of a float with significand `m` and biased exponent `e`. Below a power of two
the floats lie twice as dense. -/
def Interval.ofFloat (m e : Nat) : Interval :=
  let lowGap := if m = 0x10000000000000 && 1 < e then 1 else 2
  let up := 1 <<< (e - 1077)
  let den := 1 <<< (1077 - e)
  ⟨(4 * m - lowGap) * up, 4 * m * up, (4 * m + 2) * up, den, m % 2 == 0⟩

/-- Whether `c` times `10 ^ p` lies in the interval. -/
def Interval.covers (i : Interval) (c : Nat) (p : Int) : Bool :=
  let num := c * Nat.pow 10 p.toNat * i.den
  let scale := Nat.pow 10 (-p).toNat
  if i.closed then i.low * scale ≤ num && num ≤ i.high * scale
  else i.low * scale < num && num < i.high * scale

/-- The exponent of the leading digit of `num / den`, searched downwards from `bound`. -/
def leadingExponent (num den : Nat) : Nat → Int → Int
  | 0, p => p
  | fuel + 1, p =>
    if den * Nat.pow 10 p.toNat ≤ num * Nat.pow 10 (-p).toNat then p
    else leadingExponent num den fuel (p - 1)

/-- The number with `n` digits that lies in the interval and is nearest to the value, with the
exponent of its last digit; the two neighbours of the value are the only ones to look at. -/
def Interval.withDigits? (i : Interval) (lead : Int) (n : Nat) : Option (Nat × Int) :=
  let p := lead - (n - 1 : Nat)
  let num := i.value * Nat.pow 10 (-p).toNat
  let den := i.den * Nat.pow 10 p.toNat
  let below := num / den
  let twice := 2 * (num % den)
  let downFirst := twice < den || (twice == den && below % 2 == 0)
  match i.covers below p, i.covers (below + 1) p with
  | true, true => some (if downFirst then below else below + 1, p)
  | true, false => some (below, p)
  | false, true => some (below + 1, p)
  | false, false => none

/-- The fewest digits that fall into the interval. -/
def Interval.shortest (i : Interval) : Nat × Int :=
  let lead := leadingExponent i.value i.den 700 320
  ((List.range 17).findSome? fun n => i.withDigits? lead (n + 1)).getD
    (i.value / i.den, 0)

/-- A number whose digits are `digits`, the first of them with exponent `lead`. -/
def layOut (digits : List Char) (lead : Int) : String :=
  let n := digits.length
  if -5 ≤ lead ∧ lead ≤ 15 then
    if lead < 0 then
      String.ofList (['0', '.'] ++ List.replicate ((-lead).toNat - 1) '0' ++ digits)
    else
      let whole := lead.toNat + 1
      if n ≤ whole then String.ofList (digits ++ List.replicate (whole - n) '0' ++ ['.', '0'])
      else String.ofList (digits.take whole ++ ['.'] ++ digits.drop whole)
  else
    let fraction := if n ≤ 1 then [] else '.' :: digits.drop 1
    let sign := if lead < 0 then '-' else '+'
    String.ofList (digits.take 1 ++ fraction ++ ['e', sign] ++ (toString lead.natAbs).toList)

/-- The digits of a number without the zeros at its end. -/
def significantDigits (n : Nat) : List Char :=
  ((toString n).toList.reverse.dropWhile (· == '0')).reverse

/-- The shortest text of a float. -/
def shortestText (x : Float) : String :=
  let bits := x.toBits
  let sign := if bits >>> 63 == 1 then "-" else ""
  let e := ((bits >>> 52) &&& 0x7ff).toNat
  let fraction := (bits &&& 0xfffffffffffff).toNat
  if e = 0x7ff then (if fraction = 0 then sign ++ "inf" else "NaN")
  else if e = 0 ∧ fraction = 0 then sign ++ "0.0"
  else
    let m := if e = 0 then fraction else fraction + 0x10000000000000
    let (n, p) := (Interval.ofFloat m (max e 1)).shortest
    sign ++ layOut (significantDigits n) (p + ((toString n).length - 1 : Nat))

end Decimal

end SynthBridge
