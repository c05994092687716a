import SynthBridge.Sound.Extended

/-!
# Numbers with a fixed number of places

A value is written with a given number of decimal places, rounded from its exact value; where
two such numbers are equally near, the one with the even last digit is taken. Infinities are
written `inf` and `-inf`, no number is `NaN`.
-/

namespace SynthBridge

namespace Decimal

/-- The natural number nearest to `num / den`, a tie going to the even neighbour. -/
def roundDiv (num den : Nat) : Nat :=
  let q := num / den
  let twice := 2 * (num % den)
  if twice < den then q
  else if den < twice then q + 1
  else if q % 2 = 0 then q else q + 1

/-- The decimal digits of `n`, with zeros in front up to `width` digits. -/
def padded (width n : Nat) : String :=
  let digits := toString n
  String.ofList (List.replicate (width - digits.length) '0') ++ digits

/-- A rational number with `places` decimal places. -/
def fixed (places : Nat) (q : Rat) : String :=
  let unit := Nat.pow 10 places
  let n := roundDiv (q.num.natAbs * unit) q.den
  let sign := if q < 0 then "-" else ""
  let whole := toString (n / unit)
  if places = 0 then sign ++ whole
  else sign ++ whole ++ "." ++ padded places (n % unit)

end Decimal

/-- A value with `places` decimal places. -/
def Extended.fixed (places : Nat) : Extended → String
  | .nan => "NaN"
  | .infinite negative => if negative then "-inf" else "inf"
  | .finite q => Decimal.fixed places q

end SynthBridge
