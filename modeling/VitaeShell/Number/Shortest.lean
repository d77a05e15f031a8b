import VitaeShell.Number.Binary64

/-!
# Shortest decimals

A floating-point value is written with the fewest digits that read back as the same value; of two
such decimals the nearer one is taken, and of two equally near the one that ends in an even digit.
The digits stand in positional notation while the leading one counts between `10 ^ -4` and
`10 ^ 15`, and in scientific notation beyond.
-/

namespace VitaeShell.Binary64

/-- Numerator and denominator of `num / den / 10 ^ exponent`. -/
def scaleTen (num den : Nat) (exponent : Int) : Nat × Nat :=
  if 0 ≤ exponent then (num, den * Nat.pow 10 exponent.toNat)
  else (num * Nat.pow 10 (-exponent).toNat, den)

/-- The exponent `k` with `10 ^ k ≤ num / den < 10 ^ (k + 1)`, for positive `num` and `den`. -/
def floorLog10 (num den : Nat) : Int :=
  let guess : Int := (decimalLength num : Int) - decimalLength den
  let (n, d) := scaleTen num den guess
  if n < d then guess - 1 else guess

/-- Of the two multiples of `10 ^ exponent` around `num / den`, the multiplier of one that reads
back as `value`: the nearer of two, the even one of two equally near. -/
def nearestReadingBack? (value : Binary64) (num den : Nat) (exponent : Int) : Option Nat :=
  let (n, d) := scaleTen num den exponent
  let below := n / d
  let readsBack (k : Nat) : Bool := ofDecimal false k exponent == value
  match readsBack below, readsBack (below + 1) with
  | true, true =>
    if 2 * (n % d) < d ∨ (2 * (n % d) = d ∧ below % 2 = 0) then some below else some (below + 1)
  | true, false => some below
  | false, true => some (below + 1)
  | false, false => none

/-- The shortest decimal `(k, e)`, meaning `k * 10 ^ e`, that reads back as a positive finite value
with the given fraction. Seventeen digits always suffice. -/
def shortestDecimal (value : Binary64) (num den : Nat) : Nat × Int :=
  let leading := floorLog10 num den
  let onGrid (digits : Nat) : Option (Nat × Int) :=
    (nearestReadingBack? value num den (leading - digits)).map fun k => (k, leading - digits)
  ((List.range 17).findSome? onGrid).getD (0, 0)

/-- Drops the zeros at the end of a multiplier into the exponent. -/
def dropZeros : Nat → Nat × Int → Nat × Int
  | 0, decimal => decimal
  | fuel + 1, (k, e) => if k ≠ 0 ∧ k % 10 = 0 then dropZeros fuel (k / 10, e + 1) else (k, e)

/-- The exponent of a number in scientific notation: a sign and at least two digits. -/
def exponentText (e : Int) : String :=
  let digits := Nat.repr e.natAbs
  (if e < 0 then "-" else "+") ++ (if digits.length < 2 then "0" ++ digits else digits)

/-- A positive decimal `k * 10 ^ e` as text. -/
def decimalText (k : Nat) (e : Int) : String :=
  let digits := Nat.toDigits 10 k
  let leading := e + digits.length - 1
  if leading < -4 ∨ 16 ≤ leading then
    let fraction := if digits.length ≤ 1 then "" else "." ++ String.ofList (digits.drop 1)
    String.ofList (digits.take 1) ++ fraction ++ "e" ++ exponentText leading
  else if leading < 0 then
    "0." ++ String.ofList (List.replicate (-leading - 1).toNat '0' ++ digits)
  else if 0 ≤ e then
    String.ofList (digits ++ List.replicate e.toNat '0') ++ ".0"
  else
    let whole := (leading + 1).toNat
    String.ofList (digits.take whole) ++ "." ++ String.ofList (digits.drop whole)

/-- The shortest text of a value. -/
def toText : Binary64 → String
  | .nan => "nan"
  | .infinite negative => if negative then "-inf" else "inf"
  | .finite negative mantissa exponent =>
    let sign := if negative then "-" else ""
    if mantissa = 0 then sign ++ "0.0"
    else
      let (num, den) :=
        if 0 ≤ exponent then (mantissa * Nat.pow 2 exponent.toNat, 1)
        else (mantissa, Nat.pow 2 (-exponent).toNat)
      let (k, e) := dropZeros 17 (shortestDecimal (.finite false mantissa exponent) num den)
      sign ++ decimalText k e

end VitaeShell.Binary64
