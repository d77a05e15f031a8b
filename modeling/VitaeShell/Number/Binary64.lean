/-!
# Binary floating point

The values of the 64-bit binary format, kept as a sign, a whole mantissa and an exponent of two, and
the exact arithmetic on them that data files need: the value nearest to a fraction (`ofRatio`) or to
a decimal (`ofDecimal`), sums, products and the whole part. Everything is computed in `Nat`, so that
each rounding is one division (`roundHalfEven`).
-/

namespace VitaeShell

/-- A value of the 64-bit binary format. A finite value is `± mantissa * 2 ^ exponent`, with the
mantissa below `2 ^ 53` and the exponent as small as the format allows. -/
inductive Binary64 where
  | nan
  | infinite (negative : Bool)
  | finite (negative : Bool) (mantissa : Nat) (exponent : Int)
deriving DecidableEq, Repr

namespace Binary64

/-! ### The format -/

/-- The exponent of the smallest positive value. -/
def minExponent : Int := -1074

/-- The exponent of the largest finite value. -/
def maxExponent : Int := 971

/-- Zero, with the given sign. -/
def zero (negative : Bool) : Binary64 :=
  .finite negative 0 minExponent

/-! ### Rounding -/

/-- The whole number nearest to `num / den`; of two equally near, the even one. -/
def roundHalfEven (num den : Nat) : Nat :=
  let quotient := num / den
  let rest := num % den
  if den < 2 * rest ∨ (2 * rest = den ∧ quotient % 2 = 1) then quotient + 1 else quotient

/-- Numerator and denominator of `num / den / 2 ^ exponent`. -/
def scaleTwo (num den : Nat) (exponent : Int) : Nat × Nat :=
  if 0 ≤ exponent then (num, den * Nat.pow 2 exponent.toNat)
  else (num * Nat.pow 2 (-exponent).toNat, den)

/-- The exponent `k` with `2 ^ k ≤ num / den < 2 ^ (k + 1)`, for positive `num` and `den`. -/
def floorLog2 (num den : Nat) : Int :=
  let guess : Int := (num.log2 : Int) - den.log2
  let (n, d) := scaleTwo num den guess
  if n < d then guess - 1 else guess

/-- The value nearest to `± num / den`; a magnitude too large for the format gives infinity. -/
def ofRatio (negative : Bool) (num den : Nat) : Binary64 :=
  if num = 0 then zero negative
  else
    let exponent := max (floorLog2 num den - 52) minExponent
    let (n, d) := scaleTwo num den exponent
    let mantissa := roundHalfEven n d
    let (mantissa, exponent) :=
      if mantissa = Nat.pow 2 53 then (Nat.pow 2 52, exponent + 1) else (mantissa, exponent)
    if maxExponent < exponent then .infinite negative else .finite negative mantissa exponent

/-- The value nearest to `± mantissa * 2 ^ exponent`. -/
def ofDyadic (negative : Bool) (mantissa : Nat) (exponent : Int) : Binary64 :=
  if 0 ≤ exponent then ofRatio negative (mantissa * Nat.pow 2 exponent.toNat) 1
  else ofRatio negative mantissa (Nat.pow 2 (-exponent).toNat)

/-- The number of decimal digits of a number; zero has none. -/
def decimalLength (n : Nat) : Nat :=
  if n = 0 then 0 else (Nat.toDigits 10 n).length

/-- The value nearest to `± digits * 10 ^ exponent`. Magnitudes far outside the format are decided
by their number of digits, so that no power of ten grows with the exponent. -/
def ofDecimal (negative : Bool) (digits : Nat) (exponent : Int) : Binary64 :=
  if digits = 0 then zero negative
  else
    let size := exponent + decimalLength digits
    if 310 < size then .infinite negative
    else if size < -330 then zero negative
    else if 0 ≤ exponent then ofRatio negative (digits * Nat.pow 10 exponent.toNat) 1
    else ofRatio negative digits (Nat.pow 10 (-exponent).toNat)

/-- The value nearest to a whole number. -/
def ofInt (n : Int) : Binary64 :=
  ofRatio (n < 0) n.natAbs 1

/-! ### Arithmetic -/

/-- The value with the other sign. -/
def neg : Binary64 → Binary64
  | .nan => .nan
  | .infinite negative => .infinite !negative
  | .finite negative mantissa exponent => .finite (!negative) mantissa exponent

/-- The signed mantissa of a value written with a smaller exponent. -/
def alignedTo (exponent : Int) (negative : Bool) (mantissa : Nat) (own : Int) : Int :=
  let magnitude : Int := (mantissa * Nat.pow 2 (own - exponent).toNat : Nat)
  if negative then -magnitude else magnitude

/-- The sum, rounded once. A sum of zero is negative only if both terms are. -/
def add : Binary64 → Binary64 → Binary64
  | .nan, _ => .nan
  | _, .nan => .nan
  | .infinite s, .infinite t => if s = t then .infinite s else .nan
  | .infinite s, _ => .infinite s
  | _, .infinite t => .infinite t
  | .finite s m e, .finite t n f =>
    let exponent := min e f
    let sum := alignedTo exponent s m e + alignedTo exponent t n f
    if sum = 0 then zero (s && t) else ofDyadic (sum < 0) sum.natAbs exponent

/-- The product, rounded once. -/
def mul : Binary64 → Binary64 → Binary64
  | .nan, _ => .nan
  | _, .nan => .nan
  | .infinite s, .infinite t => .infinite (s != t)
  | .infinite s, .finite t n _ => if n = 0 then .nan else .infinite (s != t)
  | .finite s m _, .infinite t => if m = 0 then .nan else .infinite (s != t)
  | .finite s m e, .finite t n f => ofDyadic (s != t) (m * n) (e + f)

/-! ### Reading values off -/

/-- The whole part of a finite value, toward zero. -/
def truncate? : Binary64 → Option Int
  | .finite negative mantissa exponent =>
    let magnitude : Int :=
      if 0 ≤ exponent then (mantissa * Nat.pow 2 exponent.toNat : Nat)
      else (mantissa / Nat.pow 2 (-exponent).toNat : Nat)
    some (if negative then -magnitude else magnitude)
  | _ => none

/-- Whether the value is zero, of either sign. -/
def isZero : Binary64 → Bool
  | .finite _ mantissa _ => mantissa = 0
  | _ => false

/-- The whole number that a value is, if it is one. -/
def toInt? (x : Binary64) : Option Int :=
  match x.truncate? with
  | some n => if ofInt n = x ∨ (n = 0 ∧ x.isZero) then some n else none
  | none => none

end Binary64

end VitaeShell
