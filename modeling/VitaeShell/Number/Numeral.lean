import VitaeShell.Text.Blank
import VitaeShell.Text.DigitTable
import VitaeShell.Number.Binary64

/-!
# Numerals

Numbers as people and files write them: blanks around, a sign, digits of any script with single
underscores between them. `intIn?` reads whole numbers in a base, `float?` reads decimals, the
infinities and `nan`. A whole number of more than `maxDigits` digits is refused in any base that is
not a power of two, and is not written in decimal either.
-/

namespace VitaeShell.Numeral

/-- The longest decimal numeral that is read as a whole number, or written for one. -/
def maxDigits : Nat := 4300

/-- A blank that may stand around a numeral: any but the four separators. -/
def isMargin (c : Char) : Bool :=
  Text.isBlank c && !(0x1c ≤ c.toNat && c.toNat ≤ 0x1f)

/-- The numeral without the blanks around it. -/
def withoutMargins (cs : List Char) : List Char :=
  ((cs.dropWhile isMargin).reverse.dropWhile isMargin).reverse

/-- A digit of any script as the ASCII digit of its value; other characters as they are. -/
def asciiDigit (c : Char) : Char :=
  match Text.digitValue? c with
  | some value => Nat.digitChar value
  | none => c

/-- The sign of a numeral, and what follows it. -/
def signOf : List Char → Bool × List Char
  | '-' :: rest => (true, rest)
  | '+' :: rest => (false, rest)
  | cs => (false, cs)

/-- The value of an ASCII letter or digit as a digit. -/
def digitOf? (base : Nat) (c : Char) : Option Nat :=
  let value :=
    if '0' ≤ c ∧ c ≤ '9' then some (c.toNat - '0'.toNat)
    else if 'a' ≤ c ∧ c ≤ 'z' then some (c.toNat - 'a'.toNat + 10)
    else if 'A' ≤ c ∧ c ≤ 'Z' then some (c.toNat - 'A'.toNat + 10)
    else none
  value.filter (· < base)

/-- The digits of a numeral that is nothing but digits and single underscores between them. -/
def digitsIn? (base : Nat) : List Char → Option (List Nat)
  | [] => none
  | [c] => (digitOf? base c).map ([·])
  | c :: '_' :: rest => do return (← digitOf? base c) :: (← digitsIn? base rest)
  | c :: rest => do return (← digitOf? base c) :: (← digitsIn? base rest)

/-- The number that digits stand for. -/
def valueOf (base : Nat) (digits : List Nat) : Nat :=
  digits.foldl (fun acc d => acc * base + d) 0

/-- The numeral after the letter that names its base, where the base has one. An underscore may
follow the letter. -/
def afterBaseLetter (base : Nat) : List Char → List Char
  | '0' :: letter :: rest =>
    let named := match base with
      | 2 => letter = 'b' || letter = 'B'
      | 8 => letter = 'o' || letter = 'O'
      | 16 => letter = 'x' || letter = 'X'
      | _ => false
    if named then
      match rest with
      | '_' :: more => more
      | _ => rest
    else '0' :: letter :: rest
  | cs => cs

/-- The whole number that a text writes in base 2, 8, 10 or 16. -/
def intIn? (base : Nat) (s : String) : Option Int :=
  let (negative, body) := signOf ((withoutMargins s.toList).map asciiDigit)
  match digitsIn? base (afterBaseLetter base body) with
  | some digits =>
    if base = 10 ∧ maxDigits < digits.length then none
    else
      let value : Int := valueOf base digits
      some (if negative then -value else value)
  | none => none

/-- The whole number that a text writes in decimal. -/
def int? (s : String) : Option Int :=
  intIn? 10 s

/-- A decimal numeral `whole[.fraction][e exponent]` as its digits and its power of ten. -/
def decimal? (cs : List Char) : Option (Nat × Int) :=
  let isMark (c : Char) : Bool := c = 'e' || c = 'E'
  let significand := cs.takeWhile (!isMark ·)
  let whole := significand.takeWhile (· ≠ '.')
  let fraction := significand.drop (whole.length + 1)
  let digits? (part : List Char) : Option (List Nat) :=
    if part.isEmpty then some [] else digitsIn? 10 part
  let exponent? : Option Int :=
    match cs.drop significand.length with
    | [] => some 0
    | _ :: written =>
      let (negative, body) := signOf written
      (digitsIn? 10 body).map fun ds =>
        let value : Int := valueOf 10 ds
        if negative then -value else value
  match digits? whole, digits? fraction, exponent? with
  | some ds, some fs, some e =>
    if ds.isEmpty && fs.isEmpty then none else some (valueOf 10 (ds ++ fs), e - fs.length)
  | _, _, _ => none

/-- The floating-point value that a text writes. -/
def float? (s : String) : Option Binary64 :=
  let (negative, body) := signOf ((withoutMargins s.toList).map asciiDigit)
  let word := String.ofList (body.map Char.toLower)
  if word = "nan" then some .nan
  else if word = "inf" ∨ word = "infinity" then some (.infinite negative)
  else (decimal? body).map fun (digits, e) => Binary64.ofDecimal negative digits e

end VitaeShell.Numeral
