import VitaeShell.Text.DigitTable

/-!
# Layouts

How a field is laid out: fill and alignment, a sign, marks, a width, a separator of digits, a number
of digits or a largest length after a point, and the letter of a form (`Layout.read?`). Texts
(`Layout.ofText`) and whole numbers (`Layout.ofWhole`) can be laid out; not everything goes with
both.
-/

namespace VitaeShell.Template

/-- Why something cannot be laid out. -/
inductive LayoutFault where
  | malformed
  /-- A number is no character. -/
  | noCharacter
  /-- There is no room for the width. -/
  | tooWide
deriving DecidableEq, Repr

/-! ### Numbers in templates -/

/-- The largest number that is read. -/
def maxNumber : Nat := Nat.pow 2 63 - 1

/-- The number that digits of any script write after `acc`, and what follows them. -/
def numberFrom (acc : Nat) : List Char → Option (Nat × List Char)
  | [] => some (acc, [])
  | c :: rest =>
    match Text.digitValue? c with
    | some d => if maxNumber < acc * 10 + d then none else numberFrom (acc * 10 + d) rest
    | none => some (acc, c :: rest)

/-- The number that a text starts with, if it starts with a digit; none if it is too large. -/
def number? (cs : List Char) : Option (Option Nat × List Char) :=
  if ((cs.head?).bind Text.digitValue?).isSome then do
    let (n, rest) ← numberFrom 0 cs
    return (some n, rest)
  else some (none, cs)

/-! ### Reading -/

/-- A layout. -/
structure Layout where
  fill : Option Char := none
  align : Option Char := none
  sign : Option Char := none
  /-- Whether a negative zero loses its sign. -/
  plainZero : Bool := false
  /-- Whether the form is marked. -/
  marked : Bool := false
  /-- Whether the width is filled with zeros. -/
  zeros : Bool := false
  width : Nat := 0
  separator : Option Char := none
  precision : Option Nat := none
  form : Option Char := none
deriving DecidableEq, Repr

namespace Layout

/-- A character that says where a value stands in its width. -/
def isAlignment (c : Char) : Bool :=
  c = '<' || c = '>' || c = '^' || c = '='

/-- The fill and the alignment that a text starts with, and what follows. -/
def alignment : List Char → Option Char × Option Char × List Char
  | fill :: align :: rest =>
    if isAlignment align then (some fill, some align, rest)
    else if isAlignment fill then (none, some fill, align :: rest)
    else (none, none, fill :: align :: rest)
  | [align] => if isAlignment align then (none, some align, []) else (none, none, [align])
  | [] => (none, none, [])

/-- Whether a text starts with a character, and what follows it then. -/
def mark (c : Char) : List Char → Bool × List Char
  | d :: rest => if d = c then (true, rest) else (false, d :: rest)
  | [] => (false, [])

/-- The sign that a text starts with, and what follows. -/
def signed : List Char → Option Char × List Char
  | c :: rest => if c = '+' ∨ c = '-' ∨ c = ' ' then (some c, rest) else (none, c :: rest)
  | [] => (none, [])

/-- The separator that a text starts with, and what follows; none for two of them. -/
def separated? : List Char → Option (Option Char × List Char)
  | ',' :: '_' :: _ => none
  | '_' :: ',' :: _ => none
  | ',' :: rest => some (some ',', rest)
  | '_' :: rest => some (some '_', rest)
  | rest => some (none, rest)

/-- The number after a point that a text starts with, and what follows; none for a point alone. -/
def precise? : List Char → Option (Option Nat × List Char)
  | '.' :: rest =>
    match number? rest with
    | some (some n, rest) => some (some n, rest)
    | _ => none
  | rest => some (none, rest)

/-- Whether a separator goes with a form. -/
def allowsSeparator (separator : Char) (form : Char) : Bool :=
  "defgEG%F".toList.contains form || (separator = '_' && "boxX".toList.contains form)

/-- The layout that a text writes, where `usual` is the form if none is written. -/
def read? (usual : Char) (cs : List Char) : Option Layout := do
  let (fill, align, cs) := alignment cs
  let (sign, cs) := signed cs
  let (plainZero, cs) := mark 'z' cs
  let (marked, cs) := mark '#' cs
  let (zeros, cs) := if fill.isNone then mark '0' cs else (false, cs)
  let (width, cs) ← number? cs
  let (separator, cs) ← separated? cs
  let (precision, cs) ← precise? cs
  let form := cs.head?
  let fits := separator.all fun separator => allowsSeparator separator (form.getD usual)
  if cs.length ≤ 1 && fits then
    some { fill, align, sign, plainZero, marked, zeros, width := width.getD 0, separator,
           precision, form }
  else none

/-! ### Padding -/

/-- The character that fills a width. -/
def filler (l : Layout) : Char :=
  l.fill.getD (if l.zeros then '0' else ' ')

/-- The largest width that there is room for. -/
def maxWidth : Nat := Nat.pow 2 31 - 1

/-- What a layout gives, if there is room for its width. -/
def ifRoom (l : Layout) (laid : Unit → List Char) : Except LayoutFault (List Char) :=
  if maxWidth < l.width then .error .tooWide else .ok (laid ())

/-- A value that fills a width: what stands in front of it, such as a sign, and the value itself.
The filling goes around both or, where the alignment says so, between them. -/
def pad (l : Layout) (align : Char) (front value : List Char) : List Char :=
  let missing := l.width - (front.length + value.length)
  let fill (n : Nat) : List Char := List.replicate n l.filler
  if align = '=' then front ++ fill missing ++ value
  else
    let left := if align = '>' then missing else if align = '^' then missing / 2 else 0
    fill left ++ front ++ value ++ fill (missing - left)

/-! ### Texts -/

/-- A text as it is laid out, cut to the largest length. -/
def ofText (l : Layout) (value : List Char) : Except LayoutFault (List Char) :=
  if l.sign.isSome || l.plainZero || l.marked || l.separator.isSome || l.align = some '=' ||
      l.form.getD 's' ≠ 's' then
    .error .malformed
  else
    let value := value.take (l.precision.getD value.length)
    l.ifRoom fun _ => l.pad (l.align.getD '<') [] value

/-! ### Digits -/

/-- Digits with separators between groups of them, and with zeros in front until they fill a width.
The last digit comes first. -/
def grouped (separator : Char) (size : Nat) : Nat → Nat → List Char → List Char
  | 0, _, _ => []
  | fuel + 1, width, digits =>
    let length := min size (max (max digits.length width) 1)
    let group := (digits ++ List.replicate length '0').take length
    let rest := digits.drop length
    if rest.isEmpty && width ≤ length then group
    else group ++ separator :: grouped separator size fuel (width - length - 1) rest

/-- Digits as a layout groups them, with zeros in front until they fill a width. -/
def group (l : Layout) (size width : Nat) (digits : List Char) : List Char :=
  match l.separator with
  | some separator =>
    (grouped separator size (digits.length + width + 1) width digits.reverse).reverse
  | none => List.replicate (width - digits.length) '0' ++ digits

/-- The first `k` digits of a number, rounded to nearest and a half to the even neighbour, and the
number of digits that follow the first one in the whole number. -/
def leading (k n : Nat) : List Char × Nat :=
  let digits := Nat.toDigits 10 n
  if digits.length ≤ k then
    (digits ++ List.replicate (k - digits.length) '0', digits.length - 1)
  else
    let unit := Nat.pow 10 (digits.length - k)
    let below := n / unit
    let twice := 2 * (n % unit)
    let rounded := if twice > unit ∨ (twice = unit ∧ below % 2 = 1) then below + 1 else below
    let found := Nat.toDigits 10 rounded
    if found.length ≤ k then (found, digits.length - 1) else (found.take k, digits.length)

/-- A point and the digits after it. A point without digits only stands in marked forms. -/
def fraction (marked : Bool) (digits : List Char) : List Char :=
  if digits.isEmpty && !marked then [] else '.' :: digits

/-- Digits without the zeros at the end. -/
def trimmed (digits : List Char) : List Char :=
  (digits.reverse.dropWhile (· = '0')).reverse

/-- An exponent, in two digits or more. -/
def exponent (e : Nat) : List Char :=
  let digits := Nat.toDigits 10 e
  'e' :: '+' :: (List.replicate (2 - digits.length) '0' ++ digits)

/-- The number with a fixed number of digits after the point: its digits before the point, and the
rest. -/
def fixed (l : Layout) (n : Nat) : List Char × List Char :=
  (Nat.toDigits 10 n, fraction l.marked (List.replicate (l.precision.getD 6) '0'))

/-- The number with one digit before the point and an exponent. -/
def scientific (l : Layout) (n : Nat) : List Char × List Char :=
  let (digits, e) := leading (l.precision.getD 6 + 1) n
  (digits.take 1, fraction l.marked (digits.drop 1) ++ exponent e)

/-- The number in a given number of digits, with an exponent if it has more of them. Zeros after the
point only stand in marked forms. -/
def general (l : Layout) (n : Nat) : List Char × List Char :=
  let size := max (l.precision.getD 6) 1
  let (digits, e) := leading size n
  let after (digits : List Char) : List Char :=
    fraction l.marked (if l.marked then digits else trimmed digits)
  if e < size then (digits.take (e + 1), after (digits.drop (e + 1)))
  else (digits.take 1, after (digits.drop 1) ++ exponent e)

/-- Letters in upper case. -/
def upper (cs : List Char) : List Char :=
  cs.map Char.toUpper

/-- A number written as a whole one: what marks its form, its digits, and the size of their
groups. -/
def wholeForm? (n : Nat) : Char → Option (List Char × List Char × Nat)
  | 'd' | 'n' => some ([], Nat.toDigits 10 n, 3)
  | 'b' => some (['0', 'b'], Nat.toDigits 2 n, 4)
  | 'o' => some (['0', 'o'], Nat.toDigits 8 n, 4)
  | 'x' => some (['0', 'x'], Nat.toDigits 16 n, 4)
  | 'X' => some (['0', 'X'], upper (Nat.toDigits 16 n), 4)
  | _ => none

/-- A number written with a point: its digits before the point, and the rest. -/
def pointForm? (l : Layout) (n : Nat) : Char → Option (List Char × List Char)
  | 'f' | 'F' => some (l.fixed n)
  | 'e' => some (l.scientific n)
  | 'E' => some ((l.scientific n).map id upper)
  | 'g' => some (l.general n)
  | 'G' => some ((l.general n).map id upper)
  | '%' => some ((l.fixed (100 * n)).map id (· ++ ['%']))
  | _ => none

/-! ### Whole numbers -/

/-- Where a number stands in its width. -/
def numberAlign (l : Layout) : Char :=
  l.align.getD (if l.zeros then '=' else '>')

/-- The sign of a number that is not negative. -/
def frontSign (l : Layout) : List Char :=
  match l.sign with
  | some '+' => ['+']
  | some ' ' => [' ']
  | _ => []

/-- A number with what stands in front of its digits and after them. Zeros that fill the width count
as digits. -/
def padNumber (l : Layout) (size : Nat) (front digits rest : List Char) : List Char :=
  let width :=
    if l.filler = '0' && l.numberAlign = '=' then l.width - (front.length + rest.length) else 0
  l.pad l.numberAlign front (l.group size width digits ++ rest)

/-- The largest number of digits after a point. -/
def maxPrecision : Nat := Nat.pow 2 31 - 1

/-- A whole number that is not negative, as it is laid out. -/
def ofWhole (l : Layout) (n : Nat) : Except LayoutFault (List Char) :=
  let form := l.form.getD 'd'
  if maxPrecision < l.precision.getD 0 then .error .malformed
  else
    match wholeForm? n form, l.pointForm? n form with
    | some (mark, digits, size), _ =>
      if l.precision.isSome || l.plainZero then .error .malformed
      else
        l.ifRoom fun _ =>
          l.padNumber size (l.frontSign ++ if l.marked then mark else []) digits []
    | none, some (digits, rest) => l.ifRoom fun _ => l.padNumber 3 l.frontSign digits rest
    | none, none =>
      if form ≠ 'c' || l.precision.isSome || l.plainZero || l.sign.isSome || l.marked then
        .error .malformed
      else if n < 0x110000 then l.ifRoom fun _ => l.pad l.numberAlign [] [Char.ofNat n]
      else .error .noCharacter

end Layout

end VitaeShell.Template
