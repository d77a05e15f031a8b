/-!
# UTF-8

The text that a run of bytes spells. Only the shortest form of each character is read, and none of
the surrogates. A run may break off within a character (`decodeStart?`); a whole text does not
(`decodeUtf8?`).
-/

namespace VitaeShell.Text

/-- Whether a byte continues a character. -/
def isContinuation (b : UInt8) : Bool :=
  0x80 ≤ b && b < 0xc0

/-- Whether a byte can come second, after the first byte of a character. The bounds keep out longer
forms than needed, the surrogates, and what lies beyond the last character. -/
def isSecond (a b : UInt8) : Bool :=
  isContinuation b && (a ≠ 0xe0 || 0xa0 ≤ b) && (a ≠ 0xed || b < 0xa0) &&
    (a ≠ 0xf0 || 0x90 ≤ b) && (a ≠ 0xf4 || b < 0x90)

/-- The bits that a continuing byte adds. -/
def continued (acc : Nat) (b : UInt8) : Nat :=
  acc * 0x40 + (b.toNat - 0x80)

/-- The characters that bytes spell, and the bytes of a character that they break off in; none if
some byte does not fit. -/
def decodeStart? : List UInt8 → Option (List Char × List UInt8)
  | [] => some ([], [])
  | a :: rest =>
    let before (code : Nat) (following : Option (List Char × List UInt8)) :
        Option (List Char × List UInt8) :=
      following.map fun (cs, tail) => (Char.ofNat code :: cs, tail)
    if a < 0x80 then before a.toNat (decodeStart? rest)
    else if a < 0xc2 ∨ 0xf5 ≤ a then none
    else
      match rest with
      | [] => some ([], [a])
      | b :: rest =>
        if !isSecond a b then none
        else if a < 0xe0 then before (continued (a.toNat - 0xc0) b) (decodeStart? rest)
        else
          match rest with
          | [] => some ([], [a, b])
          | c :: rest =>
            if !isContinuation c then none
            else if a < 0xf0 then
              before (continued (continued (a.toNat - 0xe0) b) c) (decodeStart? rest)
            else
              match rest with
              | [] => some ([], [a, b, c])
              | d :: rest =>
                if !isContinuation d then none
                else
                  before (continued (continued (continued (a.toNat - 0xf0) b) c) d)
                    (decodeStart? rest)

/-- The characters that bytes spell, if they are well formed. -/
def decodeUtf8? (bytes : List UInt8) : Option (List Char) :=
  match decodeStart? bytes with
  | some (cs, []) => some cs
  | _ => none

end VitaeShell.Text
