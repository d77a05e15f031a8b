/-!
# Bytes as letters

Reads bytes written in base 64. Characters outside the alphabet count for nothing; an equals sign
that completes a group of four ends the text.
-/

namespace VitaeShell.Text

/-- The six bits that a character writes. -/
def sixBits? (c : Char) : Option Nat :=
  if 'A' ≤ c ∧ c ≤ 'Z' then some (c.toNat - 'A'.toNat)
  else if 'a' ≤ c ∧ c ≤ 'z' then some (c.toNat - 'a'.toNat + 26)
  else if '0' ≤ c ∧ c ≤ '9' then some (c.toNat - '0'.toNat + 52)
  else if c = '+' then some 62
  else if c = '/' then some 63
  else none

/-- Reads on from a group of four of which `position` characters have been read, with the bits
`left` over from them, and after `pads` equals signs. -/
def base64From (position left pads : Nat) : List Char → Option (List UInt8)
  | [] => if position = 0 then some [] else none
  | c :: rest =>
    if c = '=' then
      if 2 ≤ position ∧ 4 ≤ position + pads + 1 then some []
      else base64From position left (pads + 1) rest
    else
      match sixBits? c with
      | none => base64From position left pads rest
      | some bits =>
        match position with
        | 0 => base64From 1 bits 0 rest
        | 1 => (base64From 2 (bits % 16) 0 rest).map (UInt8.ofNat (left * 4 + bits / 16) :: ·)
        | 2 => (base64From 3 (bits % 4) 0 rest).map (UInt8.ofNat (left * 16 + bits / 4) :: ·)
        | _ => (base64From 0 0 0 rest).map (UInt8.ofNat (left * 64 + bits) :: ·)

/-- The bytes that a text writes in base 64. -/
def base64? (cs : List Char) : Option (List UInt8) :=
  base64From 0 0 0 cs

end VitaeShell.Text
