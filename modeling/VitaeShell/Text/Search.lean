/-!
# Searching a text

`find? w t` is the first place of `w` in `t`, and `occursIn w t` says that there is one.
-/

namespace VitaeShell.Text

/-- The number of characters before the first occurrence of `needle`. The empty needle occurs at
the start of every text. -/
def find? (needle : List Char) : List Char → Option Nat
  | [] => if needle.isEmpty then some 0 else none
  | c :: rest => if needle.isPrefixOf (c :: rest) then some 0 else (find? needle rest).map (· + 1)

/-- Whether `needle` stands somewhere in the text. -/
def occursIn (needle text : List Char) : Bool :=
  (find? needle text).isSome

/-- Whether a string starts with another. -/
def startsWith (s start : String) : Bool :=
  start.toList.isPrefixOf s.toList

/-- Whether a string ends with another. -/
def endsWith (s ending : String) : Bool :=
  ending.toList.isSuffixOf s.toList

end VitaeShell.Text
