import VitaeShell.Proofs.Line
import VitaeShell.Proofs.Path
import VitaeShell.Proofs.Text

/-!
# Lines with one argument

A word and an argument behind it make a line that is read as the command of that word with that one
argument: between quotes the argument may be any text without a quote, and on its own any text of
word characters. Only the line `cd..` is read in another way, so that a character that it does not
have is enough to tell a line from it.

## Main results

* `CommandLine.parse_quoted`: a line with an argument between quotes.
* `CommandLine.parse_path`: a line with a path text as its argument.
-/

namespace VitaeShell

variable {word argument : String}

/-- A word, a space and a quoted run are two words. -/
theorem tokens_quoted (hne : word ≠ "") (hword : ∀ c ∈ word.toList, isWordChar c = true)
    (hquote : '\x22' ∉ argument.toList) :
    tokens (word ++ " \x22" ++ argument ++ "\x22") = [word, argument] := by
  have hchars : (word ++ " \x22" ++ argument ++ "\x22").toList =
      word.toList ++ (' ' :: '\x22' :: (argument.toList ++ '\x22' :: [])) := by
    simp
  have hstop : ∀ c ∈ (' ' :: '\x22' :: (argument.toList ++ '\x22' :: [])).head?,
      isWordChar c = false := by
    simp only [List.head?_cons, Option.mem_def, Option.some.injEq, forall_eq']
    decide
  have hend : tokensOf [] = [] := by rw [tokensOf]
  rw [tokens, hchars, tokensOf_run (by simpa using hne) hword hstop,
    tokensOf_blank (by decide), tokensOf_closed hquote, hend]
  simp

/-- A word, a space and another word are two words. -/
theorem tokens_plain (hne : word ≠ "") (hword : ∀ c ∈ word.toList, isWordChar c = true)
    (hne' : argument ≠ "") (hargument : ∀ c ∈ argument.toList, isWordChar c = true) :
    tokens (word ++ " " ++ argument) = [word, argument] := by
  have hchars : (word ++ " " ++ argument).toList =
      word.toList ++ (' ' :: (argument.toList ++ [])) := by
    simp
  have hstop : ∀ c ∈ (' ' :: (argument.toList ++ [])).head?, isWordChar c = false := by
    simp only [List.head?_cons, Option.mem_def, Option.some.injEq, forall_eq']
    decide
  have hend : tokensOf [] = [] := by rw [tokensOf]
  rw [tokens, hchars, tokensOf_run (by simpa using hne) hword hstop,
    tokensOf_blank (by decide), tokensOf_run (by simpa using hne') hargument (by simp), hend]
  simp

namespace CommandLine

/-- A line with a character that `cd..` does not have is read by its words. -/
theorem parse_of_tokens {line name : String} {args : List String} {c : Char}
    (htokens : tokens line = name :: args) (hc : c ∈ line.toList)
    (hblank : Text.isBlank c = false) (hself : Text.lowerLetter c = [c])
    (hsigma : c.toNat ≠ 0x3a3) (hother : c ∉ "cd..".toList) :
    parse line = ⟨Text.lowercase name, args⟩ := by
  have hshort : Text.lowercase (Text.strip line) ≠ "cd.." := by
    intro heq
    have hkept : c ∈ Text.lower (Text.trim line.toList) :=
      Text.mem_lower_of_mem (Text.mem_trim_of_mem hc hblank) hself hsigma
    rw [← Text.toList_strip, ← Text.toList_lowercase, heq] at hkept
    exact hother hkept
  rw [parse, if_neg hshort, tokens_strip, htokens]

/-- **A quoted argument.** -/
theorem parse_quoted (hne : word ≠ "") (hword : ∀ c ∈ word.toList, isWordChar c = true)
    (hquote : '\x22' ∉ argument.toList) :
    parse (word ++ " \x22" ++ argument ++ "\x22") = ⟨Text.lowercase word, [argument]⟩ :=
  parse_of_tokens (c := '\x22') (tokens_quoted hne hword hquote) (by simp) (by decide) (by decide)
    (by decide) (by decide)

/-- **A path as the argument.** -/
theorem parse_path (hne : word ≠ "") (hword : ∀ c ∈ word.toList, isWordChar c = true)
    (hargument : ∀ c ∈ argument.toList, isWordChar c = true) (hslash : '/' ∈ argument.toList) :
    parse (word ++ " " ++ argument) = ⟨Text.lowercase word, [argument]⟩ := by
  have hne' : argument ≠ "" := by
    rintro rfl
    simp at hslash
  exact parse_of_tokens (c := '/') (tokens_plain hne hword hne' hargument) (by simp [hslash])
    (by decide) (by decide) (by decide) (by decide)

end CommandLine

/-! ### Words of safe characters -/

/-- A safe character may stand in a word. -/
theorem isWordChar_of_isSegmentChar {c : Char} (h : isSegmentChar c = true) :
    isWordChar c = true := by
  have hascii : c.toNat < 0x80 := by
    simp only [isSegmentChar, Bool.or_eq_true, Bool.and_eq_true, decide_eq_true_eq] at h
    rcases h with ((⟨hascii, -⟩ | rfl) | rfl) | rfl
    · exact hascii
    all_goals decide
  have hall : ∀ n < 0x80, isSegmentChar (Char.ofNat n) = true →
      isWordChar (Char.ofNat n) = true := by decide
  have hword := hall c.toNat hascii
  rw [Char.ofNat_toNat] at hword
  exact hword h

/-- The text of a path of safe names may stand in a word. -/
theorem Path.isWordChar_of_mem_format {path : Path} (h : ∀ name ∈ path, IsSegment name) :
    ∀ c ∈ (format path).toList, isWordChar c = true := by
  have hslash : isWordChar '/' = true := by decide
  have hlone : ∀ c ∈ "/".toList, isWordChar c = true := by
    simpa using hslash
  intro c hc
  rw [format, String.toList_append, List.mem_append] at hc
  rcases hc with hc | hc
  · exact hlone c hc
  · rcases Text.mem_intercalate hc with hc | ⟨name, hname, hc⟩
    · exact hlone c hc
    · exact isWordChar_of_isSegmentChar (h name hname c hc)

end VitaeShell
