import VitaeShell.Proofs.Fallible
import VitaeShell.Proofs.Number.Numeral
import VitaeShell.Yaml.Scalar

/-!
# What reading a YAML text can come to

Whatever is read of a text, the reader goes on to a later place of the same text (`Cursor.Within`).
Where it fails the text is no document, or a character in it is out of bounds, or it cannot be read
on (`TextFault`). There is one exception, an escape in double quotes that asks for a code which no
integer register holds (`WritesHugeCode`).

## Main results

* `reads_quotedScalar`, `reads_blockScalar`, `reads_plainScalar`: the three ways to write a scalar.
-/

namespace VitaeShell.Yaml

/-- In a text stands an escape `\U` for a code that does not fit into 31 bits. -/
def WritesHugeCode (text : List Char) : Prop :=
  ∃ digits, '\\' :: 'U' :: digits <:+: text ∧ digits.length = 8 ∧ 0x80000000 ≤ hexNumber digits

/-- What can be wrong about a text that is read from a place on. -/
inductive TextFault (whole : Cursor) : Fault → Prop
  | malformed : TextFault whole .malformed
  | badValue : TextFault whole .badValue
  | barred {fault : Fault} : whole.barrier = some fault → TextFault whole fault
  | hugeCode : WritesHugeCode whole.rest → TextFault whole .valueTooLarge

/-- A place **within** the text from another place on, which can be read just as far. -/
structure Cursor.Within (c whole : Cursor) : Prop where
  rest_suffix : c.rest <:+ whole.rest
  barrier_eq : c.barrier = whole.barrier

/-- Something that is **read** of a text ends at a place within it, or in a fault of the text. -/
abbrev Reads {α : Type} (whole : Cursor) (r : Except Fault (α × Cursor)) : Prop :=
  Ends (TextFault whole) (fun found => found.2.Within whole) r

section

variable {whole c : Cursor}

/-! ### Moving on -/

namespace Cursor

/-- A step leaves what follows the character at the cursor. -/
theorem rest_step (c : Cursor) : c.step.rest = c.rest.tail := by
  rw [step]
  split
  · next heq => rw [heq, List.tail_nil]
  · next ch rest heq =>
      rw [heq, List.tail_cons]
      split
      · rfl
      · split <;> rfl

/-- A step does not change how far a text can be read. -/
theorem barrier_step (c : Cursor) : c.step.barrier = c.barrier := by
  rw [step]
  split
  · rfl
  · split
    · rfl
    · split <;> rfl

/-- A character at the cursor stands in front of what follows. -/
theorem rest_eq_cons {ch : Char} (h : c.here = ch) (hmark : ch ≠ endMark) :
    c.rest = ch :: c.step.rest := by
  rw [rest_step]
  cases hrest : c.rest with
  | nil =>
      rw [here, hrest] at h
      exact absurd h.symm hmark
  | cons first rest =>
      rw [here, hrest] at h
      rw [List.tail_cons, ← h]
      rfl

/-- A step stays within the text. -/
theorem Within.step (h : c.Within whole) : c.step.Within whole where
  rest_suffix := by
    rw [rest_step]
    exact (List.tail_suffix _).trans h.rest_suffix
  barrier_eq := (barrier_step c).trans h.barrier_eq

/-- So does any number of steps. -/
theorem Within.advance (h : c.Within whole) (n : Nat) : (c.advance n).Within whole := by
  induction n generalizing c with
  | zero => exact h
  | succ n ih => exact ih h.step

/-- So does skipping characters. -/
theorem Within.skip (h : c.Within whole) (p : Char → Bool) : (c.skip p).Within whole :=
  h.advance _

/-- So does skipping a comment. -/
theorem Within.skipComment (h : c.Within whole) : c.skipComment.Within whole := by
  rw [Cursor.skipComment]
  split
  · exact h.skip _
  · exact h

/-- So does passing a line end. -/
theorem Within.lineBreak (h : c.Within whole) : c.lineBreak.2.Within whole := by
  rw [Cursor.lineBreak]
  split
  · exact h
  · split
    · exact h.step
    · exact h.step

/-- The place behind a line end is within the text. -/
theorem Within.of_lineBreak {first : List Char} {next : Cursor} (h : c.Within whole)
    (heq : c.lineBreak = (first, next)) : next.Within whole := by
  have hnext := h.lineBreak
  rwa [heq] at hnext

/-- What keeps a character from being read is a fault of the text. -/
theorem Within.textFault (h : c.Within whole) {n : Nat} {fault : Fault}
    (hbarred : c.barred? n = some fault) : TextFault whole fault := by
  rw [barred?] at hbarred
  split at hbarred
  · exact .barred (h.barrier_eq ▸ hbarred)
  · cases hbarred

/-- A text can be read to its end if it ends where something can be read on. -/
theorem barrier_of_barred? {n : Nat} (hopen : c.barred? n = none) (hend : c.rest.isEmpty) :
    c.barrier = none := by
  rwa [barred?, List.isEmpty_iff.mp hend, List.drop_nil, if_pos List.isEmpty_nil] at hopen

/-- Going on only if a character can be read: it can be, or the text has a fault. -/
theorem Within.readable (h : c.Within whole) (n : Nat) :
    Ends (TextFault whole) (fun next => next = c ∧ c.barred? n = none) (c.readable n) := by
  rw [Cursor.readable]
  split
  · next fault hbarred => exact .error (h.textFault hbarred)
  · next hbarred => exact .ok ⟨rfl, hbarred⟩

/-- A fault that is found at the cursor is one of the text, as is what bars the cursor. -/
theorem Within.fail {α : Type} {P : α → Prop} (h : c.Within whole) {fault : Fault}
    (hfault : TextFault whole fault) : Ends (TextFault whole) P (c.fail fault) := by
  rw [Cursor.fail]
  cases hbarred : c.barred? 0 with
  | none => exact .error hfault
  | some other => exact .error (h.textFault hbarred)

/-- Whether documents divide at the cursor is known, or the text has a fault there. -/
theorem Within.divides (h : c.Within whole) :
    Ends (TextFault whole) (fun _ => True) c.divides := by
  rw [Cursor.divides]
  exact (h.readable _).bind fun _ _ => .ok trivial

end Cursor

/-! ### Plain scalars -/

/-- The line ends within a plain scalar are passed, or what follows one cannot be read. -/
theorem reads_plainBreaks (hc : c.Within whole) (fuel : Nat) :
    Reads whole (plainBreaks fuel c) := by
  induction fuel generalizing c with
  | zero => exact .ok hc
  | succ fuel ih =>
      rw [plainBreaks]
      refine .ite (fun _ => ih hc.step) fun _ => .ite (fun _ => ?_) fun _ => .ok hc
      split
      next first next hbreak =>
        have hnext := hc.of_lineBreak hbreak
        refine hnext.divides.bind fun divided _ => .ite (fun _ => .ok hnext) fun _ => ?_
        exact (ih hnext).bind fun found hfound => .ok hfound

/-- So is the whole gap after a run of it. -/
theorem reads_plainGap (hc : c.Within whole) : Reads whole (plainGap c) := by
  have hspaces := hc.advance (c.run (· = ' ')).length
  unfold plainGap
  extract_lets spaces c'
  refine .ite (fun _ => .ok hspaces) fun _ => ?_
  split
  next first next hbreak =>
    have hnext := hspaces.of_lineBreak hbreak
    refine hnext.divides.bind fun divided _ => .ite (fun _ => .ok hnext) fun _ => ?_
    exact (reads_plainBreaks hnext _).bind fun found hfound => .ok hfound

/-- Run by run, a plain scalar goes on within the text. -/
theorem reads_plainFrom (hc : c.Within whole) (flow : Bool) (indent : Int) (fuel : Nat)
    (gap : List Char) (ended : Bool) : Reads whole (plainFrom flow indent fuel c gap ended) := by
  induction fuel generalizing c gap ended with
  | zero => exact .ok hc
  | succ fuel ih =>
      unfold plainFrom
      extract_lets run
      refine (hc.readable _).bind ?_
      rintro _ ⟨rfl, -⟩
      refine .ite (fun _ => .ok hc) fun _ => ?_
      refine (reads_plainGap (hc.advance run.length)).bind fun ⟨⟨next, ended⟩, after⟩ hafter => ?_
      refine .ite (fun _ => .ok hafter) fun _ => ?_
      exact (ih hafter next ended).bind fun found hfound => .ok hfound

/-- **A plain scalar** ends within the text, or what follows it cannot be read. -/
theorem reads_plainScalar (hc : c.Within whole) (flow : Bool) (indent : Int) :
    Reads whole (plainScalar flow indent c) :=
  reads_plainFrom hc flow indent _ _ _

-- what follows the colon cannot be read
example : plainScalar false 0 { rest := "a:".toList, barrier := some .notText } =
    .error .notText := rfl

/-! ### Quoted scalars -/

/-- Line ends between quotes are read within the text. -/
theorem reads_quotedBreaks (hc : c.Within whole) (fuel : Nat) :
    Reads whole (quotedBreaks fuel c) := by
  induction fuel generalizing c with
  | zero => exact .error .malformed
  | succ fuel ih =>
      rw [quotedBreaks]
      have hblanks := hc.skip fun ch => ch = ' ' || ch = '\t'
      refine hc.divides.bind fun divided _ => ?_
      split
      · exact hc.fail .malformed
      · extract_lets c'
        split
        · exact .ok hblanks
        · split
          next first next hbreak =>
            exact (ih (hblanks.of_lineBreak hbreak)).bind fun found hfound => .ok hfound

-- what follows the three marks cannot be read
example (fuel : Nat) : quotedBreaks (fuel + 1)
    { rest := "---".toList, barrier := some .notText } = .error .notText := rfl

/-- So is a gap between two words there. -/
theorem reads_quotedGap (hc : c.Within whole) : Reads whole (quotedGap c) := by
  have hblanks := hc.advance (c.run fun ch => ch = ' ' || ch = '\t').length
  unfold quotedGap
  extract_lets blanks c'
  split
  · exact hblanks.fail .malformed
  · split
    · exact .ok hblanks
    · split
      next first next hbreak =>
        exact (reads_quotedBreaks (hblanks.of_lineBreak hbreak) _).bind
          fun found hfound => .ok hfound

/-- There is a character for each code, unless the code is out of bounds or does not fit into 31
bits. -/
theorem ends_characterOf (code : Nat) :
    Ends (fun fault => fault = .badValue ∨ fault = .valueTooLarge ∧ 0x80000000 ≤ code)
      (fun _ => True) (characterOf code) := by
  rw [characterOf]
  split
  · exact .ok trivial
  · split
    · exact .error (.inl rfl)
    · exact .error (.inr ⟨rfl, by omega⟩)

/-- So many hexadecimal digits write a number below that power. -/
theorem hexNumber_lt (digits : List Char) : hexNumber digits < 16 ^ digits.length := by
  have hdigits : ∀ d ∈ digits.filterMap (Numeral.digitOf? 16), d < 16 := by
    intro d hd
    obtain ⟨c, -, hc⟩ := List.mem_filterMap.mp hd
    exact Numeral.lt_of_digitOf? hc
  calc hexNumber digits < 16 ^ (digits.filterMap (Numeral.digitOf? 16)).length :=
        Numeral.valueOf_lt (by decide) hdigits
    _ ≤ 16 ^ digits.length :=
        Nat.pow_le_pow_right (by decide) (List.length_filterMap_le _ _)

/-- Only the longest escape asks for a code that does not fit into 31 bits. -/
theorem eq_of_escapeWidth? {ch : Char} {width : Nat} {digits : List Char}
    (hwidth : escapeWidth? ch = some width) (hdigits : digits.length = width)
    (hhuge : 0x80000000 ≤ hexNumber digits) : ch = 'U' ∧ width = 8 := by
  have hlt := hdigits ▸ hexNumber_lt digits
  unfold escapeWidth? at hwidth
  split at hwidth
  · cases hwidth
    omega
  · cases hwidth
    omega
  · exact ⟨rfl, (Option.some.inj hwidth).symm⟩
  · cases hwidth

/-- So is an escape, unless its code is too large. -/
theorem reads_escape (hc : c.Within whole) (hback : '\\' :: c.rest <:+ whole.rest) :
    Reads whole (escape c) := by
  unfold escape
  split
  · exact .ok hc.step
  · next width hnone hwidth =>
      extract_lets digits
      split
      · exact (hc.step.advance _).fail .malformed
      · next hlength =>
          have hdigits : digits.length = width := by
            have hle : digits.length ≤ width := List.length_take_le _ _
            omega
          refine ((ends_characterOf _).imp ?_ fun _ => id).bind fun ch _ => .ok (hc.advance _)
          rintro fault (rfl | ⟨rfl, hhuge⟩)
          · exact .badValue
          · obtain ⟨hU, rfl⟩ := eq_of_escapeWidth? hwidth hdigits hhuge
            refine .hugeCode ⟨digits, ?_, hdigits, hhuge⟩
            have hrest : digits <+: c.step.rest :=
              (List.take_prefix _ _).trans (List.takeWhile_prefix _)
            rw [Cursor.rest_eq_cons hU (by decide)] at hback
            have hescape : '\\' :: 'U' :: digits <+: '\\' :: 'U' :: c.step.rest :=
              (List.prefix_cons_inj _).mpr ((List.prefix_cons_inj _).mpr hrest)
            exact hescape.isInfix.trans hback.isInfix
  · split
    · exact reads_quotedBreaks hc.lineBreak _
    · exact hc.fail .malformed

/-- So is a text up to its closing quote. -/
theorem reads_quotedFrom (hc : c.Within whole) (double : Bool) (fuel : Nat) :
    Reads whole (quotedFrom double fuel c) := by
  induction fuel generalizing c with
  | zero => exact .error .malformed
  | succ fuel ih =>
      unfold quotedFrom
      extract_lets ch after
      have hafter (piece : List Char) {next : Cursor} (hnext : next.Within whole) :
          Reads whole (after piece next) :=
        (ih hnext).bind fun found hfound => .ok hfound
      refine .ite (fun _ => hafter _ (hc.advance 2)) fun _ => ?_
      refine .ite (fun _ => .ok hc.step) fun _ => ?_
      refine .ite (fun hescape => ?_) fun _ => ?_
      · have hback : c.here = '\\' := by simpa using (Bool.and_eq_true_iff.mp hescape).2
        have hrest : '\\' :: c.step.rest <:+ whole.rest :=
          Cursor.rest_eq_cons hback (by decide) ▸ hc.rest_suffix
        exact (reads_escape hc.step hrest).bind fun found hfound => hafter _ hfound
      · refine .ite (fun _ => ?_) fun _ => hafter _ hc.step
        exact (reads_quotedGap hc).bind fun found hfound => hafter _ hfound

/-- **A quoted scalar** ends within the text, or its text has a fault. -/
theorem reads_quotedScalar (hc : c.Within whole) : Reads whole (quotedScalar c) :=
  reads_quotedFrom hc.step _ _

/-! ### Block scalars -/

/-- Nothing but a comment may follow on the line. -/
theorem ends_restOfLine (hc : c.Within whole) :
    Ends (TextFault whole) (·.Within whole) (restOfLine c) := by
  have hend := (hc.skip (· = ' ')).skipComment
  unfold restOfLine
  extract_lets c'
  split
  · exact .ok hend.lineBreak
  · exact hend.fail .malformed

/-- The header of a block is read within the text. -/
theorem ends_blockHeader (hc : c.Within whole) :
    Ends (TextFault whole) (fun found => found.2.2.Within whole) (blockHeader c) := by
  unfold blockHeader
  extract_lets digit?
  split
  next chomping indent next hsigns =>
    -- the signs take up to two characters
    have hnext : next.Within whole := by
      split at hsigns
      · split at hsigns
        · cases hsigns
          exact hc.advance 2
        · cases hsigns
          exact hc.step
      · split at hsigns
        · split at hsigns
          · cases hsigns
            exact hc.advance 2
          · cases hsigns
            exact hc.step
        · cases hsigns
          exact hc
    refine .ite (fun _ => .error .malformed) fun _ =>
      .ite (fun _ => hnext.fail .malformed) fun _ => ?_
    exact (ends_restOfLine hnext).bind fun last hlast => .ok hlast

/-- The blank lines that tell the indentation are passed within the text. -/
theorem within_blockIndent (hc : c.Within whole) (fuel widest : Nat) :
    (blockIndent fuel c widest).2.2.Within whole := by
  induction fuel generalizing c widest with
  | zero => exact hc
  | succ fuel ih =>
      rw [blockIndent]
      split
      · exact ih hc.step _
      · split
        · split
          next first next hbreak => exact ih (hc.of_lineBreak hbreak) _
        · exact hc

/-- So are the blank lines between two others. -/
theorem within_blockBreaks (hc : c.Within whole) (indent fuel : Nat) :
    (blockBreaks indent fuel c).2.Within whole := by
  induction fuel generalizing c with
  | zero => exact hc
  | succ fuel ih =>
      unfold blockBreaks
      extract_lets c'
      have hc' : c'.Within whole := hc.advance _
      split
      · exact hc'
      · split
        next first next hbreak => exact ih (hc'.of_lineBreak hbreak)

/-- So are the lines of a block. -/
theorem within_blockLines (hc : c.Within whole) (fold : Bool) (indent fuel : Nat)
    (before : List Char) : (blockLines fold indent fuel c before).2.2.2.Within whole := by
  induction fuel generalizing c before with
  | zero => exact hc
  | succ fuel ih =>
      unfold blockLines
      extract_lets isBlank line
      split
      · exact hc
      · split
        next ending next hbreak =>
          have hnext := (hc.advance line.length).of_lineBreak hbreak
          have hempty := within_blockBreaks hnext indent (next.rest.length + 1)
          split
          next empty last hlast =>
            rw [hlast] at hempty
            split
            · exact hempty
            · exact ih hempty _

/-- **A block scalar** ends within the text, or its text has a fault. -/
theorem reads_blockScalar (hc : c.Within whole) (outer : Int) :
    Reads whole (blockScalar outer c) := by
  unfold blockScalar
  extract_lets fold
  refine (ends_blockHeader hc.step).bind ?_
  rintro ⟨chomping, increment, next⟩ hnext
  dsimp only at hnext ⊢
  have hlines {before : List Char} {indent : Nat} {start : Cursor} (hstart : start.Within whole) :=
    within_blockLines hstart fold indent (next.rest.length + 1) before
  -- the lines in front of the block tell its indentation, unless the header does
  cases increment with
  | some n => exact .ok (hlines (within_blockBreaks hnext _ _))
  | none => exact .ok (hlines (within_blockIndent hnext _ _))

end

end VitaeShell.Yaml
