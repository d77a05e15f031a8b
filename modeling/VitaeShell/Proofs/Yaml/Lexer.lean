import VitaeShell.Proofs.Yaml.Scalar
import VitaeShell.Yaml.Lexer

/-!
# How the tokens of a text end

The lexer goes from token to token through one text (`Lexer.Within`), and every token that it finds
is sound for it (`Token.Sound`). The mark of a fault is put behind the tokens where the text stops
being readable: it is a fault of the text, or what bars the text. A text that is barred somewhere
has no end of the stream.

## Main results

* `Lexer.Within.readToken`, `Lexer.Within.next`: a step goes on within the text, or ends in a fault
  of it.
* `tokens_sound`: what the tokens of a source say about it.
* `Cursor.barrier_ofSource`, `Cursor.broken_eq_false`: what bars a source.
-/

namespace VitaeShell.Yaml

/-- A token is **sound** for a text if the text has the fault that it marks, and can be read to its
end where it says that the stream ends. -/
def Token.Sound (whole : Cursor) : Token → Prop
  | .unreadable fault => TextFault whole fault
  | .streamEnd => whole.barrier = none
  | _ => True

/-- A token that is **read** of a text is sound for it, and ends at a place within it; or there is a
fault of the text. -/
abbrev ReadsToken (whole : Cursor) (r : Except Fault (Token × Cursor)) : Prop :=
  Ends (TextFault whole) (fun found => found.1.Sound whole ∧ found.2.Within whole) r

section

variable {whole c : Cursor}

/-! ### Names, tags and directives -/

/-- Bytes that are written as numbers are read within the text. -/
theorem reads_percentBytes (hc : c.Within whole) (fuel : Nat) :
    Reads whole (percentBytes fuel c) := by
  induction fuel generalizing c with
  | zero => exact .error .malformed
  | succ fuel ih =>
      rw [percentBytes]
      refine .ite (fun _ => .ok hc) fun _ => ?_
      split
      · exact (ih (hc.advance 3)).bind fun found hfound => .ok hfound
      · exact hc.step.fail .malformed
      · exact (hc.advance 2).fail .malformed

/-- So is an address, with whatever it spells as bytes. -/
theorem reads_addressFrom (hc : c.Within whole) (fuel : Nat) :
    Reads whole (addressFrom fuel c) := by
  induction fuel generalizing c with
  | zero => exact .error .malformed
  | succ fuel ih =>
      unfold addressFrom
      extract_lets run
      refine .ite (fun _ => ?_) fun _ => .ite (fun _ => .ok hc) fun _ => ?_
      · refine (reads_percentBytes hc _).bind fun ⟨bytes, next⟩ hnext => ?_
        dsimp only
        split
        · exact (ih hnext).bind fun found hfound => .ok hfound
        · exact hnext.fail .malformed
      · exact (ih (hc.advance _)).bind fun found hfound => .ok hfound

/-- So is an address that is not empty. -/
theorem reads_address (hc : c.Within whole) : Reads whole (address c) := by
  rw [address]
  refine .ite (fun _ => hc.fail .malformed) fun _ => ?_
  exact (reads_addressFrom hc _).bind fun found hfound => .ok hfound

/-- So is the handle of a tag. -/
theorem reads_tagHandle (hc : c.Within whole) : Reads whole (tagHandle c) := by
  unfold tagHandle
  extract_lets name next
  have hnext : next.Within whole := hc.step.advance _
  refine .ite (fun _ => hc.fail .malformed) fun _ => .ite (fun _ => .ok hc.step) fun _ => ?_
  exact .ite (fun _ => .ok hnext.step) fun _ => hnext.fail .malformed

/-- A tag is read within the text, and looking for where it ends is a fault only if the text has
one. -/
theorem ends_tagToken (hc : c.Within whole) : ReadsToken whole (tagToken c) := by
  unfold tagToken
  extract_lets finish
  have hfinish : ∀ found : Token × Cursor, found.1.Sound whole ∧ found.2.Within whole →
      ReadsToken whole (finish found) :=
    fun found hfound => .ite (fun _ => .ok hfound) fun _ => hfound.2.fail .malformed
  have htag {handle : Option String} {suffix : String} :
      (Token.tag handle suffix).Sound whole := trivial
  refine .ite (fun _ => ?_) fun _ => .ite (fun _ => ?_) fun _ => ?_
  · refine (reads_address (hc.advance 2)).bind fun ⟨suffix, next⟩ hnext => ?_
    refine .ite (fun _ => ?_) fun _ => (hnext.fail .malformed).bind hfinish
    exact .bind (.ok ⟨htag, hnext.step⟩) hfinish
  · exact .bind (.ok ⟨htag, hc.step⟩) hfinish
  · -- how far the tag is looked through does not matter
    refine (hc.readable _).bind ?_
    rintro _ ⟨rfl, -⟩
    refine .ite (fun _ => ?_) fun _ => ?_
    · refine (reads_tagHandle hc).bind fun ⟨handle, next⟩ hnext => ?_
      refine (reads_address hnext).bind fun ⟨suffix, next⟩ hnext => ?_
      exact .bind (.ok ⟨htag, hnext⟩) hfinish
    · refine (reads_address hc.step).bind fun ⟨suffix, next⟩ hnext => ?_
      exact .bind (.ok ⟨htag, hnext⟩) hfinish

-- where the tag ends cannot be read, and that comes before the character that it must not have
example : tagToken { rest := "!a\x22xx".toList, barrier := some .notText } = .error .notText := rfl

/-- So is the name of an anchor. -/
theorem reads_anchorName (hc : c.Within whole) : Reads whole (anchorName c) := by
  unfold anchorName
  extract_lets name next ends
  have hnext : next.Within whole := hc.step.advance _
  exact .ite (fun _ => hnext.fail .malformed) fun _ => .ok hnext

/-- So is a number of a version. -/
theorem reads_versionNumber (hc : c.Within whole) : Reads whole (versionNumber c) := by
  unfold versionNumber
  extract_lets digits next
  have hnext : next.Within whole := hc.advance _
  refine .ite (fun _ => hnext.fail .malformed) fun _ => ?_
  exact .ite (fun _ => hnext.fail .badValue) fun _ => .ok hnext

/-- To expect a space is a fault of the text if something else stands there. -/
theorem ends_atSpace (hc : c.Within whole) :
    Ends (TextFault whole) (fun _ => True) (atSpace c) := by
  rw [atSpace]
  exact .ite (fun _ => .ok trivial) fun _ => hc.fail .malformed

/-- A directive is read within the text, to the end of its line. -/
theorem ends_directiveToken (hc : c.Within whole) : ReadsToken whole (directiveToken c) := by
  unfold directiveToken
  extract_lets name next finish
  have hnext : next.Within whole := hc.step.advance _
  refine .ite (fun _ => hnext.fail .malformed) fun _ => ?_
  have hfinish : ∀ found : Directive × Cursor, found.2.Within whole →
      ReadsToken whole (finish found) :=
    fun found hfound => (ends_restOfLine hfound).bind fun last hlast => .ok ⟨trivial, hlast⟩
  refine (ends_atSpace hnext).bind fun _ _ => ?_
  refine .ite (fun _ => ?_) fun _ => .ite (fun _ => ?_) fun _ => .bind (.ok (hnext.skip _)) hfinish
  · refine (reads_versionNumber (hnext.skip _)).bind fun ⟨major, next⟩ hnext => ?_
    refine .ite (fun _ => (hnext.fail .malformed).bind hfinish) fun _ => ?_
    refine (reads_versionNumber hnext.step).bind fun ⟨minor, next⟩ hnext => ?_
    exact (ends_atSpace hnext).bind fun _ _ => .bind (.ok hnext) hfinish
  · refine (reads_tagHandle (hnext.skip _)).bind fun ⟨handle, next⟩ hnext => ?_
    refine .ite (fun _ => (hnext.fail .malformed).bind hfinish) fun _ => ?_
    refine (reads_address (hnext.skip _)).bind fun ⟨expansion, next⟩ hnext => ?_
    exact (ends_atSpace hnext).bind fun _ _ => .bind (.ok hnext) hfinish

/-! ### The state between tokens -/

namespace Lexer

/-- A lexer **within** a text: so is its cursor, and all its tokens are sound. -/
structure Within (l : Lexer) (whole : Cursor) : Prop where
  cursor_within : l.cursor.Within whole
  found_sound : ∀ token ∈ l.found, token.Sound whole

/-- A step of a lexer goes on within the text, or ends in a fault of it. -/
abbrev Steps (whole : Cursor) (r : Except Fault Lexer) : Prop :=
  Ends (TextFault whole) (·.Within whole) r

variable {l : Lexer}

/-- A sound token is added within the text. -/
theorem Within.push {token : Token} (h : l.Within whole) (htoken : token.Sound whole)
    (hc : c.Within whole) : (l.push token c).Within whole :=
  ⟨hc, List.forall_mem_cons.mpr ⟨htoken, h.found_sound⟩⟩

/-- The brackets around the cursor and the place of a key matter for later tokens only. -/
theorem Within.pushWith {token : Token} (h : l.Within whole) (htoken : token.Sound whole)
    (hc : c.Within whole) (flow : Nat) (keyAllowed : Bool) :
    { l.push token c with flow := flow, keyAllowed := keyAllowed }.Within whole :=
  ⟨(h.push htoken hc).cursor_within, (h.push htoken hc).found_sound⟩

/-- So are the tokens that close blocks. -/
theorem Within.closeBlocks (h : l.Within whole) (column : Int) :
    (l.closeBlocks column).Within whole := by
  unfold Lexer.closeBlocks
  extract_lets blocks remaining
  split
  · exact h
  · refine ⟨h.cursor_within, ?_⟩
    rw [List.forall_mem_append]
    refine ⟨?_, h.found_sound⟩
    rintro token htoken
    obtain ⟨-, -, rfl⟩ := List.mem_map.mp htoken
    exact trivial

/-- To close blocks does not move on. -/
theorem cursor_closeBlocks (l : Lexer) (column : Int) :
    (l.closeBlocks column).cursor = l.cursor := by
  unfold Lexer.closeBlocks
  extract_lets blocks remaining
  split <;> rfl

/-- A block that can be opened here is opened within the text. -/
theorem Within.openBlock? {opened : Lexer} (h : l.Within whole) {column : Int}
    (hopened : l.openBlock? column = some opened) : opened.Within whole := by
  rw [Lexer.openBlock?] at hopened
  split at hopened
  · cases hopened
    exact ⟨h.cursor_within, h.found_sound⟩
  · cases hopened

/-- So it is with its mark, if it has to be opened. -/
theorem Within.openBlock (h : l.Within whole) {mark : Token} (hmark : mark.Sound whole) :
    (l.openBlock mark).Within whole := by
  rw [Lexer.openBlock]
  split
  · next opened hopened =>
      have hwithin := h.openBlock? hopened
      exact hwithin.push hmark hwithin.cursor_within
  · exact h

/-- A token that belongs further in front is added within the text. -/
theorem Within.insertBefore (h : l.Within whole) (n : Nat) {token : Token}
    (htoken : token.Sound whole) : (l.insertBefore n token).Within whole := by
  refine ⟨h.cursor_within, ?_⟩
  rw [Lexer.insertBefore, List.forall_mem_append, List.forall_mem_cons]
  exact ⟨fun other hother => h.found_sound other (List.mem_of_mem_take hother), htoken,
    fun other hother => h.found_sound other (List.mem_of_mem_drop hother)⟩

/-- Blanks, comments and line ends are skipped within the text. -/
theorem Within.skipFiller (h : l.Within whole) (fuel : Nat) : (l.skipFiller fuel).Within whole := by
  induction fuel generalizing l with
  | zero => exact h
  | succ fuel ih =>
      unfold Lexer.skipFiller
      extract_lets cursor
      have hcursor : cursor.Within whole := (h.cursor_within.skip _).skipComment
      split
      · exact ih ⟨hcursor.step, h.found_sound⟩
      · exact ⟨hcursor, h.found_sound⟩

/-- A key that has become impossible is dropped, or it was needed. -/
theorem Within.dropStale (h : l.Within whole) : Steps whole l.dropStale := by
  rw [Lexer.dropStale]
  exact .ite (fun _ => .error .malformed) fun _ => .ok ⟨h.cursor_within, h.found_sound⟩

/-- A key that is not taken up is dropped, or it was needed. -/
theorem Within.dropKey (h : l.Within whole) : Steps whole l.dropKey := by
  rw [Lexer.dropKey]
  split
  · exact .ite (fun _ => .error .malformed) fun _ => .ok ⟨h.cursor_within, h.found_sound⟩
  · exact .ok h

/-- What may be a key is noted. -/
theorem Within.noteKey (h : l.Within whole) : Steps whole l.noteKey := by
  rw [Lexer.noteKey]
  refine .ite (fun _ => .ok h) fun _ => ?_
  exact h.dropKey.bind fun l h => .ok ⟨h.cursor_within, h.found_sound⟩

/-! ### Reading a token -/

/-- A mark that closes everything is reached. -/
theorem Within.outermost (h : l.Within whole) : Steps whole l.outermost := by
  rw [Lexer.outermost]
  exact (h.closeBlocks _).dropKey.bind fun l h => .ok ⟨h.cursor_within, h.found_sound⟩

/-- A bracket is opened. -/
theorem Within.openFlow (h : l.Within whole) {token : Token} (htoken : token.Sound whole) :
    Steps whole (l.openFlow token) := by
  rw [Lexer.openFlow]
  exact h.noteKey.bind fun l h => .ok (h.pushWith htoken h.cursor_within.step _ _)

/-- A bracket is closed. -/
theorem Within.closeFlow (h : l.Within whole) {token : Token} (htoken : token.Sound whole) :
    Steps whole (l.closeFlow token) := by
  rw [Lexer.closeFlow]
  refine h.dropKey.bind fun l h => ?_
  refine .ite (fun _ => h.cursor_within.step.fail .malformed) fun _ => ?_
  exact .ok (h.pushWith htoken h.cursor_within.step _ _)

/-- A comma between brackets. -/
theorem Within.flowEntry (h : l.Within whole) : Steps whole l.flowEntry := by
  rw [Lexer.flowEntry]
  exact h.dropKey.bind fun l h => .ok (h.pushWith (by trivial) h.cursor_within.step _ _)

/-- Outside of brackets a block may open in front of a mark. -/
theorem Within.openBlockOr (h : l.Within whole) {mark : Token} (hmark : mark.Sound whole) :
    (if l.flow = 0 then l.openBlock mark else l).Within whole := by
  split
  · exact h.openBlock hmark
  · exact h

/-- A hyphen in front of an item. -/
theorem Within.blockEntry (h : l.Within whole) : Steps whole l.blockEntry := by
  unfold Lexer.blockEntry
  extract_lets opened
  refine .ite (fun _ => h.cursor_within.step.fail .malformed) fun _ => ?_
  have hopened : opened.Within whole := h.openBlockOr trivial
  exact hopened.dropKey.bind fun l h => .ok (h.pushWith (by trivial) h.cursor_within.step _ _)

/-- A question mark in front of a key. -/
theorem Within.key (h : l.Within whole) : Steps whole l.key := by
  unfold Lexer.key
  extract_lets opened
  refine .ite (fun _ => h.cursor_within.step.fail .malformed) fun _ => ?_
  have hopened : opened.Within whole := h.openBlockOr trivial
  exact hopened.dropKey.bind fun l h => .ok (h.pushWith (by trivial) h.cursor_within.step _ _)

/-- A colon in front of a value. -/
theorem Within.value (h : l.Within whole) : Steps whole l.value := by
  rw [Lexer.value]
  split
  · next pending _ =>
      extract_lets behind waiting marked opened
      have hwaiting : waiting.Within whole := ⟨h.cursor_within, h.found_sound⟩
      have hkey : Token.key.Sound whole := trivial
      have hmarked : marked.Within whole := hwaiting.insertBefore behind hkey
      have hopened : opened.Within whole := by
        unfold opened
        split
        · exact hmarked
        · split
          · next hblock => exact (hmarked.openBlock? hblock).insertBefore _ trivial
          · exact hmarked
      exact .ok (hopened.push trivial hopened.cursor_within.step)
  · refine .ite (fun _ => h.cursor_within.step.fail .malformed) fun _ => ?_
    extract_lets opened
    have hopened : opened.Within whole := h.openBlockOr trivial
    exact .ok (hopened.pushWith (by trivial) hopened.cursor_within.step _ _)

/-- An anchor, or a mark that leads back to one. -/
theorem Within.anchor (h : l.Within whole) {make : String → Token}
    (hmake : ∀ name, (make name).Sound whole) : Steps whole (l.anchor make) := by
  rw [Lexer.anchor]
  refine h.noteKey.bind fun l h => ?_
  refine (reads_anchorName h.cursor_within).bind fun ⟨name, next⟩ hnext => ?_
  exact .ok (h.pushWith (hmake name) hnext _ _)

/-- A tag. -/
theorem Within.tag (h : l.Within whole) : Steps whole l.tag := by
  rw [Lexer.tag]
  refine h.noteKey.bind fun l h => ?_
  refine (ends_tagToken h.cursor_within).bind fun ⟨token, next⟩ hnext => ?_
  exact .ok (h.pushWith hnext.1 hnext.2 _ _)

/-- A text in a block of its own. -/
theorem Within.block (h : l.Within whole) : Steps whole l.block := by
  rw [Lexer.block]
  refine h.dropKey.bind fun l h => ?_
  refine (reads_blockScalar h.cursor_within _).bind fun ⟨scalar, next⟩ hnext => ?_
  exact .ok (h.pushWith (by trivial) hnext _ _)

/-- A text between quotes. -/
theorem Within.quoted (h : l.Within whole) : Steps whole l.quoted := by
  rw [Lexer.quoted]
  refine h.noteKey.bind fun l h => ?_
  refine (reads_quotedScalar h.cursor_within).bind fun ⟨scalar, next⟩ hnext => ?_
  exact .ok (h.pushWith (by trivial) hnext _ _)

/-- A text without quotes. -/
theorem Within.plain (h : l.Within whole) : Steps whole l.plain := by
  rw [Lexer.plain]
  refine h.noteKey.bind fun l h => ?_
  refine (reads_plainScalar h.cursor_within _ _).bind fun ⟨⟨scalar, ended⟩, next⟩ hnext => ?_
  exact .ok (h.pushWith (by trivial) hnext _ _)

/-- **Reading a token** goes on within the text, or ends in a fault of it. -/
theorem Within.readToken (h : l.Within whole)
    (hend : l.cursor.rest.isEmpty → whole.barrier = none) : Steps whole l.readToken := by
  unfold Lexer.readToken
  extract_lets c atStart gapNext inFlow
  have hc : c.Within whole := h.cursor_within
  have hdivision {token : Token} (htoken : token.Sound whole) (n : Nat) : Steps whole do
      let l ← l.outermost
      return l.push token (l.cursor.advance n) :=
    h.outermost.bind fun l h => .ok (h.push htoken (h.cursor_within.advance n))
  split
  · refine .ite (fun _ => ?_) fun _ => hc.step.fail .malformed
    refine h.outermost.bind fun l h => ?_
    exact (ends_directiveToken h.cursor_within).bind fun ⟨token, next⟩ hnext =>
      .ok (h.push hnext.1 hnext.2)
  · exact h.openFlow trivial
  · exact h.closeFlow trivial
  · exact h.openFlow trivial
  · exact h.closeFlow trivial
  · exact h.flowEntry
  · exact h.anchor fun _ => trivial
  · exact h.anchor fun _ => trivial
  · exact h.tag
  · exact h.quoted
  · exact h.quoted
  · refine .ite (fun hempty => hdivision (by exact hend hempty) 0) fun _ => ?_
    refine .ite (fun _ => hdivision (by trivial) 3) fun _ => ?_
    refine .ite (fun _ => hdivision (by trivial) 3) fun _ => ?_
    refine .ite (fun _ => h.blockEntry) fun _ => .ite (fun _ => h.key) fun _ => ?_
    refine .ite (fun _ => h.value) fun _ => .ite (fun _ => h.block) fun _ => ?_
    exact .ite (fun _ => h.plain) fun _ => hc.step.fail .malformed

/-- So does going to the next token. -/
theorem Within.next (h : l.Within whole) : Steps whole l.next := by
  rw [Lexer.next]
  refine h.dropStale.bind fun l h => ?_
  extract_lets here
  have hhere : here.Within whole := h.skipFiller _
  refine (hhere.cursor_within.readable 0).bind fun _ _ => ?_
  refine hhere.dropStale.bind fun l h => ?_
  refine (h.cursor_within.readable _).bind fun _ hopen => ?_
  have hclosed := h.closeBlocks l.cursor.column
  refine (hclosed.readToken fun hend => ?_).bind fun l h => ?_
  · rw [cursor_closeBlocks] at hend
    rw [← h.cursor_within.barrier_eq]
    exact Cursor.barrier_of_barred? hopen.2 hend
  · exact (h.cursor_within.readable 0).bind fun _ _ => .ok h

/-- The settled tokens are tokens that were found. -/
theorem Within.settled_sound (h : l.Within whole) : ∀ token ∈ l.settled, token.Sound whole := by
  intro token htoken
  exact h.found_sound token (List.mem_reverse.mp (List.mem_of_mem_take htoken))

/-! ### Reading to the end -/

/-- The tokens up to the end of a text are sound. -/
theorem Within.sound_of_mem_toEnd (h : l.Within whole) {fuel : Nat} :
    ∀ token ∈ l.toEnd fuel, token.Sound whole := by
  have hmarked {l : Lexer} (h : l.Within whole) {fault : Fault} (hfault : TextFault whole fault) :
      ∀ token ∈ l.settled ++ [.unreadable fault], token.Sound whole := by
    rw [List.forall_mem_append, List.forall_mem_singleton]
    exact ⟨h.settled_sound, hfault⟩
  induction fuel generalizing l with
  | zero => exact hmarked h .malformed
  | succ fuel ih =>
      have hnext := h.next
      rw [toEnd]
      generalize l.next = found at hnext
      cases hnext with
      | error hlast => exact hmarked h hlast
      | ok h =>
          rw [goOn]
          split
          · exact fun token htoken => h.found_sound token (List.mem_reverse.mp htoken)
          · exact ih h

end Lexer

end

/-! ### Sources -/

section

variable {source : Text.Source} {fault : Fault}

/-- What can be read of a source starts its text. -/
theorem Cursor.rest_ofSource (source : Text.Source) :
    (Cursor.ofSource source).rest <+: source.text := by
  unfold ofSource
  extract_lets upTo
  have hupTo (n : Nat) (fault : Fault) : (upTo n fault).rest <+: source.text :=
    List.take_prefix _ _
  split
  · exact List.prefix_rfl
  · exact hupTo _ _
  · exact hupTo _ _
  · split <;> exact hupTo _ _

/-- A source that cannot be read to its end holds a character that may not stand there, or bytes
that spell no text. -/
theorem Cursor.barrier_ofSource (h : (Cursor.ofSource source).barrier = some fault) :
    fault = .malformed ∨ fault = .notText ∧ source.broken = true := by
  have hbroken {m : Nat} (hm : beforeBroken? source = some m) : source.broken = true := by
    by_contra hwhole
    rw [beforeBroken?, if_neg hwhole] at hm
    cases hm
  unfold ofSource at h
  extract_lets upTo at h
  split at h
  · cases h
  · exact .inl (Option.some.inj h).symm
  · next hm => exact .inr ⟨(Option.some.inj h).symm, hbroken hm⟩
  · next hm =>
      split at h
      · exact .inl (Option.some.inj h).symm
      · exact .inr ⟨(Option.some.inj h).symm, hbroken hm⟩

/-- A source with bytes that spell no text cannot be read to its end. -/
theorem Cursor.broken_eq_false (h : (Cursor.ofSource source).barrier = none) :
    source.broken = false := by
  by_contra hbroken
  rw [Bool.not_eq_false] at hbroken
  have hm : beforeBroken? source = some (windowed source.text.length) := if_pos hbroken
  unfold ofSource at h
  extract_lets upTo at h
  rw [hm] at h
  cases hn : beforeForbidden? source.text with
  | none =>
      rw [hn] at h
      cases h
  | some n =>
      rw [hn] at h
      dsimp only at h
      split at h <;> cases h

/-- **The tokens of a source** mark a fault only if its text has that fault, and say that the stream
ends only if the text can be read to its end. -/
theorem tokens_sound (source : Text.Source) :
    ∀ token ∈ tokens source, token.Sound (Cursor.ofSource source) := by
  have hwhole : (Cursor.ofSource source).Within (Cursor.ofSource source) := ⟨List.suffix_rfl, rfl⟩
  unfold tokens
  extract_lets whole start
  have hstart : start.Within whole := by
    unfold start
    split
    · exact hwhole.step
    · exact hwhole
  split
  · next fault hfirst => exact List.forall_mem_singleton.mpr (hstart.textFault hfirst)
  · have hlexer : ({ cursor := start } : Lexer).Within whole := ⟨hstart, by simp⟩
    exact hlexer.sound_of_mem_toEnd

end

end VitaeShell.Yaml
