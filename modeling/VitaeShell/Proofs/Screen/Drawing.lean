import VitaeShell.Proofs.Command.Reply
import VitaeShell.Proofs.Fallible
import VitaeShell.Proofs.Payload.Reading
import VitaeShell.Proofs.Payload.Textual
import VitaeShell.Proofs.Screen.Search
import VitaeShell.Screen.Drawing

/-!
# Outputs that can be drawn

Not every payload can be drawn (`Payload.Drawable`): a grid needs names that are texts, and a search
needs paths that are texts and at least one match, as there is nothing to align otherwise; where a
keyword is to be marked, it and the line have to be texts as well. All other payloads can be drawn
whatever they hold, and so can plain text.

The numbers of the lines in a search have to be short enough to be written (`Payload.Numbered`).
That is so for every payload that is read (`Reply.numbered_of_read`), so that it takes nothing more
to draw an output string.

Commands keep to this as long as the files hold text. A search without a match tells so in words; it
shows no empty list.

## Main results

* `Payload.exists_draw_eq_ok_iff`, `exists_drawOutput_iff`: the payloads and the output strings that
  can be drawn.
* `Reply.numbered_of_read`: no line number in an output string is too long to be written.
* `Builtin.exists_drawOutput_run`: whatever a line makes a command answer can be drawn.
-/

namespace VitaeShell

/-- A value that is a text. -/
def Json.IsText (value : Json) : Prop :=
  ∃ text, value = .text text

theorem Json.isText_text (text : String) : (Json.text text).IsText :=
  ⟨text, rfl⟩

/-! ### Grids -/

/-- An item can be labelled if its name is a text. -/
theorem Label.exists_ofItem_eq_ok_iff {item : GridItem} :
    (∃ label, ofItem item = .ok label) ↔ item.name.IsText := by
  obtain ⟨name, kind⟩ := item
  cases name <;> simp [ofItem, Json.IsText]

/-- A grid can be drawn if its names are texts. -/
theorem Grid.exists_draw_eq_ok_iff {items : List GridItem} {width : Int} :
    (∃ screen, Grid.draw width items = .ok screen) ↔ ∀ item ∈ items, item.name.IsText := by
  have hlabels : (∃ labels, items.mapM Label.ofItem = .ok labels) ↔
      ∀ item ∈ items, item.name.IsText := by
    simp only [exists_mapM_eq_ok_iff, Label.exists_ofItem_eq_ok_iff]
  rw [Grid.draw, ← hlabels]
  split
  · next hempty =>
      obtain rfl := List.isEmpty_iff.mp hempty
      exact iff_of_true ⟨_, rfl⟩ ⟨[], rfl⟩
  · exact exists_map_eq_ok_iff

/-! ### Searches -/

/-- A match that can be drawn. -/
structure GrepMatch.Drawable (found : GrepMatch) : Prop where
  path : found.path.IsText
  /-- A keyword can be marked in a line if both are texts. -/
  marked : found.keyword.isSubstantial = true → found.content.IsText ∧ found.keyword.IsText

/-- A line can be shown with any keyword that need not be marked. -/
theorem Search.exists_markedLine_eq_ok_iff {content keyword : Json} :
    (∃ row, markedLine content keyword = .ok row) ↔
      (keyword.isSubstantial = true → content.IsText ∧ keyword.IsText) := by
  unfold markedLine
  split
  · next hblank =>
      rw [Bool.not_eq_true'] at hblank
      simp [hblank]
  · next hmark =>
      rw [Bool.not_eq_true', Bool.not_eq_false] at hmark
      split
      · simp [hmark, Json.isText_text]
      · next hkeyword => simpa [hmark, Json.isText_text, Json.IsText] using hkeyword
      · next hcontent _ => simpa [hmark, Json.IsText] using fun text h => absurd h (hcontent text)

/-- A path can be drawn if it is a text. -/
theorem Search.exists_pathText_eq_ok_iff {path : Json} :
    (∃ text, pathText path = .ok text) ↔ path.IsText := by
  cases path <;> simp [pathText, Json.IsText]

/-- A number of no more digits than are read can be written. -/
theorem Search.numberText_of_isReadable {line : Int} (h : Json.IsReadable line) :
    numberText line = .ok (toString line) :=
  numberText_eq_ok ((Nat.length_toDigits_le_iff (by decide) (by decide)).mpr h)

/-- A row can be drawn for a match that can be, if its number can be written. -/
theorem Search.exists_row_eq_ok_iff {found : GrepMatch} {pathWidth lineWidth : Nat}
    (hline : Json.IsReadable found.line) :
    (∃ drawn, row pathWidth lineWidth found = .ok drawn) ↔ found.Drawable := by
  rw [row, numberText_of_isReadable hline]
  constructor
  · rintro ⟨drawn, h⟩
    obtain ⟨path, hpath, h⟩ := exists_of_bind_eq_ok h
    obtain ⟨number, -, h⟩ := exists_of_bind_eq_ok h
    obtain ⟨marked, hmarked, -⟩ := exists_of_bind_eq_ok h
    exact ⟨exists_pathText_eq_ok_iff.mp ⟨path, hpath⟩,
      exists_markedLine_eq_ok_iff.mp ⟨marked, hmarked⟩⟩
  · intro h
    obtain ⟨path, hpath⟩ := exists_pathText_eq_ok_iff.mpr h.path
    obtain ⟨marked, hmarked⟩ := exists_markedLine_eq_ok_iff.mpr h.marked
    exact ⟨_, by rw [hpath, hmarked]; rfl⟩

/-- A search whose numbers can be written can be drawn if there are matches and each of them can
be. -/
theorem Search.exists_draw_eq_ok_iff {found : List GrepMatch}
    (hlines : ∀ line ∈ found, Json.IsReadable line.line) :
    (∃ screen, Search.draw found = .ok screen) ↔ found ≠ [] ∧ ∀ line ∈ found, line.Drawable := by
  have hnumber : ∀ line ∈ found, ∃ number, numberText line.line = .ok number :=
    fun line hline => ⟨_, numberText_of_isReadable (hlines line hline)⟩
  obtain ⟨numbers, hnumbers⟩ := exists_mapM_eq_ok_iff.mpr hnumber
  rw [Search.draw]
  split
  · next hempty =>
      obtain rfl := List.isEmpty_iff.mp hempty
      simp
  · next hmatches =>
      have hne : found ≠ [] := by simpa using hmatches
      constructor
      · rintro ⟨screen, hscreen⟩
        obtain ⟨lengths, -, hscreen⟩ := exists_of_bind_eq_ok hscreen
        obtain ⟨numbers, -, hscreen⟩ := exists_of_bind_eq_ok hscreen
        have hrows := exists_mapM_eq_ok_iff.mp ⟨screen, hscreen⟩
        exact ⟨hne, fun line hline =>
          (exists_row_eq_ok_iff (hlines line hline)).mp (hrows line hline)⟩
      · rintro ⟨-, hall⟩
        have hlength : ∀ line ∈ found, ∃ length, pathLength line.path = .ok length := by
          intro line hline
          obtain ⟨path, hpath⟩ := (hall line hline).path
          exact ⟨path.length, by rw [hpath]; rfl⟩
        obtain ⟨lengths, hlengths⟩ := exists_mapM_eq_ok_iff.mpr hlength
        rw [hlengths, hnumbers]
        exact exists_mapM_eq_ok_iff.mpr fun line hline =>
          (exists_row_eq_ok_iff (hlines line hline)).mpr (hall line hline)

/-! ### Payloads -/

/-- A payload that can be drawn. -/
def Payload.Drawable : Payload → Prop
  | .grid items => ∀ item ∈ items, item.name.IsText
  | .grep found => found ≠ [] ∧ ∀ line ∈ found, line.Drawable
  | _ => True

/-- A payload whose line numbers can be written. -/
def Payload.Numbered : Payload → Prop
  | .grep found => ∀ line ∈ found, Json.IsReadable line.line
  | _ => True

/-- **A payload can be drawn** exactly if it is a drawable one, at any width, as long as its line
numbers can be written. -/
theorem Payload.exists_draw_eq_ok_iff {payload : Payload} {width : Int} {used : Nat}
    (hnumbered : payload.Numbered) :
    (∃ screen, payload.draw width used = .ok screen) ↔ payload.Drawable := by
  cases payload with
  | grid items => rw [draw, exists_mapError_eq_ok_iff, Grid.exists_draw_eq_ok_iff, Drawable]
  | grep found =>
      rw [draw, exists_mapError_eq_ok_iff, Search.exists_draw_eq_ok_iff hnumbered, Drawable]
  | text _ | list _ | matrix _ _ | coffee _ | meltdown | game _ _ =>
      exact iff_of_true ⟨_, rfl⟩ trivial

/-- A payload of texts can be drawn, unless it is a search without a match. -/
theorem Payload.Textual.drawable {payload : Payload} (h : payload.Textual)
    (hne : payload ≠ .grep []) : payload.Drawable := by
  cases payload with
  | grid items =>
      intro item hitem
      obtain ⟨name, kind, rfl⟩ := h item hitem
      exact Json.isText_text name
  | grep found =>
      refine ⟨by simpa using hne, fun line hline => ?_⟩
      obtain ⟨path, number, content, keyword, rfl⟩ := h line hline
      exact ⟨Json.isText_text path, fun _ => ⟨Json.isText_text content, Json.isText_text keyword⟩⟩
  | text _ | list _ | matrix _ _ | coffee _ | meltdown | game _ _ => trivial

/-! ### Output strings -/

/-- A reply that can be drawn. -/
def Reply.Drawable : Reply → Prop
  | .plain _ => True
  | .payload value => value.Drawable

/-- A reply whose line numbers can be written. -/
def Reply.Numbered : Reply → Prop
  | .plain _ => True
  | .payload value => value.Numbered

/-- The line numbers of whatever is read can be written. -/
theorem Reply.numbered_of_read {raw : String} {reply : Reply} (hread : Reply.read raw = .ok reply) :
    reply.Numbered := by
  cases reply with
  | plain text => trivial
  | payload value =>
      cases value with
      | grep found => exact isReadable_of_read hread
      | text _ | list _ | grid _ | matrix _ _ | coffee _ | meltdown | game _ _ => trivial

/-- A reply can be drawn exactly if it is a drawable one. -/
theorem Reply.exists_draw_eq_ok_iff {reply : Reply} {width : Int} {used : Nat}
    (hnumbered : reply.Numbered) :
    (∃ screen, reply.draw width used = .ok screen) ↔ reply.Drawable := by
  cases reply with
  | plain text => exact iff_of_true ⟨_, rfl⟩ trivial
  | payload value => exact Payload.exists_draw_eq_ok_iff hnumbered

/-- What is read is drawn, and its glyphs are used up. -/
theorem drawOutput_of_read {raw : String} {reply : Reply} (hread : Reply.read raw = .ok reply)
    (width : Int) (used : Nat) :
    drawOutput width used raw =
      (reply.draw width used).map fun screen => (screen, used + reply.glyphCount) := by
  rw [drawOutput, hread]
  change (reply.draw width used >>= fun screen => pure (screen, used + reply.glyphCount)) = _
  cases reply.draw width used <;> rfl

/-- A string that is read as something drawable can be drawn. -/
theorem exists_drawOutput_of_drawable {raw : String} {reply : Reply}
    (hread : Reply.read raw = .ok reply) (hdraw : reply.Drawable) (width : Int) (used : Nat) :
    ∃ drawing, drawOutput width used raw = .ok drawing := by
  rw [drawOutput_of_read hread, exists_map_eq_ok_iff]
  exact (Reply.exists_draw_eq_ok_iff (Reply.numbered_of_read hread)).mpr hdraw

/-- **A string that is read can be drawn** exactly if what it is read as can be, at any width. -/
theorem exists_drawOutput_iff {raw : String} {reply : Reply} (hread : Reply.read raw = .ok reply)
    (width : Int) (used : Nat) :
    (∃ drawing, drawOutput width used raw = .ok drawing) ↔ reply.Drawable := by
  rw [drawOutput_of_read hread, exists_map_eq_ok_iff,
    Reply.exists_draw_eq_ok_iff (Reply.numbered_of_read hread)]

/-- A match without a keyword, in a line that is no text. -/
def unmarked : Payload :=
  .grep [⟨.text "notes", 3, .list [.bool true], .text ""⟩]

/-- A match without a keyword is drawn, although its content is no text. -/
theorem exists_drawOutput_unmarked :
    Reply.read unmarked.encode = .ok (.payload unmarked) ∧ (Reply.payload unmarked).Drawable ∧
      ∃ drawing, drawOutput 80 0 unmarked.encode = .ok drawing := by
  have hexact : unmarked.Exact := by
    refine Payload.exact_grep ?_
    simp only [List.forall_mem_singleton]
    exact Payload.exact_grepMatchJson (.text "notes")
      (Json.isReadable_of_lt (k := 1) (by decide) (by decide)) (.list (by simp [Json.Exact.bool]))
      (.text "")
  have hread : Reply.read unmarked.encode = .ok (.payload unmarked) :=
    hexact.read_encode (by decide)
  have hdraw : (Reply.payload unmarked).Drawable := by
    refine ⟨by simp, ?_⟩
    simp only [List.forall_mem_singleton]
    exact ⟨Json.isText_text "notes", fun hkeyword => by simp [Json.isSubstantial] at hkeyword⟩
  exact ⟨hread, hdraw, (exists_drawOutput_iff hread 80 0).mpr hdraw⟩

/-- A search without a match is read and cannot be drawn. -/
theorem drawOutput_matchless :
    Reply.read "\x7b\"type\": \"grep-output\", \"matches\": []\x7d" = .ok (.payload (.grep [])) ∧
      drawOutput 40 0 "\x7b\"type\": \"grep-output\", \"matches\": []\x7d" =
        .error (.search .noMatches) := by
  have hexact : (Payload.grep []).Exact := Payload.exact_grep (by simp)
  have hline : (Payload.grep []).encode =
      "\x7b\"type\": \"grep-output\", \"matches\": []\x7d" := by decide +kernel
  have hread := hexact.read_encode (by decide)
  rw [hline] at hread
  exact ⟨hread, by rw [drawOutput_of_read hread]; rfl⟩

namespace Builtin

/-- What is shown are texts, and a search shows some match. -/
theorem Shows.textual {fs : FileSystem} {b : Builtin} {args : List String} {payload : Payload}
    (h : Shows fs b args payload) : payload.Textual ∧ payload ≠ .grep [] := by
  cases h with
  | coffee => exact ⟨trivial, by simp⟩
  | matrix =>
      obtain ⟨rows, columns, heq, -⟩ := exists_matrixOf_eq args
      rw [heq]
      exact ⟨trivial, by simp⟩
  | ls =>
      refine ⟨fun item hitem => ?_, by simp⟩
      obtain ⟨entry, -, rfl⟩ := List.mem_map.mp hitem
      exact ⟨_, _, rfl⟩
  | cat =>
      rw [shownText]
      split
      · exact ⟨trivial, by simp⟩
      · exact ⟨trivial, by simp⟩
  | grep _ hfound hne =>
      refine ⟨fun line hline => ?_, by simpa using hne⟩
      obtain ⟨path, content, -, hline⟩ := (mem_searchFiles_iff hfound).mp hline
      obtain ⟨i, words, -, -, rfl⟩ := mem_matchesIn_iff.mp hline
      exact ⟨_, _, _, _, rfl⟩
  | tree => exact ⟨trivial, by simp⟩

/-- An answer from files of text is read as plain text or as a payload that can be drawn. -/
theorem Answers.read_cases {fs : FileSystem} {b : Builtin} {args : List String} {output : String}
    (h : Answers fs b args output) (hfs : Entries.TextOnly fs.root) :
    Reply.read output = .ok (.plain output) ∨
      ∃ payload : Payload, payload.Textual ∧ payload ≠ .grep [] ∧
        Reply.read output = .ok (.payload payload) := by
  cases h with
  | cleared => exact .inl (read_eq_plain (by decide))
  | shown hshows =>
      obtain ⟨htextual, hne⟩ := hshows.textual
      rcases htextual.read_encode_cases with hpayload | hplain
      · exact .inr ⟨_, htextual, hne, hpayload⟩
      · exact .inl hplain
  | told htells =>
      obtain ⟨opening, hopening, hstart⟩ := htells
      have hapart := openings_apart b opening hopening payloadOpening (by simp)
      exact .inl (read_eq_plain (hapart.startsWith_eq_false hstart))
  | lost => exact .inl (read_eq_plain (by decide))
  | untyped rest hcontent huntyped =>
      obtain ⟨text, htext⟩ := FileSystem.exists_text_of_fileContent hfs hcontent
      exact absurd htext (huntyped text)

/-- **Whatever a line makes a command answer can be drawn**, as long as the files hold text. -/
theorem exists_drawOutput_run {fs : FileSystem} (hfs : Entries.TextOnly fs.root)
    (line : CommandLine) (clipboard : Clipboard) (width : Int) (used : Nat) :
    ∃ drawing,
      drawOutput width used (registry.run line fs clipboard).answer.output = .ok drawing := by
  obtain ⟨name, args⟩ := line
  by_cases hname : ∃ b : Builtin, b.name = name
  · obtain ⟨b, rfl⟩ := hname
    obtain ⟨answer, hanswer⟩ := exists_action_eq_ok b args hfs clipboard
    rw [run_of_action_eq_ok hanswer]
    rcases (answers_action hanswer).read_cases hfs with hplain | ⟨payload, htextual, hne, hread⟩
    · exact exists_drawOutput_of_drawable hplain trivial width used
    · exact exists_drawOutput_of_drawable hread (htextual.drawable hne) width used
  · have hne : ∀ b : Builtin, b.name ≠ name := by simpa using hname
    have hapart : Text.Apart troubleOpening payloadOpening := by decide
    rw [run_of_forall_ne hne]
    exact exists_drawOutput_of_drawable (read_eq_plain (hapart.startsWith_eq_false
      (Registry.startsWith_unknownMessage name))) trivial width used

end Builtin

end VitaeShell
