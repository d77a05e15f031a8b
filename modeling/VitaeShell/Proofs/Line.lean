import Mathlib.Data.List.DropRight
import VitaeShell.Line

/-!
# Words by quotes

The words of a line are found by a scan from left to right, which may look ahead to the end of the
line for a closing quote. They are also what a plain reading finds, without any scan: the quotes cut
the line into pieces; every second piece that has a quote on either side is a word as it stands, and
every other piece holds the words between its blanks (`wordsOfPieces`).

A text is empty, or begins in one of four ways: with a closed run between quotes, with a quote that
nothing closes, with a blank, or with a run of other characters. The scan has one equation for each
of them (`tokensOf_closed`, `tokensOf_open`, `tokensOf_blank`, `tokensOf_run`), and what holds in
each case holds of every text (`tokens_induction`).

## Main results

* `tokensOf_eq_wordsOfPieces`: the scan and the plain reading agree.
* `tokensOf_trim`: blanks around a text hold no words.
* `tokensOf_unclosed`: a quote that nothing closes counts as a space.
* `CommandLine.parse_eq_of_pieces`: how a line is read, in terms of its pieces.
-/

namespace VitaeShell

/-! ### The plain reading -/

/-- The words of a text in which quotes mean nothing: what stands between its blanks. -/
def plainWords (cs : List Char) : List (List Char) :=
  (cs.splitOnP Text.isBlank).filter fun word => !word.isEmpty

/-- The words of a piece, by its place among the pieces between quotes and by the place of the last
one. A piece at an odd place follows an opening quote; unless it is the last one, the quote is
closed, and the piece is one word as it stands. -/
def pieceWords (last i : Nat) (piece : List Char) : List (List Char) :=
  if i % 2 = 1 ∧ i < last then [piece] else plainWords piece

/-- The words of the pieces between the quotes of a text. -/
def wordsOfPieces (pieces : List (List Char)) : List (List Char) :=
  (pieces.mapIdx (pieceWords (pieces.length - 1))).flatten

theorem plainWords_nil : plainWords [] = [] := rfl

/-- A blank in front makes no word. -/
theorem plainWords_cons_of_blank {c : Char} (h : Text.isBlank c = true) (cs : List Char) :
    plainWords (c :: cs) = plainWords cs := by
  simp [plainWords, List.splitOnP_cons_eq_if_modifyHead, h]

/-- A run without blanks is one word if a blank follows, or nothing at all. -/
theorem plainWords_run_append {run rest : List Char} (hrun : run ≠ [])
    (hsolid : ∀ c ∈ run, Text.isBlank c = false)
    (hrest : ∀ c ∈ rest.head?, Text.isBlank c = true) :
    plainWords (run ++ rest) = run :: plainWords rest := by
  have hword : plainWords run = [run] := by
    rw [plainWords, List.splitOnP_eq_singleton hsolid]
    simpa using hrun
  cases rest with
  | nil => rw [List.append_nil, hword, plainWords_nil]
  | cons c rest =>
      have hblank : Text.isBlank c = true := hrest c rfl
      have hcut : plainWords (run ++ c :: rest) = plainWords run ++ plainWords rest := by
        rw [plainWords, List.splitOnP_append_cons run rest hblank, List.filter_append]
        rfl
      rw [hcut, hword, plainWords_cons_of_blank hblank]
      rfl

/-- The first piece stands outside quotes. -/
theorem pieceWords_zero (last : Nat) (piece : List Char) :
    pieceWords last 0 piece = plainWords piece := by
  rw [pieceWords, if_neg (by omega)]

/-- Two pieces further on, the quotes stand as before. -/
theorem pieceWords_add_two (last i : Nat) (piece : List Char) :
    pieceWords (last + 2) (i + 2) piece = pieceWords last i piece := by
  have hiff : (i + 2) % 2 = 1 ∧ i + 2 < last + 2 ↔ i % 2 = 1 ∧ i < last := by omega
  rw [pieceWords, pieceWords]
  simp only [hiff]

/-- The words of the pieces are those of the first and those of the others. -/
theorem wordsOfPieces_cons (piece : List Char) (rest : List (List Char)) :
    wordsOfPieces (piece :: rest) =
      plainWords piece ++ (rest.mapIdx fun i => pieceWords rest.length (i + 1)).flatten := by
  rw [wordsOfPieces, List.mapIdx_cons, List.flatten_cons, pieceWords_zero]
  rfl

/-- A closed run is a word between those of its neighbours. -/
theorem wordsOfPieces_cons_cons (piece run : List Char) {rest : List (List Char)} (h : rest ≠ []) :
    wordsOfPieces (piece :: run :: rest) = plainWords piece ++ run :: wordsOfPieces rest := by
  obtain ⟨next, others, rfl⟩ := List.exists_cons_of_ne_nil h
  have hrun : pieceWords ((next :: others).length + 1) 1 run = [run] := by simp [pieceWords]
  -- two places further on, a piece counts as before
  have hshift : (fun i => pieceWords (others.length + 1 + 1) (i + 1 + 1)) =
      pieceWords others.length :=
    funext fun i => funext fun piece => pieceWords_add_two others.length i piece
  rw [wordsOfPieces_cons, List.mapIdx_cons, List.flatten_cons, List.length_cons, hrun,
    List.length_cons, hshift]
  rfl

/-- The words at the front of the first piece are words of the whole. -/
theorem wordsOfPieces_modifyHead {pieces : List (List Char)} (f : List Char → List Char)
    (words : List (List Char)) (hpieces : pieces ≠ [])
    (h : ∀ piece ∈ pieces.head?, plainWords (f piece) = words ++ plainWords piece) :
    wordsOfPieces (pieces.modifyHead f) = words ++ wordsOfPieces pieces := by
  obtain ⟨piece, rest, rfl⟩ := List.exists_cons_of_ne_nil hpieces
  rw [List.modifyHead_cons, wordsOfPieces_cons, wordsOfPieces_cons, h piece rfl, List.append_assoc]

/-! ### How a text begins -/

theorem isWordChar_quote : isWordChar '\x22' = false := by decide

theorem isBlank_quote : Text.isBlank '\x22' = false := by decide

theorem isBlank_space : Text.isBlank ' ' = true := by decide

/-- A blank is not part of a plain word. -/
theorem isWordChar_of_isBlank {c : Char} (h : Text.isBlank c = true) : isWordChar c = false := by
  simp [isWordChar, h]

/-- A blank is not a quote. -/
theorem ne_quote_of_isBlank {c : Char} (h : Text.isBlank c = true) : c ≠ '\x22' := by
  rintro rfl
  rw [isBlank_quote] at h
  cases h

/-- A character of a plain word is no blank. -/
theorem isBlank_of_isWordChar {c : Char} (h : isWordChar c = true) : Text.isBlank c = false := by
  simp_all [isWordChar]

/-- There is no quote in a plain word. -/
theorem quote_notMem_of_isWordChar {run : List Char} (h : ∀ c ∈ run, isWordChar c = true) :
    '\x22' ∉ run := by
  intro hquote
  have := h _ hquote
  rw [isWordChar_quote] at this
  cases this

/-- **The four ways to begin.** What holds of the empty text, and passes to a text from what follows
its beginning, holds of every text. -/
theorem tokens_induction {motive : List Char → Prop} (nil : motive [])
    (closed : ∀ run rest, '\x22' ∉ run → motive rest →
      motive ('\x22' :: (run ++ '\x22' :: rest)))
    (unclosed : ∀ rest, '\x22' ∉ rest → motive rest → motive ('\x22' :: rest))
    (blank : ∀ c rest, Text.isBlank c = true → motive rest → motive (c :: rest))
    (run : ∀ run rest, run ≠ [] → (∀ c ∈ run, isWordChar c = true) →
      (∀ c ∈ rest.head?, isWordChar c = false) → motive rest → motive (run ++ rest))
    (cs : List Char) : motive cs := by
  induction cs using tokensOf.induct with
  | case1 => exact nil
  | case2 rest hclosed ih =>
      obtain ⟨inside, after, rfl, hinside⟩ :=
        List.eq_append_cons_of_mem (List.contains_iff_mem.mp hclosed)
      have hall : ∀ c ∈ inside, decide (c ≠ '\x22') = true := by
        intro c hc
        simpa using ne_of_mem_of_not_mem hc hinside
      rw [List.dropWhile_append_of_pos hall] at ih
      exact closed inside after hinside (by simpa using ih)
  | case3 rest hopen ih =>
      exact unclosed rest (fun h => hopen (List.contains_iff_mem.mpr h)) ih
  | case4 c rest hquote hblank ih => exact blank c rest hblank ih
  | case5 c rest hquote hblank ih =>
      have hword : isWordChar c = true := by simp [isWordChar, hquote, hblank]
      have hcut : c :: rest = (c :: rest).takeWhile isWordChar ++ rest.dropWhile isWordChar := by
        rw [List.takeWhile_cons_of_pos hword, List.cons_append, List.takeWhile_append_dropWhile]
      rw [hcut]
      refine run _ _ ?_ (fun d => List.mem_takeWhile_imp) ?_ ih
      · rw [List.takeWhile_cons_of_pos hword]
        exact List.cons_ne_nil _ _
      · intro d hd
        have hhead := List.head?_dropWhile_not isWordChar rest
        rw [hd] at hhead
        simpa using hhead

/-! ### The scan, by the beginning of the text -/

/-- Between two quotes stands one token, whatever blanks are in it. -/
theorem tokensOf_closed {run : List Char} (h : '\x22' ∉ run) (rest : List Char) :
    tokensOf ('\x22' :: (run ++ '\x22' :: rest)) = run :: tokensOf rest := by
  have hall : ∀ c ∈ run, decide (c ≠ '\x22') = true := by
    intro c hc
    simpa using ne_of_mem_of_not_mem hc h
  rw [tokensOf, if_pos rfl, if_pos (by simp), List.takeWhile_append_of_pos hall,
    List.dropWhile_append_of_pos hall]
  simp

/-- A quote that is not closed is passed over. -/
theorem tokensOf_open {rest : List Char} (h : '\x22' ∉ rest) :
    tokensOf ('\x22' :: rest) = tokensOf rest := by
  rw [tokensOf, if_pos rfl, if_neg (by simpa using h)]

/-- A blank in front is passed over. -/
theorem tokensOf_blank {c : Char} (h : Text.isBlank c = true) (rest : List Char) :
    tokensOf (c :: rest) = tokensOf rest := by
  rw [tokensOf, if_neg (ne_quote_of_isBlank h), if_pos h]

/-- A run of word characters is a word if something else follows, or nothing at all. -/
theorem tokensOf_run {run rest : List Char} (hrun : run ≠ [])
    (hword : ∀ c ∈ run, isWordChar c = true) (hrest : ∀ c ∈ rest.head?, isWordChar c = false) :
    tokensOf (run ++ rest) = run :: tokensOf rest := by
  obtain ⟨c, run, rfl⟩ := List.exists_cons_of_ne_nil hrun
  have hc : isWordChar c = true := hword c (by simp)
  have htail : ∀ d ∈ run, isWordChar d = true := fun d hd => hword d (by simp [hd])
  have hstop : rest.takeWhile isWordChar = [] ∧ rest.dropWhile isWordChar = rest := by
    cases rest with
    | nil => exact ⟨rfl, rfl⟩
    | cons d rest => simp [hrest d rfl]
  have hquote : c ≠ '\x22' := by
    rintro rfl
    rw [isWordChar_quote] at hc
    cases hc
  rw [List.cons_append, tokensOf, if_neg hquote, if_neg (by simp [isBlank_of_isWordChar hc]),
    List.takeWhile_append_of_pos htail, List.dropWhile_append_of_pos htail, hstop.1, hstop.2,
    List.append_nil]

/-! ### The scan and the plain reading -/

/-- A quote in front cuts off an empty piece. -/
theorem splitOn_quote_cons (rest : List Char) :
    ('\x22' :: rest).splitOn '\x22' = [] :: rest.splitOn '\x22' :=
  List.splitOn_append_cons_self_of_not_mem List.not_mem_nil rest

/-- A text without quotes goes to the front of the first piece of what follows it. -/
theorem splitOn_quote_append {cs : List Char} (h : '\x22' ∉ cs) (rest : List Char) :
    (cs ++ rest).splitOn '\x22' = (rest.splitOn '\x22').modifyHead (cs ++ ·) := by
  induction cs with
  | nil => exact (congrFun List.modifyHead_id _).symm
  | cons c cs ih =>
      rw [List.mem_cons, not_or] at h
      have hc : (c == '\x22') = false := beq_eq_false_iff_ne.mpr (Ne.symm h.1)
      rw [List.cons_append, List.splitOn_cons_eq_if_modifyHead, hc, ih h.2,
        List.modifyHead_modifyHead]
      rfl

/-- Where no word character follows, the first piece is empty or begins with a blank. -/
theorem isBlank_of_mem_splitOn {rest : List Char}
    (h : ∀ c ∈ rest.head?, isWordChar c = false) :
    ∀ piece ∈ (rest.splitOn '\x22').head?, ∀ c ∈ piece.head?, Text.isBlank c = true := by
  cases rest with
  | nil => simp
  | cons d rest =>
      by_cases hd : d = '\x22'
      · subst hd
        simp [splitOn_quote_cons]
      · have hblank : Text.isBlank d = true := by
          have := h d rfl
          simp_all [isWordChar]
        obtain ⟨piece, others, hsplit⟩ :=
          List.exists_cons_of_ne_nil (List.splitOn_ne_nil '\x22' rest)
        have hquote : '\x22' ∉ [d] := by simpa using Ne.symm hd
        have hcons := splitOn_quote_append hquote rest
        rw [List.singleton_append, hsplit] at hcons
        simp [hcons, hblank]

/-- **The scan finds the words of the pieces between quotes.** -/
theorem tokensOf_eq_wordsOfPieces (cs : List Char) :
    tokensOf cs = wordsOfPieces (cs.splitOn '\x22') := by
  induction cs using tokens_induction with
  | nil => rw [tokensOf]; rfl
  | closed run rest hrun ih =>
      rw [tokensOf_closed hrun, ih, splitOn_quote_cons,
        List.splitOn_append_cons_self_of_not_mem hrun,
        wordsOfPieces_cons_cons _ _ (List.splitOn_ne_nil _ _)]
      rfl
  | unclosed rest hrest ih =>
      rw [tokensOf_open hrest, ih, splitOn_quote_cons, List.splitOn_eq_singleton hrest]
      simp [wordsOfPieces_cons, pieceWords, plainWords_nil]
  | blank c rest hblank ih =>
      have hquote : '\x22' ∉ [c] := by simpa using (ne_quote_of_isBlank hblank).symm
      rw [tokensOf_blank hblank, ih, ← List.singleton_append, splitOn_quote_append hquote]
      exact (wordsOfPieces_modifyHead ([c] ++ ·) [] (List.splitOn_ne_nil _ _)
        fun piece _ => plainWords_cons_of_blank hblank piece).symm
  | run run rest hrun hword hrest ih =>
      rw [tokensOf_run hrun hword hrest, ih,
        splitOn_quote_append (quote_notMem_of_isWordChar hword)]
      have hsolid : ∀ c ∈ run, Text.isBlank c = false := fun c hc =>
        isBlank_of_isWordChar (hword c hc)
      exact (wordsOfPieces_modifyHead (run ++ ·) [run] (List.splitOn_ne_nil _ _)
        fun piece hpiece => plainWords_run_append hrun hsolid
          (isBlank_of_mem_splitOn hrest piece hpiece)).symm

/-! ### Blanks around a text -/

/-- Blanks in front make no token. -/
theorem tokensOf_blanks_append {blanks : List Char} (h : ∀ c ∈ blanks, Text.isBlank c = true)
    (cs : List Char) : tokensOf (blanks ++ cs) = tokensOf cs := by
  induction blanks with
  | nil => rfl
  | cons c blanks ih =>
      rw [List.cons_append, tokensOf_blank (h c (by simp)), ih fun d hd => h d (by simp [hd])]

/-- Nor do blanks at the end. -/
theorem tokensOf_append_blanks {blanks : List Char} (h : ∀ c ∈ blanks, Text.isBlank c = true)
    (cs : List Char) : tokensOf (cs ++ blanks) = tokensOf cs := by
  have hquote : '\x22' ∉ blanks := fun hmem => ne_quote_of_isBlank (h _ hmem) rfl
  induction cs using tokens_induction with
  | nil => simpa using tokensOf_blanks_append h []
  | closed run rest hrun ih =>
      rw [List.cons_append, List.append_assoc, List.cons_append, tokensOf_closed hrun, ih,
        tokensOf_closed hrun]
  | unclosed rest hrest ih =>
      rw [List.cons_append, tokensOf_open (by simp [hrest, hquote]), ih, tokensOf_open hrest]
  | blank c rest hblank ih =>
      rw [List.cons_append, tokensOf_blank hblank, ih, tokensOf_blank hblank]
  | run run rest hrun hword hrest ih =>
      have hstop : ∀ c ∈ (rest ++ blanks).head?, isWordChar c = false := by
        cases rest with
        | nil => exact fun c hc => isWordChar_of_isBlank (h c (List.mem_of_mem_head? hc))
        | cons d rest => exact hrest
      rw [List.append_assoc, tokensOf_run hrun hword hstop, ih, tokensOf_run hrun hword hrest]

/-- The leading blanks of a text hold no words, whatever follows the text. -/
theorem tokensOf_trimStart_append (cs rest : List Char) :
    tokensOf (Text.trimStart cs ++ rest) = tokensOf (cs ++ rest) := by
  have hblanks : ∀ c ∈ cs.takeWhile Text.isBlank, Text.isBlank c = true :=
    fun c => List.mem_takeWhile_imp
  conv_rhs => rw [← List.takeWhile_append_dropWhile (p := Text.isBlank) (l := cs),
    List.append_assoc]
  exact (tokensOf_blanks_append hblanks _).symm

/-- **Blanks around a text hold no words.** -/
theorem tokensOf_trim (cs : List Char) : tokensOf (Text.trim cs) = tokensOf cs := by
  have hend (ds : List Char) : tokensOf (Text.trimEnd ds) = tokensOf ds := by
    have hblanks : ∀ c ∈ ds.rtakeWhile Text.isBlank, Text.isBlank c = true :=
      fun c => List.mem_rtakeWhile_imp
    conv_rhs => rw [← List.rdropWhile_append_rtakeWhile (p := Text.isBlank) (l := ds)]
    rw [tokensOf_append_blanks hblanks]
    rfl
  have hstart : tokensOf (Text.trimStart cs) = tokensOf cs := by
    simpa using tokensOf_trimStart_append cs []
  rw [Text.trim, hend, hstart]

/-- A line has the same tokens without the blanks around it. -/
theorem tokens_strip (line : String) : tokens (Text.strip line) = tokens line := by
  rw [tokens, Text.toList_strip, tokensOf_trim, tokens]

/-! ### Quotes that nothing closes -/

/-- **A quote that nothing closes counts as a space.** -/
theorem tokensOf_unclosed {before after : List Char} (hbefore : before.count '\x22' % 2 = 0)
    (hafter : '\x22' ∉ after) :
    tokensOf (before ++ '\x22' :: after) = tokensOf (before ++ ' ' :: after) := by
  induction before using tokens_induction with
  | nil => rw [List.nil_append, tokensOf_open hafter, List.nil_append, tokensOf_blank isBlank_space]
  | closed run rest hrun ih =>
      have hrest : rest.count '\x22' % 2 = 0 := by
        simp [List.count_eq_zero_of_not_mem hrun] at hbefore
        omega
      simp only [List.cons_append, List.append_assoc, tokensOf_closed hrun, ih hrest]
  | unclosed rest hrest ih => simp [List.count_eq_zero_of_not_mem hrest] at hbefore
  | blank c rest hblank ih =>
      rw [List.count_cons_of_ne (ne_quote_of_isBlank hblank)] at hbefore
      simp only [List.cons_append, tokensOf_blank hblank, ih hbefore]
  | run run rest hrun hword hrest ih =>
      rw [List.count_append, List.count_eq_zero_of_not_mem (quote_notMem_of_isWordChar hword),
        Nat.zero_add] at hbefore
      have hstop {c : Char} (hc : isWordChar c = false) :
          ∀ d ∈ (rest ++ c :: after).head?, isWordChar d = false := by
        cases rest with
        | nil => simpa using hc
        | cons d rest => exact hrest
      rw [List.append_assoc, tokensOf_run hrun hword (hstop isWordChar_quote), ih hbefore,
        List.append_assoc, tokensOf_run hrun hword (hstop (isWordChar_of_isBlank isBlank_space))]

/-! ### Reading a line -/

/-- **How a line is read.** Its words are those of the pieces between its quotes. An unclosed last
quote counts as a space, and blanks around the line for nothing. The line names the command by its
first word in lowercase, and the other words are the arguments; the exception is `cd..` in any case,
with nothing but blanks around it. -/
theorem CommandLine.parse_eq_of_pieces (line : String) :
    tokens line = (wordsOfPieces (line.toList.splitOn '\x22')).map String.ofList ∧
    (∀ before after, line.toList = before ++ '\x22' :: after → '\x22' ∉ after →
      before.count '\x22' % 2 = 0 →
      tokens line = tokens (String.ofList (before ++ ' ' :: after))) ∧
    tokens (Text.strip line) = tokens line ∧
    CommandLine.parse line =
      if Text.lowercase (Text.strip line) = "cd.." then ⟨"cd", [".."]⟩
      else
        match tokens line with
        | [] => ⟨"", []⟩
        | name :: args => ⟨Text.lowercase name, args⟩ := by
  refine ⟨?_, ?_, tokens_strip line, ?_⟩
  · rw [tokens, tokensOf_eq_wordsOfPieces]
  · intro before after hline hafter hbefore
    rw [tokens, tokens, hline, tokensOf_unclosed hbefore hafter, String.toList_ofList]
  · rw [← tokens_strip line]
    rfl

/-- A quoted run inside a word, and a quote that nothing closes. -/
theorem CommandLine.parse_eq_of_pieces_said :
    tokens "say\x22hello there\x22now \x22and more" = ["say", "hello there", "now", "and", "more"] ∧
    tokens "say\x22hello there\x22now \x22and more" =
      tokens "say\x22hello there\x22now  and more" := by
  obtain ⟨hwords, hunclosed, -⟩ :=
    parse_eq_of_pieces "say\x22hello there\x22now \x22and more"
  refine ⟨?_, ?_⟩
  · rw [hwords]
    decide
  · exact hunclosed "say\x22hello there\x22now ".toList "and more".toList (by decide) (by decide)
      (by decide)

end VitaeShell
