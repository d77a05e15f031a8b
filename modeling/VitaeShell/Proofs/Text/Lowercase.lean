import VitaeShell.Proofs.Text

/-!
# Lowercase within a text

The lowercase of a text is put together from the lowercases of its stretches, each taken where it
stands (`lowerWithin`). That need not be the lowercase of the stretch on its own. The one letter
that looks around is the capital sigma: it is final if a cased letter precedes it and none follows,
and what precedes or follows may lie outside the stretch. Nothing else makes a difference
(`KeepsSigmas`), and the length of the lowercase is never touched by it: a stretch grows by one for
each capital I with a dot, wherever it stands.

## Main results

* `lower_append`: the lowercase of a text, stretch by stretch.
* `lowerWithin_eq_lower_iff`: a stretch is lowercased as on its own exactly if it keeps its sigmas.
* `length_lowerWithin`: how long the lowercase of a stretch is.
* `prefix_drop_lower_iff`: where a text has a stretch, its lowercase has the lowercase of the
  stretch exactly if the stretch keeps its sigmas.
-/

namespace VitaeShell.Text

/-- The capital sigma, the letter whose lowercase depends on its place. -/
def capitalSigma : Char := '\u03a3'

/-- The capital I with a dot, the letter whose lowercase is longer than itself. -/
def dottedI : Char := '\u0130'

/-- Whether a cased letter precedes what follows a text, looking past ignorable characters;
`inWord` says so of what follows nothing of it yet. -/
def inWordAfter (inWord : Bool) (front : List Char) : Bool :=
  front.foldl (fun inWord c => if isCaseIgnorable c then inWord else isCased c) inWord

/-- The lowercase of a letter at the end of a word or elsewhere. -/
def lowerLetterAt (atEnd : Bool) (c : Char) : List Char :=
  if c.toNat = 0x3a3 && atEnd then [Char.ofNat 0x3c2] else lowerLetter c

/-- The lowercase of a stretch that a cased letter precedes (`inWord`) or not, in front of another
text. -/
def lowerWithin (inWord : Bool) (behind : List Char) : List Char → List Char
  | [] => []
  | c :: rest =>
    lowerLetterAt (inWord && endsWord (rest ++ behind)) c ++
      lowerWithin (if isCaseIgnorable c then inWord else isCased c) behind rest

/-- A stretch **keeps its sigmas** between two texts if each of them is final there exactly if it is
final in the stretch on its own. -/
def KeepsSigmas (front stretch behind : List Char) : Prop :=
  ∀ before after, stretch = before ++ capitalSigma :: after →
    (inWordAfter false (front ++ before) && endsWord (after ++ behind)) =
      (inWordAfter false before && endsWord after)

/-- There is one character with the number of the capital sigma. -/
theorem toNat_eq_sigma_iff {c : Char} : c.toNat = 0x3a3 ↔ c = capitalSigma := by
  rw [← Char.toNat_inj]
  rfl

/-- There is one character with the number of the dotted capital I. -/
theorem toNat_eq_dottedI_iff {c : Char} : c.toNat = 0x130 ↔ c = dottedI := by
  rw [← Char.toNat_inj]
  rfl

/-- Whether a place is in a word is found by going on from the place before. -/
theorem inWordAfter_append (inWord : Bool) (front rest : List Char) :
    inWordAfter inWord (front ++ rest) = inWordAfter (inWordAfter inWord front) rest :=
  List.foldl_append

/-! ### Stretch by stretch -/

/-- The lowercase of a text is that of its front, within the text, and that of the rest. -/
theorem lowerFrom_append (inWord : Bool) (front rest : List Char) :
    lowerFrom inWord (front ++ rest) =
      lowerWithin inWord rest front ++ lowerFrom (inWordAfter inWord front) rest := by
  induction front generalizing inWord with
  | nil => rfl
  | cons c front ih =>
      rw [List.cons_append, lowerFrom, ih, lowerWithin, lowerLetterAt, Bool.and_assoc,
        List.append_assoc]
      rfl

/-- The lowercase of a text is that of its only stretch. -/
theorem lowerWithin_nil (inWord : Bool) (cs : List Char) :
    lowerWithin inWord [] cs = lowerFrom inWord cs := by
  have happend := lowerFrom_append inWord cs []
  rw [List.append_nil, lowerFrom, List.append_nil] at happend
  exact happend.symm

/-- **The lowercase of a text, stretch by stretch.** -/
theorem lower_append (front stretch behind : List Char) :
    lower (front ++ stretch ++ behind) =
      lowerWithin false (stretch ++ behind) front ++
        (lowerWithin (inWordAfter false front) behind stretch ++
          lowerFrom (inWordAfter false (front ++ stretch)) behind) := by
  rw [lower, List.append_assoc, lowerFrom_append, lowerFrom_append, inWordAfter_append]

/-! ### Lengths -/

/-- The dotted capital I is the only letter that gets longer. -/
theorem length_lowerLetterAt (atEnd : Bool) (c : Char) :
    (lowerLetterAt atEnd c).length = if c = dottedI then 2 else 1 := by
  rw [lowerLetterAt]
  split
  · next hsigma =>
      rw [Bool.and_eq_true, decide_eq_true_eq, toNat_eq_sigma_iff] at hsigma
      rw [hsigma.1, if_neg (by decide), List.length_singleton]
  · rw [lowerLetter]
    split
    · next hascii =>
        have hc : c ≠ dottedI := by
          rintro rfl
          exact absurd hascii (by decide)
        rw [if_neg hc, List.length_singleton]
    · simp only [toNat_eq_dottedI_iff]
      split
      · rfl
      · rfl

/-- **A stretch grows by one for each capital I with a dot**, wherever it stands. -/
theorem length_lowerWithin (inWord : Bool) (behind cs : List Char) :
    (lowerWithin inWord behind cs).length = cs.length + cs.count dottedI := by
  induction cs generalizing inWord with
  | nil => rfl
  | cons c rest ih =>
      rw [lowerWithin, List.length_append, length_lowerLetterAt, ih, List.length_cons]
      by_cases hc : c = dottedI
      · rw [if_pos hc, hc, List.count_cons_self]
        omega
      · rw [if_neg hc, List.count_cons_of_ne hc]
        omega

/-- A text gets longer by the number of its dotted capital Is. -/
theorem length_lower (cs : List Char) : (lower cs).length = cs.length + cs.count dottedI := by
  rw [lower, ← lowerWithin_nil, length_lowerWithin]

/-! ### A stretch where it stands, and on its own -/

/-- Only a capital sigma is lowercased otherwise at the end of a word. -/
theorem lowerLetterAt_eq_iff {atEnd atEnd' : Bool} {c : Char} :
    lowerLetterAt atEnd c = lowerLetterAt atEnd' c ↔ (c = capitalSigma → atEnd = atEnd') := by
  by_cases hc : c = capitalSigma
  · subst hc
    cases atEnd <;> cases atEnd' <;> decide
  · have hcode : ¬c.toNat = 0x3a3 := fun h => hc (toNat_eq_sigma_iff.mp h)
    simp [lowerLetterAt, hc, hcode]

/-- Two places lowercase a stretch alike if they agree on which of its sigmas are final. -/
theorem lowerWithin_eq_iff {inWord inWord' : Bool} {behind behind' stretch : List Char} :
    lowerWithin inWord behind stretch = lowerWithin inWord' behind' stretch ↔
      ∀ before after, stretch = before ++ capitalSigma :: after →
        (inWordAfter inWord before && endsWord (after ++ behind)) =
          (inWordAfter inWord' before && endsWord (after ++ behind')) := by
  induction stretch generalizing inWord inWord' with
  | nil => simp [lowerWithin]
  | cons c rest ih =>
      have hlength : (lowerLetterAt (inWord && endsWord (rest ++ behind)) c).length =
          (lowerLetterAt (inWord' && endsWord (rest ++ behind')) c).length := by
        rw [length_lowerLetterAt, length_lowerLetterAt]
      rw [lowerWithin, lowerWithin]
      constructor
      · intro heq before after hcut
        obtain ⟨hletter, hrest⟩ := List.append_inj heq hlength
        cases before with
        | nil =>
            obtain ⟨rfl, rfl⟩ := List.cons.inj hcut
            exact lowerLetterAt_eq_iff.mp hletter rfl
        | cons d before =>
            obtain ⟨rfl, htail⟩ := List.cons.inj hcut
            exact ih.mp hrest before after htail
      · intro hagree
        have hletter : lowerLetterAt (inWord && endsWord (rest ++ behind)) c =
            lowerLetterAt (inWord' && endsWord (rest ++ behind')) c := by
          rw [lowerLetterAt_eq_iff]
          rintro rfl
          exact hagree [] rest rfl
        rw [hletter, ih.mpr]
        rintro before after rfl
        exact hagree (c :: before) after rfl

/-- **A stretch is lowercased where it stands as it is on its own** exactly if it keeps its
sigmas. -/
theorem lowerWithin_eq_lower_iff {front stretch behind : List Char} :
    lowerWithin (inWordAfter false front) behind stretch = lower stretch ↔
      KeepsSigmas front stretch behind := by
  rw [lower, ← lowerWithin_nil, lowerWithin_eq_iff]
  simp only [KeepsSigmas, inWordAfter_append, List.append_nil]

/-- **Where a text has a stretch**, its lowercase has the lowercase of the stretch exactly if the
stretch keeps its sigmas there. -/
theorem prefix_drop_lower_iff {front stretch behind : List Char} :
    lower stretch <+: (lower (front ++ stretch ++ behind)).drop (lower front).length ↔
      KeepsSigmas front stretch behind := by
  have hlength : (lower front).length = (lowerWithin false (stretch ++ behind) front).length := by
    rw [length_lower, length_lowerWithin]
  rw [lower_append, hlength, List.drop_left, ← lowerWithin_eq_lower_iff]
  constructor
  · rintro ⟨tail, htail⟩
    refine (List.append_inj htail ?_).1.symm
    rw [length_lower, length_lowerWithin]
  · intro heq
    rw [heq]
    exact List.prefix_append ..

end VitaeShell.Text
