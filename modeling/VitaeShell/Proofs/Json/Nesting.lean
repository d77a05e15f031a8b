import VitaeShell.Json.Reader
import VitaeShell.Proofs.Fallible

/-!
# How deep a JSON text is nested

Each list and each object within another one starts with a bracket or a brace of its own, so that a
text is never nested deeper than it has of them (`openings`).

## Main results

* `readersDeep`: what every reader comes to.
* `lt_openings_of_decodeWithin`: a text that is nested too deep has too many brackets and braces.
-/

namespace VitaeShell.Json

/-- The number of brackets and braces that open in a text, those between quotes included. -/
def openings (cs : List Char) : Nat :=
  cs.countP fun c => c = '[' || c = '\x7b'

/-- The end of a text has no more openings than the text. -/
theorem openings_le_of_suffix {cs rest : List Char} (h : rest <:+ cs) :
    openings rest ≤ openings cs :=
  h.sublist.countP_le

/-- Without the blanks in front, the end of a text is left. -/
theorem skipBlanks_suffix (cs : List Char) : skipBlanks cs <:+ cs :=
  List.dropWhile_suffix _

/-- The same holds behind the first character. -/
theorem skipBlanks_suffix_of_cons {c : Char} {cs rest : List Char} (h : c :: rest <:+ cs) :
    skipBlanks rest <:+ cs :=
  (skipBlanks_suffix rest).trans ((List.suffix_cons c rest).trans h)

/-- What a reader comes to that reads no collections. -/
abbrev ReadsFlat {α : Type} (cs : List Char) (r : Except ReadFault (α × List Char)) : Prop :=
  Ends (fun fault => fault ≠ .tooDeep) (fun found => found.2 <:+ cs) r

/-- What a reader comes to that reads collections within one another. -/
abbrev ReadsDeep {α : Type} (depth : Nat) (cs : List Char)
    (r : Except ReadFault (α × List Char)) : Prop :=
  Ends (fun fault => fault = .tooDeep → depth < openings cs) (fun found => found.2 <:+ cs) r

/-- A text is never too deep, and what follows it is the end of what it is read from. -/
theorem ends_readText (cs : List Char) : ReadsFlat cs (readText cs) := by
  fun_induction readText cs
  case case1 | case7 | case10 | case13 | case14 => exact .error nofun
  case case2 => exact .ok (List.suffix_cons _ _)
  case case3 hread ih | case5 hread ih | case8 hread ih | case11 hread ih | case15 hread ih =>
    rw [hread] at ih
    exact .ok (ih.of_ok.trans (by simp [List.suffix_cons_iff]))
  case case4 hread ih | case6 hread ih | case9 hread ih | case12 hread ih | case16 hread ih =>
    rw [hread] at ih
    exact .error ih.of_error

/-- So is a number. -/
theorem ends_readNumber (cs : List Char) : ReadsFlat cs (readNumber cs) := by
  unfold readNumber
  extract_lets negative body whole afterWhole fraction exponent rest magnitude
  have hbody : body <:+ cs := by
    unfold body
    split
    · exact List.drop_suffix _ _
    · exact List.suffix_rfl
  have hrest : rest <:+ cs :=
    (List.drop_suffix _ _).trans
      ((List.drop_suffix _ _).trans ((List.drop_suffix _ _).trans hbody))
  refine .ite (fun _ => .error nofun) fun _ => .ite (fun _ => ?_) fun _ => ?_
  · exact .ite (fun _ => .error nofun) fun _ => .ok hrest
  · split
    · exact .ok hrest
    · exact .error nofun

/-! ### Collections -/

/-- What is read behind the start of a text is read of the text. -/
theorem ReadsDeep.of_suffix {α : Type} {depth : Nat} {cs rest : List Char}
    {r : Except ReadFault (α × List Char)} (h : ReadsDeep depth rest r) (hrest : rest <:+ cs) :
    ReadsDeep depth cs r :=
  h.imp (fun _ hfault hdeep => Nat.lt_of_lt_of_le (hfault hdeep) (openings_le_of_suffix hrest))
    fun _ hfound => hfound.trans hrest

/-- What does not go deeper fits into any depth. -/
theorem ReadsFlat.deep {α : Type} {cs : List Char} {r : Except ReadFault (α × List Char)}
    (h : ReadsFlat cs r) (depth : Nat) : ReadsDeep depth cs r :=
  h.imp (fun _ hfault hdeep => absurd hdeep hfault) fun _ hfound => hfound

/-- Behind a bracket or a brace, one less opens. -/
theorem openings_cons {c : Char} (hc : c = '[' ∨ c = '\x7b') (rest : List Char) :
    openings (c :: rest) = openings rest + 1 :=
  List.countP_cons_of_pos (by simpa using hc)

/-- What is in a collection is read one level further down. -/
theorem ReadsDeep.inside {α : Type} {depth : Nat} {c : Char} {rest : List Char}
    {r : Except ReadFault (α × List Char)} (hc : c = '[' ∨ c = '\x7b')
    (h : ReadsDeep depth (skipBlanks rest) r) : ReadsDeep (depth + 1) (c :: rest) r := by
  refine (h.of_suffix (skipBlanks_suffix rest)).imp (fun fault hfault hdeep => ?_)
    fun _ hfound => hfound.trans (List.suffix_cons _ _)
  rw [openings_cons hc]
  exact Nat.succ_lt_succ (hfault hdeep)

/-- What every reader comes to, with so much fuel. -/
structure ReadersDeep (fuel : Nat) : Prop where
  value : ∀ (depth : Nat) (cs : List Char), ReadsDeep depth cs (readValue fuel depth cs)
  items : ∀ (depth : Nat) (cs : List Char), ReadsDeep depth cs (readItems fuel depth cs)
  fields : ∀ (depth : Nat) (cs : List Char), ReadsDeep depth cs (readFields fuel depth cs)

theorem ReadersDeep.zero : ReadersDeep 0 := by
  constructor <;> intros <;> exact .error nofun

/-- **A value**, if what stands further down comes to that. -/
theorem ReadersDeep.value_succ {fuel : Nat} (h : ReadersDeep fuel) (depth : Nat)
    (cs : List Char) : ReadsDeep depth cs (readValue (fuel + 1) depth cs) := by
  have htooDeep {c : Char} (hc : c = '[' ∨ c = '\x7b') (rest : List Char) :
      0 < openings (c :: rest) := by
    rw [openings_cons hc]
    exact Nat.succ_pos _
  have hempty {rest last : List Char} {c d : Char} (hlast : skipBlanks rest = d :: last) :
      last <:+ c :: rest :=
    (List.suffix_cons d last).trans
      ((hlast ▸ skipBlanks_suffix rest).trans (List.suffix_cons c rest))
  unfold readValue
  split
  · next rest =>
      have htext := ((ends_readText rest).deep depth).of_suffix (List.suffix_cons '\x22' rest)
      generalize readText rest = r at htext
      cases htext with
      | ok hfound => exact .ok hfound
      | error hfault => exact .error hfault
  · next rest =>
      split
      · exact .error fun _ => htooDeep (.inl rfl) rest
      · next hlast => exact .ok (hempty hlast)
      · next depth _ =>
          have hitems := (h.items depth (skipBlanks rest)).inside (.inl rfl)
          generalize readItems fuel depth (skipBlanks rest) = r at hitems
          cases hitems with
          | ok hfound => exact .ok hfound
          | error hfault => exact .error hfault
  · next rest =>
      split
      · exact .error fun _ => htooDeep (.inr rfl) rest
      · next hlast => exact .ok (hempty hlast)
      · next depth _ =>
          have hfields := (h.fields depth (skipBlanks rest)).inside (.inr rfl)
          generalize readFields fuel depth (skipBlanks rest) = r at hfields
          cases hfields with
          | ok hfound => exact .ok hfound
          | error hfault => exact .error hfault
  -- a number, or a word that stands for a value
  case h_10 => exact (ends_readNumber _).deep depth
  all_goals exact .ok (by simp [List.suffix_cons_iff])

/-- The items of a list go no deeper than the openings in front of them allow. -/
theorem ReadersDeep.items_succ {fuel : Nat} (h : ReadersDeep fuel) (depth : Nat)
    (cs : List Char) : ReadsDeep depth cs (readItems (fuel + 1) depth cs) := by
  have hfirst := h.value depth cs
  unfold readItems
  split
  · next hread =>
      rw [hread] at hfirst
      exact .error hfirst.of_error
  · next item rest hread =>
      rw [hread] at hfirst
      have hblanks := (skipBlanks_suffix rest).trans hfirst.of_ok
      split
      · next rest hcomma =>
          have hnext := skipBlanks_suffix_of_cons (hcomma ▸ hblanks)
          have hitems := (h.items depth (skipBlanks rest)).of_suffix hnext
          generalize readItems fuel depth (skipBlanks rest) = r at hitems
          cases hitems with
          | ok hfound => exact .ok hfound
          | error hfault => exact .error hfault
      · next hclose => exact .ok ((List.suffix_cons _ _).trans (hclose ▸ hblanks))
      · exact .error nofun

/-- Nor do the fields of an object. -/
theorem ReadersDeep.fields_succ {fuel : Nat} (h : ReadersDeep fuel) (depth : Nat)
    (cs : List Char) : ReadsDeep depth cs (readFields (fuel + 1) depth cs) := by
  unfold readFields
  split
  · next cs =>
      have hname := ((ends_readText cs).deep depth).of_suffix (List.suffix_cons '\x22' cs)
      split
      · next hread =>
          rw [hread] at hname
          exact .error hname.of_error
      · next name rest hread =>
          rw [hread] at hname
          have hblanks := (skipBlanks_suffix rest).trans hname.of_ok
          split
          · next rest hcolon =>
              have hnext := skipBlanks_suffix_of_cons (hcolon ▸ hblanks)
              have hvalue := (h.value depth (skipBlanks rest)).of_suffix hnext
              split
              · next hread =>
                  rw [hread] at hvalue
                  exact .error hvalue.of_error
              · next value rest hread =>
                  rw [hread] at hvalue
                  have hblanks := (skipBlanks_suffix rest).trans hvalue.of_ok
                  split
                  · next rest hcomma =>
                      have hnext := skipBlanks_suffix_of_cons (hcomma ▸ hblanks)
                      have hfields := (h.fields depth (skipBlanks rest)).of_suffix hnext
                      generalize readFields fuel depth (skipBlanks rest) = r at hfields
                      cases hfields with
                      | ok hfound => exact .ok hfound
                      | error hfault => exact .error hfault
                  · next hclose => exact .ok ((List.suffix_cons _ _).trans (hclose ▸ hblanks))
                  · exact .error nofun
          · exact .error nofun
  · exact .error nofun

/-- **Every reader** comes to that, with any amount of fuel. -/
theorem readersDeep (fuel : Nat) : ReadersDeep fuel := by
  induction fuel with
  | zero => exact .zero
  | succ fuel ih => exact ⟨ih.value_succ, ih.items_succ, ih.fields_succ⟩

/-- **A text that is nested too deep** has too many brackets and braces. -/
theorem lt_openings_of_decodeWithin {depth : Nat} {cs : List Char}
    (h : decodeWithin depth cs = .error .tooDeep) : depth < openings cs := by
  have hvalue := ((readersDeep (2 * cs.length + 2)).value depth (skipBlanks cs)).of_suffix
    (skipBlanks_suffix cs)
  rw [decodeWithin] at h
  split at h
  · next hread =>
      cases h
      rw [hread] at hvalue
      exact hvalue.of_error rfl
  · split at h
    · cases h
    · cases h

end VitaeShell.Json
