import VitaeShell.Proofs.Number.Binary64
import VitaeShell.Proofs.Text
import VitaeShell.Proofs.Yaml.Document
import VitaeShell.Proofs.Yaml.Lexer
import VitaeShell.Proofs.Yaml.Merging
import VitaeShell.Yaml.Construction

/-!
# Documents that have no value

A YAML source that has no value is malformed, or its bytes spell no text, or a single value of it is
out of bounds, or it holds one of a few rare things (`Hazard`): a text that its tag cannot be given
to at all (`Misfits`), a mapping for a point in time, a detour or a nesting that is too deep, or the
code of a character that is too large. All of them stand in the document as it was written, whatever
has been merged by the time at which they are met.

## Main results

* `Graph.ends_scalarDatum`: the value of a node that is no collection.
* `Construction.ends_readAll`: the values of all collections.
* `ends_read`: the value of a source, which it only has if all its bytes spell a text.
-/

namespace VitaeShell.Yaml

/-! ### Texts that do not fit -/

/-- A text without the line end after it. -/
def withoutLineEnd (text : String) : List Char :=
  if text.toList.getLast? = some '\n' then text.toList.dropLast else text.toList

/-- The parts of a floating-point number in base sixty. -/
def sixtiethsOf (text : String) : List (List Char) :=
  (Tag.unsigned (Text.lower (withoutSpacers text))).splitOn ':'

/-- The number of parts up to which each place of a number in base sixty has a weight. -/
def maxSixtieths : Nat := 174

/-- A text **misfits** a tag if there is nothing that the tag could make of it. -/
inductive Misfits (text : String) : Tag → Fault → Prop
  | truthValue : truthValues.lookup (Text.lowercase text) = none →
      Misfits text .bool .unknownTruthValue
  | emptyInt : Tag.unsigned (withoutSpacers text) = [] → Misfits text .int .emptyNumeral
  | emptyFloat : withoutSpacers text = [] → Misfits text .float .emptyNumeral
  | longFloat : maxSixtieths < (sixtiethsOf text).length → Misfits text .float .valueTooLarge
  | timestamp : Moment.read? (withoutLineEnd text) = none →
      Misfits text .timestamp .unreadableTimestamp

/-- What can be wrong about the text of a value. -/
inductive ValueFault (text : String) (tag : Tag) : Fault → Prop
  | badValue : ValueFault text tag .badValue
  | misfit {fault : Fault} : Misfits text tag fault → ValueFault text tag fault

/-- A text is a truth value, or misfits the tag for one. -/
theorem ends_truthValue (text : String) :
    Ends (ValueFault text .bool) (fun _ => True) (truthValue text) := by
  rw [truthValue]
  split
  · exact .ok trivial
  · next hnone => exact .error (.misfit (.truthValue hnone))

/-- Digits in a base are a whole number, or the value is bad. -/
theorem ends_wholeIn (text : String) (tag : Tag) (base : Nat) (cs : List Char) :
    Ends (ValueFault text tag) (fun _ => True) (wholeIn base cs) := by
  rw [wholeIn]
  split
  · exact .ok trivial
  · exact .error .badValue

/-- A text is a whole number, or misfits the tag for one. -/
theorem ends_wholeNumber (text : String) :
    Ends (ValueFault text .int) (fun _ => True) (wholeNumber text) := by
  have hwhole := ends_wholeIn text .int
  unfold wholeNumber
  extract_lets cs sign finish
  have hfinish : ∀ magnitude, True →
      Ends (ValueFault text .int) (fun _ => True) (finish magnitude) :=
    fun _ _ => .ok trivial
  split
  · next hempty => exact .error (.misfit (.emptyInt hempty))
  · exact .bind (.ok trivial) hfinish
  · exact (hwhole 2 _).bind hfinish
  · exact (hwhole 16 _).bind hfinish
  · exact (hwhole 8 _).bind hfinish
  · refine .ite (fun _ => ?_) fun _ => (hwhole 10 _).bind hfinish
    refine (Ends.mapM fun part _ => hwhole 10 part).bind fun parts _ => ?_
    exact .bind (.ok trivial) hfinish

/-- A text is a decimal, or the value is bad. -/
theorem ends_decimal (text : String) (tag : Tag) (cs : List Char) :
    Ends (ValueFault text tag) (fun _ => True) (decimal cs) := by
  rw [decimal]
  split
  · exact .ok trivial
  · exact .error .badValue

/-- A place has no weight only if it comes after so many others. -/
theorem ends_sixtieths (total : Binary64) (weight : Nat) (parts : List Binary64) :
    Ends (fun fault => fault = .valueTooLarge ∧
        ∃ n < parts.length, 1023 ≤ (weight * 60 ^ n).log2)
      (fun _ => True) (sixtieths total weight parts) := by
  induction parts generalizing total weight with
  | nil => exact .ok trivial
  | cons part parts ih =>
      rw [sixtieths]
      split
      · next hinfinite =>
          refine .error ⟨rfl, 0, by simp, ?_⟩
          rw [Nat.pow_zero, Nat.mul_one]
          exact Binary64.le_log2_of_ofInt_eq_infinite hinfinite
      · refine (ih _ _).imp ?_ fun _ h => h
        rintro fault ⟨rfl, n, hn, hlog⟩
        refine ⟨rfl, n + 1, by simpa using hn, ?_⟩
        rwa [Nat.pow_succ, Nat.mul_comm (60 ^ n), ← Nat.mul_assoc]

/-- The weight of a place is too large only behind so many others. -/
theorem le_of_le_log2 {n : Nat} (h : 1023 ≤ (1 * 60 ^ n).log2) : maxSixtieths ≤ n := by
  by_contra hn
  have hn : n ≤ 173 := by
    rw [maxSixtieths] at hn
    omega
  have hlt : 60 ^ n < 2 ^ 1023 :=
    (Nat.pow_le_pow_right (by decide) hn).trans_lt (by decide +kernel)
  rw [Nat.one_mul, Nat.le_log2 (by positivity)] at h
  omega

/-- A text is a floating-point number, or misfits the tag for one. -/
theorem ends_floatNumber (text : String) :
    Ends (ValueFault text .float) (fun _ => True) (floatNumber text) := by
  unfold floatNumber
  extract_lets cs body finish
  have hfinish : ∀ magnitude, True →
      Ends (ValueFault text .float) (fun _ => True) (finish magnitude) :=
    fun _ _ => .ok trivial
  refine .ite (fun hempty => ?_) fun _ => .ite (fun _ => .bind (.ok trivial) hfinish) fun _ => ?_
  · refine .error (.misfit (.emptyFloat ?_))
    exact Text.lowerFrom_eq_nil_iff.mp (List.isEmpty_iff.mp hempty)
  · refine .ite (fun _ => ?_) fun _ => (ends_decimal text _ body).bind hfinish
    refine (Ends.mapM fun part _ => ends_decimal text _ part).bind fun parts hparts => ?_
    refine ((ends_sixtieths _ _ _).imp ?_ fun _ h => h).bind hfinish
    rintro fault ⟨rfl, n, hn, hlog⟩
    refine .misfit (.longFloat ?_)
    calc maxSixtieths ≤ n := le_of_le_log2 hlog
      _ < parts.reverse.length := hn
      _ = (sixtiethsOf text).length := by rw [List.length_reverse, hparts.1]; rfl

/-- A text is that of bytes, or it is malformed. -/
theorem ends_binary (text : String) :
    Ends (· = .malformed) (fun _ => True) (binary text) := by
  rw [binary]
  refine .ite (fun _ => ?_) fun _ => .error rfl
  split
  · exact .ok trivial
  · exact .error rfl

/-- The value of such a number fails as the number does. -/
theorem ends_floatDatum (id : NodeId) (text : String) :
    Ends (ValueFault text .float) (fun _ => True) (floatDatum id text) := by
  rw [floatDatum]
  refine .ite (fun _ => .ok trivial) fun _ => ?_
  refine (ends_floatNumber text).bind fun value _ => ?_
  split <;> exact .ok trivial

/-- A text is a moment, or misfits the tag for one. -/
theorem ends_ofText (text : String) :
    Ends (ValueFault text .timestamp) (fun _ => True) (Moment.ofText text) := by
  have hoffset (zone : Option (Bool × List Char × List Char)) :
      Ends (ValueFault text .timestamp) (fun _ => True) (Moment.offset? zone) := by
    cases zone with
    | none => exact .ok trivial
    | some zone => exact .ite (fun _ => .ok trivial) fun _ => .error .badValue
  unfold Moment.ofText
  extract_lets cs
  split
  · next hnone => exact .error (.misfit (.timestamp hnone))
  · extract_lets year month day
    split
    · exact .ite (fun _ => .ok trivial) fun _ => .error .badValue
    · extract_lets hour minute second
      refine (hoffset _).bind fun offset _ => ?_
      exact .ite (fun _ => .ok trivial) fun _ => .error .badValue

/-! ### Nodes that have no value -/

namespace Graph

/-- The text that a node **stands for**: its own, or that of a node to which keys `=` lead on. -/
inductive StandsFor (g : Graph) : NodeId → String → Prop
  | scalar {id : NodeId} {text : String} : (g.node id).content = .scalar text → StandsFor g id text
  | through {id next : NodeId} {text : String} : g.LeadsOn .value id next → StandsFor g next text →
      StandsFor g id text

/-- A document holds something **unfit**, of which there is no value. -/
inductive Unfit (g : Graph) : Fault → Prop
  | misfit {id : NodeId} {text : String} {fault : Fault} : g.StandsFor id text →
      Misfits text (g.tag id) fault → Unfit g fault
  | momentOfMapping {id : NodeId} {pairs : List NodePair} : g.tag id = .timestamp →
      (g.node id).content = .mapping pairs → Unfit g .timestampOfMapping
  | endlessKeys {id : NodeId} : g.Detour .value maxDetours id → Unfit g .tooDeep
  | endlessMerges {id : NodeId} : g.Detour .merge (maxDetours + 1) id → Unfit g .tooDeep

/-- What can be wrong about a document. -/
inductive NodeFault (g : Graph) : Fault → Prop
  | malformed : NodeFault g .malformed
  | badValue : NodeFault g .badValue
  | unfit {fault : Fault} : g.Unfit fault → NodeFault g fault

section

variable {g₀ g : Graph}

/-- **The text of a node** is one that it has stood for from the start. -/
theorem ends_textFrom (hg : g₀.Descends g) (depth : Nat) (id : NodeId) :
    Ends (fun fault => fault = .malformed ∨ fault = .tooDeep ∧ g₀.Detour .value depth id)
      (g₀.StandsFor id) (g.textFrom depth id) := by
  induction depth generalizing id with
  | zero => exact .error (.inr ⟨rfl, .stay id⟩)
  | succ depth ih =>
      rw [textFrom]
      split
      · next text htext => exact .ok (.scalar (hg.scalar_eq htext))
      · exact .error (.inl rfl)
      · next pairs hpairs =>
          split
          · next value hvalue =>
              obtain ⟨pair, hpair, rfl⟩ := Option.map_eq_some_iff.mp hvalue
              have hkey : g.tag pair.1 = .value := by simpa using List.find?_some hpair
              have hleads : g₀.LeadsOn .value id pair.2 :=
                hg.leadsOn (.inr rfl) (.value hpairs (List.mem_of_find?_eq_some hpair) hkey)
              refine (ih pair.2).imp ?_ fun text htext => .through hleads htext
              rintro fault (rfl | ⟨rfl, hdetour⟩)
              · exact .inl rfl
              · exact .inr ⟨rfl, .step hleads hdetour⟩
          · exact .error (.inl rfl)

/-- The text of a node is one that it stands for, or the document is at fault. -/
theorem ends_text (hg : g₀.Descends g) (id : NodeId) :
    Ends g₀.NodeFault (g₀.StandsFor id) (g.text id) := by
  refine (ends_textFrom hg maxDetours id).imp ?_ fun _ h => h
  rintro fault (rfl | ⟨rfl, hdetour⟩)
  · exact .malformed
  · exact .unfit (.endlessKeys hdetour)

/-- A tag that is neither a text's nor that of a key `=` has been there from the start. -/
theorem Descends.tag_of_ne (hg : g₀.Descends g) {id : NodeId} {tag : Tag} (htag : g.tag id = tag)
    (htext : tag ≠ .text) : g₀.tag id = tag := by
  rcases hg.tag_cases id with hsame | ⟨-, hretagged⟩
  · rw [← hsame, htag]
  · exact absurd (htag.symm.trans hretagged) htext

/-- What is wrong about the text of a node is wrong about the document. -/
theorem ends_of_valueFault {α : Type} {id : NodeId} {text : String} {tag : Tag}
    {r : Except Fault α} (htext : g₀.StandsFor id text) (htag : g₀.tag id = tag)
    (h : Ends (ValueFault text tag) (fun _ => True) r) : Ends g₀.NodeFault (fun _ => True) r := by
  refine h.imp ?_ fun _ h => h
  rintro fault (_ | hmisfit)
  · exact .badValue
  · exact .unfit (.misfit htext (htag ▸ hmisfit))

/-- Only scalars and mappings stand for a text. -/
theorem StandsFor.content_ne_sequence {id : NodeId} {text : String} (h : g.StandsFor id text)
    (items : List NodeId) : (g.node id).content ≠ .sequence items := by
  intro hitems
  cases h with
  | scalar hscalar =>
      rw [hitems] at hscalar
      cases hscalar
  | through hleads _ =>
      cases hleads with
      | value hpairs _ _ | item hpairs _ _ _ _ _ =>
          rw [hitems] at hpairs
          cases hpairs

/-- So it is with the moment of a node, which must not be a mapping. -/
theorem ends_moment (hg : g₀.Descends g) {id : NodeId} (htag : g₀.tag id = .timestamp) :
    Ends g₀.NodeFault (fun _ => True) (g.moment id) := by
  rw [Graph.moment]
  refine (ends_text hg id).bind fun text htext => ?_
  split
  · exact ends_of_valueFault htext htag (ends_ofText text)
  · next content hscalar =>
      cases hcontent : (g.node id).content with
      | scalar text => exact absurd hcontent (hscalar text)
      | sequence items => exact absurd (hg.sequence_eq hcontent) (htext.content_ne_sequence items)
      | mapping pairs =>
          obtain ⟨before, hbefore, -⟩ := hg.exists_mapping hcontent
          exact .error (.unfit (.momentOfMapping htag hbefore))

/-- **The value of a node that is no collection** is missing only if the document is malformed or
unfit. -/
theorem ends_scalarDatum (hg : g₀.Descends g) (id : NodeId) :
    Ends g₀.NodeFault (fun _ => True) (g.scalarDatum id) := by
  have htext := ends_text hg id
  rw [scalarDatum]
  split
  · exact htext.bind fun _ _ => .ok trivial
  · next htag =>
      refine htext.bind fun text htext => ?_
      exact (ends_of_valueFault htext (hg.tag_of_ne htag nofun) (ends_truthValue text)).bind
        fun _ _ => .ok trivial
  · next htag =>
      refine htext.bind fun text htext => ?_
      exact (ends_of_valueFault htext (hg.tag_of_ne htag nofun) (ends_wholeNumber text)).bind
        fun _ _ => .ok trivial
  · next htag =>
      refine htext.bind fun text htext => ?_
      exact ends_of_valueFault htext (hg.tag_of_ne htag nofun) (ends_floatDatum id text)
  · refine htext.bind fun text _ => ?_
    exact ((ends_binary text).imp (fun _ hfault => hfault ▸ .malformed) fun _ h => h).bind
      fun _ _ => .ok trivial
  · next htag => exact (ends_moment hg (hg.tag_of_ne htag nofun)).bind fun _ _ => .ok trivial
  · exact htext.bind fun _ _ => .ok trivial
  · exact .error .malformed

end

end Graph

/-! ### Collections -/

namespace Construction

variable {g₀ : Graph} {c : Construction}

/-- A document on the way to its value: merging is all that has changed it. -/
def Of (g₀ : Graph) (c : Construction) : Prop :=
  g₀.Descends c.graph

/-- Whatever is made of a document, it goes on as one of it, or ends in a fault of it. -/
abbrev Makes {α : Type} (g₀ : Graph) (r : Except Fault (α × Construction)) : Prop :=
  Ends g₀.NodeFault (fun found => found.2.Of g₀) r

/-- A node that is met goes on as one of the document. -/
theorem makes_meet (hc : c.Of g₀) (id : NodeId) : Makes g₀ (c.meet id) := by
  rw [meet]
  split
  · exact .ok hc
  · extract_lets isCollection finish
    have hfinish : ∀ datum, True → Makes g₀ (finish datum) := fun _ _ => .ok hc
    refine .ite (fun _ => .bind (.ok trivial) hfinish) fun _ => ?_
    exact (Graph.ends_scalarDatum hc id).bind hfinish

/-- So do any number of nodes. -/
theorem makes_meetAll (hc : c.Of g₀) (ids : List NodeId) : Makes g₀ (c.meetAll ids) := by
  induction ids generalizing c with
  | nil => exact .ok hc
  | cons id ids ih =>
      rw [meetAll]
      refine (makes_meet hc id).bind fun ⟨datum, c⟩ hc => ?_
      exact (ih hc).bind fun found hfound => .ok hfound

/-- So do the keys and values of a mapping. -/
theorem makes_meetEntries (hc : c.Of g₀) (pairs : List NodePair) :
    Makes g₀ (c.meetEntries pairs) := by
  induction pairs generalizing c with
  | nil => exact .ok hc
  | cons pair pairs ih =>
      obtain ⟨key, value⟩ := pair
      rw [meetEntries]
      refine (makes_meet hc key).bind fun ⟨datum, c⟩ hc => ?_
      split
      · exact .error .malformed
      · next heq =>
          cases heq
          refine (makes_meet hc value).bind fun ⟨datum, c⟩ hc => ?_
          exact (ih hc).bind fun found hfound => .ok hfound

/-- So do the pairs of a list. -/
theorem makes_meetPairs (hc : c.Of g₀) (ids : List NodeId) : Makes g₀ (c.meetPairs ids) := by
  induction ids generalizing c with
  | nil => exact .ok hc
  | cons id ids ih =>
      rw [meetPairs]
      split
      · refine (makes_meet hc _).bind fun ⟨key, c⟩ hc => ?_
        refine (makes_meet hc _).bind fun ⟨value, c⟩ hc => ?_
        exact (ih hc).bind fun found hfound => .ok hfound
      · exact .error .malformed

/-- So do the entries of a mapping, once it is merged. -/
theorem makes_entries (hc : c.Of g₀) (id : NodeId) : Makes g₀ (c.entries id) := by
  rw [entries]
  split
  · next pairs hpairs =>
      refine ((Graph.ends_flatten hc hpairs).imp ?_ fun g' hg' => hc.trans hg'.1).bind ?_
      · rintro fault (- | hdetour)
        · exact .malformed
        · exact .unfit (.endlessMerges hdetour)
      · intro g' hg'
        have hmerged : { c with graph := g' }.Of g₀ := hg'
        exact (makes_meetEntries hmerged _).bind fun found hfound => .ok hfound
  · exact .error .malformed

/-- So does whatever a node holds. -/
theorem makes_contents (hc : c.Of g₀) (id : NodeId) : Makes g₀ (c.contents id) := by
  rw [contents]
  split
  · exact (makes_meetAll hc _).bind fun found hfound => .ok hfound
  · exact (makes_meetPairs hc _).bind fun found hfound => .ok hfound
  · exact (makes_meetPairs hc _).bind fun found hfound => .ok hfound
  · exact (makes_entries hc id).bind fun found hfound => .ok hfound
  · exact (makes_entries hc id).bind fun found hfound => .ok hfound
  · exact .error .malformed

/-- What a node holds is read of the document, or the document is at fault. -/
theorem ends_read (hc : c.Of g₀) (id : NodeId) :
    Ends g₀.NodeFault (Of g₀) (c.read id) := by
  rw [read]
  exact (makes_contents hc id).bind fun found hfound => .ok hfound

/-- **The values of all collections** are made, unless the document is malformed or unfit. -/
theorem ends_readAll (hc : c.Of g₀) (rounds : Nat) :
    Ends g₀.NodeFault (Of g₀) (c.readAll rounds) := by
  induction rounds generalizing c with
  | zero => exact .ok hc
  | succ rounds ih =>
      rw [readAll]
      refine .ite (fun _ => .ok hc) fun _ => ?_
      have hnone : { c with waiting := [] }.Of g₀ := hc
      exact (Ends.foldlM (fun _ id hc => ends_read hc id) hnone).bind fun c hc => ih hc

end Construction

/-! ### Sources -/

/-- A document has a value unless it is malformed or unfit. -/
theorem Document.ends_value (document : Document) :
    Ends document.graph.NodeFault (fun _ => True) document.value := by
  have hstart : (Construction.ofGraph document.graph).Of document.graph := .refl _
  rw [value]
  refine (Construction.makes_meet hstart _).bind fun ⟨datum, c⟩ hc => ?_
  exact (Construction.ends_readAll hc _).bind fun _ _ => .ok trivial

/-- A source holds a **hazard**, for which it may have no value although it is not malformed and
none of its values is out of bounds. -/
inductive Hazard (source : Text.Source) : Fault → Prop
  | hugeCode : WritesHugeCode source.text → Hazard source .valueTooLarge
  | nesting : maxNesting < openings (tokens source) → Hazard source .tooDeep
  | unfit {document : Document} {fault : Fault} :
      Document.ofTokens (tokens source) = .ok (some document) → document.graph.Unfit fault →
      Hazard source fault

/-- What can be wrong about a source. -/
inductive SourceFault (source : Text.Source) : Fault → Prop
  | malformed : SourceFault source .malformed
  | notText : source.broken = true → SourceFault source .notText
  | badValue : SourceFault source .badValue
  | hazard {fault : Fault} : Hazard source fault → SourceFault source fault

/-- A fault that is found in the text of a source is one of the source. -/
theorem SourceFault.of_text {source : Text.Source} {fault : Fault}
    (h : TextFault (Cursor.ofSource source) fault) : SourceFault source fault := by
  cases h with
  | malformed => exact .malformed
  | badValue => exact .badValue
  | barred hbarrier =>
      obtain rfl | ⟨rfl, hbroken⟩ := Cursor.barrier_ofSource hbarrier
      · exact .malformed
      · exact .notText hbroken
  | hugeCode hcode =>
      obtain ⟨digits, hdigits, hcode⟩ := hcode
      exact .hazard (.hugeCode ⟨digits, hdigits.trans (Cursor.rest_ofSource source).isInfix, hcode⟩)

/-- **Reading a source** gives a value only if all bytes spell a text. It fails because the source
is malformed, or its bytes spell no text, or a single value is out of bounds, or for a hazard that
the source holds. -/
theorem ends_read (source : Text.Source) :
    Ends (SourceFault source) (fun _ => source.broken = false) (read source) := by
  have hsound := tokens_sound source
  have hdocument := Document.ends_ofTokens (tokens source)
  rw [read]
  cases hread : Document.ofTokens (tokens source) with
  | error fault =>
      rw [hread] at hdocument
      refine .error ?_
      cases hdocument.of_error with
      | malformed => exact .malformed
      | marked hmem => exact .of_text (hsound _ hmem)
      | tooDeep hdeep => exact .hazard (.nesting hdeep)
  | ok found =>
      rw [hread] at hdocument
      have hwhole := Cursor.broken_eq_false (hsound _ hdocument.of_ok)
      cases found with
      | none => exact .ok hwhole
      | some document =>
          refine document.ends_value.imp ?_ fun _ _ => hwhole
          rintro fault (_ | _ | hunfit)
          · exact .malformed
          · exact .badValue
          · exact .hazard (.unfit hread hunfit)

/-! ### Mild faults -/

/-- A **mild** fault: the source is no document, or a single value of it is out of bounds. -/
inductive Fault.Mild : Fault → Prop
  | malformed : Mild .malformed
  | notText : Mild .notText
  | badValue : Mild .badValue

/-- A source without a value has a mild fault, or it holds a hazard. -/
theorem SourceFault.mild_or_hazard {source : Text.Source} {fault : Fault}
    (h : SourceFault source fault) : fault.Mild ∨ Hazard source fault := by
  cases h with
  | malformed => exact .inl .malformed
  | notText _ => exact .inl .notText
  | badValue => exact .inl .badValue
  | hazard hhazard => exact .inr hhazard

end VitaeShell.Yaml
