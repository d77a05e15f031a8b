import VitaeShell.Proofs.Json.Number
import VitaeShell.Proofs.Table

/-!
# Writing and reading values

Reading undoes writing. A value is `Exact` if nothing of it is lost in its text: it holds no
floating-point number, no whole number of more digits than are read, and no object with two fields
of one name. The text of such a value reads back as the value, however deep it is, as
soon as the reader admits that many lists and objects within one another (`nesting`).

Without the bound on its whole numbers a value is `Sound`. Nothing worse can happen to the text of
such a value than that a reader refuses it for a numeral that is too long.

## Main results

* `Sound.readsOut`: a written value is read back, or refused for a numeral if it is not exact, in
  front of any text that does not go on a number, with fuel for twice its length.
* `Sound.decodeWithin_encodeChars`, `Exact.decodeWithin_encodeChars`: so is a whole text.
* `Exact.plainAscii_encodeChars`: a written value is plain ASCII, and so takes one line.
-/

namespace VitaeShell.Json

/-- A value of which nothing is lost in its text. -/
inductive Exact : Json → Prop
  | null : Exact .null
  | bool (value : Bool) : Exact (.bool value)
  | int {value : Int} : IsReadable value → Exact (.int value)
  | text (value : String) : Exact (.text value)
  | list {items : List Json} : (∀ item ∈ items, Exact item) → Exact (.list items)
  | object {fields : List (String × Json)} :
      Table.Distinct fields → (∀ field ∈ fields, Exact field.2) → Exact (.object fields)

/-- A value of which nothing but whole numbers with too many digits can be lost in its text. -/
inductive Sound : Json → Prop
  | null : Sound .null
  | bool (value : Bool) : Sound (.bool value)
  | int (value : Int) : Sound (.int value)
  | text (value : String) : Sound (.text value)
  | list {items : List Json} : (∀ item ∈ items, Sound item) → Sound (.list items)
  | object {fields : List (String × Json)} :
      Table.Distinct fields → (∀ field ∈ fields, Sound field.2) → Sound (.object fields)

/-- A value of which nothing is lost is sound. -/
theorem Exact.sound {value : Json} (h : value.Exact) : value.Sound := by
  induction h with
  | null => exact .null
  | bool value => exact .bool value
  | int _ => exact .int _
  | text value => exact .text value
  | list _ ih => exact .list ih
  | object hdistinct _ ih => exact .object hdistinct ih

/-- A list is exact if its items are. -/
theorem exact_list_iff {items : List Json} :
    (Json.list items).Exact ↔ ∀ item ∈ items, item.Exact := by
  constructor
  · rintro ⟨⟩
    assumption
  · exact .list

/-- An object without a name twice is exact if its values are. -/
theorem exact_object_iff {fields : List (String × Json)} (h : Table.Distinct fields) :
    (Json.object fields).Exact ↔ ∀ field ∈ fields, field.2.Exact := by
  constructor
  · rintro ⟨⟩
    assumption
  · exact .object h

mutual

/-- The number of lists and objects that stand within one another. -/
def nesting : Json → Nat
  | .list items => nestingOfItems items + 1
  | .object fields => nestingOfFields fields + 1
  | _ => 0

/-- `nesting` over the items of a list. -/
def nestingOfItems : List Json → Nat
  | [] => 0
  | item :: rest => max (nesting item) (nestingOfItems rest)

/-- `nesting` over the fields of an object. -/
def nestingOfFields : List (String × Json) → Nat
  | [] => 0
  | (_, value) :: rest => max (nesting value) (nestingOfFields rest)

end

/-! ### Where a value starts -/

/-- A character that is no blank and closes no list. -/
def OpensValue (c : Char) : Prop :=
  ¬(c = ' ' ∨ c = '\t' ∨ c = '\n' ∨ c = '\r') ∧ c ≠ ']'

instance (c : Char) : Decidable (OpensValue c) := by
  unfold OpensValue
  infer_instance

/-- A digit opens a value. -/
theorem OpensValue.of_isDigit {c : Char} (h : isDigit c = true) : OpensValue c := by
  constructor
  · rintro (rfl | rfl | rfl | rfl) <;> exact absurd h (by decide)
  · rintro rfl
    exact absurd h (by decide)

/-- A text without blanks in front stays as it is. -/
theorem skipBlanks_cons {c : Char} (cs : List Char) (h : OpensValue c) :
    skipBlanks (c :: cs) = c :: cs := by
  rw [skipBlanks, List.dropWhile_cons_of_neg]
  simpa [or_assoc] using h.1

/-- A written value starts with a character that opens a value. -/
theorem Sound.exists_cons {value : Json} (h : value.Sound) :
    ∃ c cs, value.encodeChars = c :: cs ∧ OpensValue c := by
  cases h with
  | null => exact ⟨'n', _, rfl, by decide⟩
  | bool value =>
      cases value
      · exact ⟨'f', _, rfl, by decide⟩
      · exact ⟨'t', _, rfl, by decide⟩
  | int value =>
      rw [encodeChars]
      obtain ⟨d, ds, heq, hd⟩ | ⟨d, ds, heq, -⟩ := toList_toString_int_cases value
      · exact ⟨d, ds, heq, .of_isDigit hd⟩
      · exact ⟨'-', d :: ds, heq, by decide⟩
  | text value => exact ⟨'\x22', _, rfl, by decide⟩
  | list _ => exact ⟨'[', _, rfl, by decide⟩
  | object _ _ => exact ⟨'\x7b', _, rfl, by decide⟩

/-- The fuel for a sound value is not used up. -/
theorem Sound.exists_fuel {value : Json} (h : value.Sound) {fuel : Nat}
    (hfuel : 2 * value.encodeChars.length ≤ fuel) : ∃ k, fuel = k + 1 := by
  obtain ⟨c, cs, heq, -⟩ := h.exists_cons
  rw [heq, List.length_cons] at hfuel
  exact ⟨fuel - 1, by omega⟩

/-- No blanks stand in front of a written value. -/
theorem Sound.skipBlanks_encodeChars {value : Json} (h : value.Sound) (rest : List Char) :
    skipBlanks (value.encodeChars ++ rest) = value.encodeChars ++ rest := by
  obtain ⟨c, cs, heq, hc⟩ := h.exists_cons
  rw [heq, List.cons_append, skipBlanks_cons _ hc]

/-- The items of a list start as the first one does. -/
theorem exists_encodeItems_eq {items : List Json} (hne : items ≠ [])
    (hitems : ∀ item ∈ items, item.Sound) :
    ∃ c cs, encodeItems items = c :: cs ∧ OpensValue c := by
  cases items with
  | nil => exact absurd rfl hne
  | cons item items =>
      obtain ⟨c, cs, heq, hc⟩ := (hitems item (by simp)).exists_cons
      cases items with
      | nil => exact ⟨c, cs, by rw [encodeItems, heq], hc⟩
      | cons next items => exact ⟨c, _, by rw [encodeItems, heq, List.cons_append]; simp, hc⟩

/-- The fields of an object start with a quote. -/
theorem exists_encodeFields_eq {fields : List (String × Json)} (hne : fields ≠ []) :
    ∃ cs, encodeFields fields = '\x22' :: cs := by
  cases fields with
  | nil => exact absurd rfl hne
  | cons field fields =>
      cases fields with
      | nil => exact ⟨_, rfl⟩
      | cons next fields => exact ⟨_, rfl⟩

/-! ### One step of the reader -/

section Steps

variable {fuel depth : Nat} {cs rest more : List Char}

/-- A value that opens with a digit is a number. -/
theorem readValue_digit {c : Char} (hc : isDigit c = true) :
    readValue (fuel + 1) depth (c :: cs) = readNumber (c :: cs) := by
  rw [readValue]
  all_goals
    intro rest h
    rw [(List.cons.inj h).1] at hc
    exact absurd hc (by decide)

/-- So is one that opens with a minus sign and a digit. -/
theorem readValue_minus {c : Char} (hc : isDigit c = true) :
    readValue (fuel + 1) depth ('-' :: c :: cs) = readNumber ('-' :: c :: cs) := by
  rw [readValue]
  all_goals simp
  rintro - rfl
  exact absurd hc (by decide)

/-- A written number is read as a number. -/
theorem readValue_toString_int (n : Int) :
    readValue (fuel + 1) depth ((toString n).toList ++ rest) =
      readNumber ((toString n).toList ++ rest) := by
  obtain ⟨d, ds, heq, hd⟩ | ⟨d, ds, heq, hd⟩ := toList_toString_int_cases n
  · rw [heq, List.cons_append, readValue_digit hd]
  · rw [heq, List.cons_append, List.cons_append, readValue_minus hd]

/-- A quote opens a text. -/
theorem readValue_text {value : List Char} (h : readText cs = .ok (value, rest)) :
    readValue (fuel + 1) depth ('\x22' :: cs) = .ok (.text (String.ofList value), rest) := by
  rw [readValue, h]

/-- A bracket opens a list of the items behind it. -/
theorem readValue_list {c : Char} (hc : OpensValue c) :
    readValue (fuel + 1) (depth + 1) ('[' :: c :: cs) =
      (readItems fuel depth (c :: cs)).map fun read => (.list read.1, read.2) := by
  unfold readValue
  simp only [skipBlanks_cons _ hc]
  split
  · next heq => cases heq
  · next heq _ => exact absurd (List.cons.inj heq).1 hc.2
  · next heq _ =>
      cases heq
      cases readItems fuel depth (c :: cs) <;> rfl

/-- A brace opens an object of the fields behind it. -/
theorem readValue_object :
    readValue (fuel + 1) (depth + 1) ('\x7b' :: '\x22' :: cs) =
      (readFields fuel depth ('\x22' :: cs)).map fun read =>
        (.object (Table.ofList read.1), read.2) := by
  have hskip : skipBlanks ('\x22' :: cs) = '\x22' :: cs := rfl
  unfold readValue
  simp only [hskip]
  split
  · next heq => cases heq
  · next heq _ => cases heq
  · next heq _ =>
      cases heq
      cases readFields fuel depth ('\x22' :: cs) <;> rfl

/-- An item that is refused makes the list be refused. -/
theorem readItems_error {fault : ReadFault} (h : readValue fuel depth cs = .error fault) :
    readItems (fuel + 1) depth cs = .error fault := by
  rw [readItems, h]

/-- A bracket behind an item closes the list. -/
theorem readItems_last {item : Json} (h : readValue fuel depth cs = .ok (item, ']' :: rest)) :
    readItems (fuel + 1) depth cs = .ok ([item], rest) := by
  rw [readItems, h]
  rfl

/-- A comma behind an item goes on the list. -/
theorem readItems_next {c : Char} {item : Json} (hc : OpensValue c)
    (h : readValue fuel depth cs = .ok (item, ',' :: ' ' :: c :: more)) :
    readItems (fuel + 1) depth cs =
      (readItems fuel depth (c :: more)).map fun read => (item :: read.1, read.2) := by
  have hcomma : skipBlanks (',' :: ' ' :: c :: more) = ',' :: ' ' :: c :: more := rfl
  have hspace : skipBlanks (' ' :: c :: more) = c :: more := skipBlanks_cons more hc
  rw [readItems, h]
  simp only [hcomma, hspace]
  cases readItems fuel depth (c :: more) <;> rfl

/-- A field whose value is refused makes the object be refused. -/
theorem readFields_error {c : Char} {name : List Char} {fault : ReadFault} (hc : OpensValue c)
    (hname : readText cs = .ok (name, ':' :: ' ' :: c :: more))
    (hvalue : readValue fuel depth (c :: more) = .error fault) :
    readFields (fuel + 1) depth ('\x22' :: cs) = .error fault := by
  have hcolon : skipBlanks (':' :: ' ' :: c :: more) = ':' :: ' ' :: c :: more := rfl
  have hspace : skipBlanks (' ' :: c :: more) = c :: more := skipBlanks_cons more hc
  rw [readFields, hname]
  simp only [hcolon, hspace, hvalue]

/-- A brace behind a field closes the object. -/
theorem readFields_last {c : Char} {name : List Char} {value : Json} (hc : OpensValue c)
    (hname : readText cs = .ok (name, ':' :: ' ' :: c :: more))
    (hvalue : readValue fuel depth (c :: more) = .ok (value, '\x7d' :: rest)) :
    readFields (fuel + 1) depth ('\x22' :: cs) = .ok ([(String.ofList name, value)], rest) := by
  have hcolon : skipBlanks (':' :: ' ' :: c :: more) = ':' :: ' ' :: c :: more := rfl
  have hspace : skipBlanks (' ' :: c :: more) = c :: more := skipBlanks_cons more hc
  have hbrace : skipBlanks ('\x7d' :: rest) = '\x7d' :: rest := rfl
  rw [readFields, hname]
  simp only [hcolon, hspace, hvalue, hbrace]

/-- A comma behind a field goes on the object. -/
theorem readFields_next {c : Char} {name others : List Char} {value : Json} (hc : OpensValue c)
    (hname : readText cs = .ok (name, ':' :: ' ' :: c :: more))
    (hvalue : readValue fuel depth (c :: more) = .ok (value, ',' :: ' ' :: '\x22' :: others)) :
    readFields (fuel + 1) depth ('\x22' :: cs) =
      (readFields fuel depth ('\x22' :: others)).map fun read =>
        ((String.ofList name, value) :: read.1, read.2) := by
  have hcolon : skipBlanks (':' :: ' ' :: c :: more) = ':' :: ' ' :: c :: more := rfl
  have hspace : skipBlanks (' ' :: c :: more) = c :: more := skipBlanks_cons more hc
  have hcomma : skipBlanks (',' :: ' ' :: '\x22' :: others) = ',' :: ' ' :: '\x22' :: others := rfl
  have hquote : skipBlanks (' ' :: '\x22' :: others) = '\x22' :: others := rfl
  rw [readFields, hname]
  simp only [hcolon, hspace, hvalue, hcomma, hquote]
  cases readFields fuel depth ('\x22' :: others) <;> rfl

end Steps

/-! ### Reading what was written -/

/-- A value that is read back from its text if it is exact, and otherwise refused for a numeral,
with fuel for twice the length. -/
def ReadsOut (value : Json) : Prop :=
  ∀ (fuel depth : Nat) (rest : List Char), 2 * value.encodeChars.length ≤ fuel →
    nesting value ≤ depth → EndsNumber rest →
    (value.Exact → readValue fuel depth (value.encodeChars ++ rest) = .ok (value, rest)) ∧
      (¬value.Exact → readValue fuel depth (value.encodeChars ++ rest) = .error .numeralTooLong)

/-- The items of a list take a comma and a space between them. -/
theorem encodeItems_cons_cons (item next : Json) (items : List Json) (rest : List Char) :
    encodeItems (item :: next :: items) ++ rest =
      item.encodeChars ++ ',' :: ' ' :: (encodeItems (next :: items) ++ rest) := by
  simp [encodeItems]

/-- A field takes a colon and a space behind its name. -/
theorem encodeFields_singleton (name : String) (value : Json) (rest : List Char) :
    encodeFields [(name, value)] ++ rest =
      encodeText name ++ ':' :: ' ' :: (value.encodeChars ++ rest) := by
  simp [encodeFields]

/-- The fields of an object take a comma and a space between them. -/
theorem encodeFields_cons_cons (name : String) (value : Json) (next : String × Json)
    (fields : List (String × Json)) (rest : List Char) :
    encodeFields ((name, value) :: next :: fields) ++ rest =
      encodeText name ++ ':' :: ' ' ::
        (value.encodeChars ++ ',' :: ' ' :: (encodeFields (next :: fields) ++ rest)) := by
  simp [encodeFields]

/-- Items are read back up to the end of their list, unless one of them is refused. -/
theorem readItems_encodeItems {items : List Json} (hne : items ≠ [])
    (hsound : ∀ item ∈ items, item.Sound) (hitems : ∀ item ∈ items, ReadsOut item)
    {fuel depth : Nat} (hfuel : 2 * (encodeItems items).length + 1 ≤ fuel)
    (hdepth : nestingOfItems items ≤ depth) (rest : List Char) :
    ((∀ item ∈ items, item.Exact) →
        readItems fuel depth (encodeItems items ++ ']' :: rest) = .ok (items, rest)) ∧
      (¬(∀ item ∈ items, item.Exact) →
        readItems fuel depth (encodeItems items ++ ']' :: rest) = .error .numeralTooLong) := by
  induction items generalizing fuel with
  | nil => exact absurd rfl hne
  | cons item items ih =>
      obtain ⟨fuel, rfl⟩ : ∃ k, fuel = k + 1 := ⟨fuel - 1, by omega⟩
      simp only [nestingOfItems, Nat.max_le] at hdepth
      have hitem := hitems item (by simp) fuel depth
      rw [List.forall_mem_cons]
      cases items with
      | nil =>
          simp only [encodeItems] at hfuel ⊢
          obtain ⟨hread, hrefused⟩ := hitem (']' :: rest) (by omega) hdepth.1
            (endsNumber_cons _ (by simp))
          exact ⟨fun hexact => readItems_last (hread hexact.1),
            fun hlost => readItems_error (hrefused fun hexact => hlost ⟨hexact, by simp⟩)⟩
      | cons next items =>
          have hlength := congrArg List.length (encodeItems_cons_cons item next items [])
          simp only [List.append_nil, List.length_append, List.length_cons] at hlength
          have hrest : 2 * (encodeItems (next :: items)).length + 1 ≤ fuel := by omega
          have hothers := ih (by simp) (fun i hi => hsound i (.tail _ hi))
            (fun i hi => hitems i (.tail _ hi)) hrest hdepth.2
          obtain ⟨hread, hrefused⟩ :=
            hitem (',' :: ' ' :: (encodeItems (next :: items) ++ ']' :: rest))
              (by omega) hdepth.1 (endsNumber_cons _ (by simp))
          obtain ⟨c, cs, heq, hc⟩ := exists_encodeItems_eq (by simp)
            (fun i (hi : i ∈ next :: items) => hsound i (.tail _ hi))
          rw [encodeItems_cons_cons]
          rw [heq] at hread hrefused hothers ⊢
          by_cases hfirst : item.Exact
          · rw [List.cons_append] at hread hothers ⊢
            rw [readItems_next hc (hread hfirst)]
            refine ⟨fun hexact => ?_, fun hlost => ?_⟩
            · rw [hothers.1 hexact.2]
              rfl
            · rw [hothers.2 fun hexact => hlost ⟨hfirst, hexact⟩]
              rfl
          · exact ⟨fun hexact => absurd hexact.1 hfirst,
              fun _ => readItems_error (hrefused hfirst)⟩

/-- Fields are read back up to the end of their object, unless the value of one is refused. -/
theorem readFields_encodeFields {fields : List (String × Json)} (hne : fields ≠ [])
    (hsound : ∀ field ∈ fields, field.2.Sound) (hfields : ∀ field ∈ fields, ReadsOut field.2)
    {fuel depth : Nat} (hfuel : 2 * (encodeFields fields).length + 1 ≤ fuel)
    (hdepth : nestingOfFields fields ≤ depth) (rest : List Char) :
    ((∀ field ∈ fields, field.2.Exact) →
        readFields fuel depth (encodeFields fields ++ '\x7d' :: rest) = .ok (fields, rest)) ∧
      (¬(∀ field ∈ fields, field.2.Exact) →
        readFields fuel depth (encodeFields fields ++ '\x7d' :: rest) =
          .error .numeralTooLong) := by
  induction fields generalizing fuel with
  | nil => exact absurd rfl hne
  | cons field fields ih =>
      obtain ⟨name, value⟩ := field
      obtain ⟨fuel, rfl⟩ : ∃ k, fuel = k + 1 := ⟨fuel - 1, by omega⟩
      simp only [nestingOfFields, Nat.max_le] at hdepth
      have hvalue : ReadsOut value := hfields (name, value) (by simp)
      have hstart : value.Sound := hsound (name, value) (by simp)
      obtain ⟨c, cs, heq, hc⟩ := hstart.exists_cons
      rw [List.forall_mem_cons]
      cases fields with
      | nil =>
          have hlength := congrArg List.length (encodeFields_singleton name value [])
          simp only [List.append_nil, List.length_append, List.length_cons] at hlength
          obtain ⟨hread, hrefused⟩ := hvalue fuel depth ('\x7d' :: rest) (by omega) hdepth.1
            (endsNumber_cons _ (by simp))
          obtain ⟨body, hopen, hname⟩ := readText_encodeText name
            (':' :: ' ' :: (value.encodeChars ++ '\x7d' :: rest))
          rw [encodeFields_singleton, hopen]
          rw [heq] at hname hread hrefused
          refine ⟨fun hexact => ?_, fun hlost => ?_⟩
          · simpa only [String.ofList_toList] using readFields_last hc hname (hread hexact.1)
          · exact readFields_error hc hname (hrefused fun hexact => hlost ⟨hexact, by simp⟩)
      | cons next fields =>
          have hlength := congrArg List.length (encodeFields_cons_cons name value next fields [])
          simp only [List.append_nil, List.length_append, List.length_cons] at hlength
          have hrest : 2 * (encodeFields (next :: fields)).length + 1 ≤ fuel := by omega
          have hothers := ih (by simp) (fun f hf => hsound f (.tail _ hf))
            (fun f hf => hfields f (.tail _ hf)) hrest hdepth.2
          obtain ⟨more, hmore⟩ := exists_encodeFields_eq (List.cons_ne_nil next fields)
          obtain ⟨hread, hrefused⟩ := hvalue fuel depth
            (',' :: ' ' :: (encodeFields (next :: fields) ++ '\x7d' :: rest))
            (by omega) hdepth.1 (endsNumber_cons _ (by simp))
          obtain ⟨body, hopen, hname⟩ := readText_encodeText name (':' :: ' ' ::
            (value.encodeChars ++ ',' :: ' ' :: (encodeFields (next :: fields) ++ '\x7d' :: rest)))
          rw [encodeFields_cons_cons, hopen]
          rw [hmore] at hothers
          simp only [heq, hmore, List.cons_append] at hname hread hrefused hothers
          by_cases hfirst : value.Exact
          · rw [readFields_next hc hname (hread hfirst)]
            refine ⟨fun hexact => ?_, fun hlost => ?_⟩
            · rw [hothers.1 hexact.2, String.ofList_toList]
              rfl
            · rw [hothers.2 fun hexact => hlost ⟨hfirst, hexact⟩]
              rfl
          · exact ⟨fun hexact => absurd hexact.1 hfirst,
              fun _ => readFields_error hc hname (hrefused hfirst)⟩

/-- **Values.** A sound value is read back from its text if it is exact, and otherwise refused for a
numeral that is too long. -/
theorem Sound.readsOut {value : Json} (h : value.Sound) : ReadsOut value := by
  induction h with
  | null =>
      intro fuel depth rest hfuel _ _
      obtain ⟨fuel, rfl⟩ := Sound.null.exists_fuel hfuel
      exact ⟨fun _ => rfl, fun hlost => absurd .null hlost⟩
  | bool value =>
      intro fuel depth rest hfuel _ _
      obtain ⟨fuel, rfl⟩ := (Sound.bool value).exists_fuel hfuel
      refine ⟨fun _ => ?_, fun hlost => absurd (.bool value) hlost⟩
      cases value <;> rfl
  | int value =>
      intro fuel depth rest hfuel _ hrest
      obtain ⟨fuel, rfl⟩ := (Sound.int value).exists_fuel hfuel
      rw [encodeChars, readValue_toString_int]
      refine ⟨?_, fun hlost => ?_⟩
      · rintro ⟨⟩
        next hn => exact readNumber_toString hn hrest
      · exact readNumber_toString_of_not_isReadable (fun hn => hlost (.int hn)) hrest
  | text value =>
      intro fuel depth rest hfuel _ _
      obtain ⟨fuel, rfl⟩ := (Sound.text value).exists_fuel hfuel
      obtain ⟨body, hopen, hbody⟩ := readText_encodeText value rest
      refine ⟨fun _ => ?_, fun hlost => absurd (.text value) hlost⟩
      rw [encodeChars, hopen, readValue_text hbody, String.ofList_toList]
  | @list items hsound ih =>
      intro fuel depth rest hfuel hdepth _
      obtain ⟨fuel, rfl⟩ := (Sound.list hsound).exists_fuel hfuel
      obtain ⟨depth, rfl⟩ : ∃ d, depth = d + 1 := ⟨depth - 1, by simp [nesting] at hdepth; omega⟩
      rw [exact_list_iff]
      cases items with
      | nil => exact ⟨fun _ => rfl, fun hlost => absurd (by simp) hlost⟩
      | cons item items =>
          simp only [encodeChars, List.length_cons, List.length_append] at hfuel
          simp only [nesting, Nat.add_le_add_iff_right] at hdepth
          have hinner : 2 * (encodeItems (item :: items)).length + 1 ≤ fuel := by omega
          have hitems := readItems_encodeItems (by simp) hsound ih hinner hdepth rest
          obtain ⟨c, cs, heq, hc⟩ := exists_encodeItems_eq (by simp) hsound
          simp only [encodeChars, List.cons_append, List.append_assoc, List.nil_append]
          rw [heq, List.cons_append] at hitems ⊢
          rw [readValue_list hc]
          refine ⟨fun hexact => ?_, fun hlost => ?_⟩
          · rw [hitems.1 hexact]
            rfl
          · rw [hitems.2 hlost]
            rfl
  | @object fields hdistinct hsound ih =>
      intro fuel depth rest hfuel hdepth _
      obtain ⟨fuel, rfl⟩ := (Sound.object hdistinct hsound).exists_fuel hfuel
      obtain ⟨depth, rfl⟩ : ∃ d, depth = d + 1 := ⟨depth - 1, by simp [nesting] at hdepth; omega⟩
      rw [exact_object_iff hdistinct]
      cases fields with
      | nil => exact ⟨fun _ => rfl, fun hlost => absurd (by simp) hlost⟩
      | cons field fields =>
          simp only [encodeChars, List.length_cons, List.length_append] at hfuel
          simp only [nesting, Nat.add_le_add_iff_right] at hdepth
          have hinner : 2 * (encodeFields (field :: fields)).length + 1 ≤ fuel := by omega
          have hfields := readFields_encodeFields (by simp) hsound ih hinner hdepth rest
          obtain ⟨cs, heq⟩ := exists_encodeFields_eq (List.cons_ne_nil field fields)
          simp only [encodeChars, List.cons_append, List.append_assoc, List.nil_append]
          rw [heq, List.cons_append] at hfields ⊢
          rw [readValue_object]
          refine ⟨fun hexact => ?_, fun hlost => ?_⟩
          · rw [hfields.1 hexact, Except.map, Table.ofList_eq_self hdistinct]
          · rw [hfields.2 hlost]
            rfl

/-- **Texts.** The text of a sound value is read as the value if it is exact, and otherwise refused
for a numeral, by any reader that admits so many lists and objects within one another. -/
theorem Sound.decodeWithin_encodeChars {value : Json} (h : value.Sound) {depth : Nat}
    (hdepth : nesting value ≤ depth) :
    (value.Exact → decodeWithin depth value.encodeChars = .ok value) ∧
      (¬value.Exact → decodeWithin depth value.encodeChars = .error .numeralTooLong) := by
  have hskip := h.skipBlanks_encodeChars []
  have hread := h.readsOut (2 * value.encodeChars.length + 2) depth [] (by omega) hdepth
    endsNumber_nil
  rw [List.append_nil] at hskip hread
  rw [decodeWithin, hskip]
  refine ⟨fun hexact => ?_, fun hlost => ?_⟩
  · rw [hread.1 hexact]
    rfl
  · rw [hread.2 hlost]

/-- The text of an exact value is read as the value. -/
theorem Exact.decodeWithin_encodeChars {value : Json} (h : value.Exact) {depth : Nat}
    (hdepth : nesting value ≤ depth) : decodeWithin depth value.encodeChars = .ok value :=
  (h.sound.decodeWithin_encodeChars hdepth).1 h

/-! ### The characters of a written value -/

/-- Items in plain ASCII are written in plain ASCII. -/
theorem plainAscii_encodeItems {items : List Json}
    (h : ∀ item ∈ items, Text.PlainAscii item.encodeChars) :
    Text.PlainAscii (encodeItems items) := by
  induction items with
  | nil => simp [encodeItems]
  | cons item items ih =>
      have hitem := h item (by simp)
      have hothers := ih fun i hi => h i (.tail _ hi)
      cases items with
      | nil => simpa [encodeItems] using hitem
      | cons next items => simp [encodeItems, hitem, hothers]

/-- Fields with values in plain ASCII are written in plain ASCII. -/
theorem plainAscii_encodeFields {fields : List (String × Json)}
    (h : ∀ field ∈ fields, Text.PlainAscii field.2.encodeChars) :
    Text.PlainAscii (encodeFields fields) := by
  induction fields with
  | nil => simp [encodeFields]
  | cons field fields ih =>
      obtain ⟨name, value⟩ := field
      have hvalue : Text.PlainAscii value.encodeChars := h (name, value) (by simp)
      have hothers := ih fun f hf => h f (.tail _ hf)
      cases fields with
      | nil => simp [encodeFields, plainAscii_encodeText, hvalue]
      | cons next fields => simp [encodeFields, plainAscii_encodeText, hvalue, hothers]

/-- An exact value is written in plain ASCII. -/
theorem Exact.plainAscii_encodeChars {value : Json} (h : value.Exact) :
    Text.PlainAscii value.encodeChars := by
  induction h with
  | null => simp [encodeChars]
  | bool value => cases value <;> simp [encodeChars]
  | int _ =>
      rw [encodeChars]
      exact plainAscii_toString_int _
  | text value =>
      rw [encodeChars]
      exact plainAscii_encodeText value
  | list _ ih => simp [encodeChars, plainAscii_encodeItems ih]
  | object _ _ ih => simp [encodeChars, plainAscii_encodeFields ih]

end VitaeShell.Json
