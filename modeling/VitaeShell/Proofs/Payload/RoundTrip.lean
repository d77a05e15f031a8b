import VitaeShell.Payload.Reply
import VitaeShell.Proofs.Fallible
import VitaeShell.Proofs.Json.RoundTrip

/-!
# Payloads and replies

A payload travels as one line of text, and a front end gets the same payload back. The object that
a payload is turned into always tells the payload (`ofObject_toJson`); that the text in between
keeps the object asks for exact fields (`Payload.Exact`).

Depth is the one thing that can go wrong. A payload that carries a value that is nested too deep is
not written at all (`isWithinReach_iff`); among payloads with fields of the right sorts only a game
can, in its state. Whatever is written is within the depth of the reader (`nesting_toJson_le`).

## Main results

* `ofObject_toJson`: the fields of a payload tell the payload.
* `Exact.readWithin_encode`: an exact payload is read back by any reader of sufficient depth.
* `isWithinReach_iff`: which payloads can be written.
* `encode?_wellTyped`: a payload with fields of the right sorts is written in plain ASCII and read
  back, unless it is a game whose state is nested too deep to be written.
-/

namespace VitaeShell

namespace Reply

/-! ### Reading the fields -/

/-- Records that are read back one by one are read back as a list. -/
theorem mapM_map {α : Type} {read : Json → Except Misfit α} {write : α → Json}
    (h : ∀ x, read (write x) = .ok x) (xs : List α) : (xs.map write).mapM read = .ok xs := by
  have hread : (xs.map write).mapM read = .ok (xs.map id) := mapM_map_eq_ok fun x _ => h x
  rw [hread, List.map_id]

theorem gridItem_json (item : GridItem) : gridItem (Payload.gridItemJson item) = .ok item := rfl

theorem grepMatch_json (found : GrepMatch) :
    grepMatch (Payload.grepMatchJson found) = .ok found := rfl

/-- Texts that stand on their own are shown as they are. -/
theorem map_display_text (items : List String) :
    (items.map Json.text).map Json.display = items := by
  induction items with
  | nil => rfl
  | cons item items ih => rw [List.map_cons, List.map_cons, Json.display, ih]

/-- **The fields tell the payload**, whatever they hold. -/
theorem ofObject_toJson (payload : Payload) :
    ofObject payload.tag payload.toJson = .ok payload := by
  cases payload with
  | text content => rfl
  | list items =>
      have hmembers : ofObject "list-output" (Payload.list items).toJson =
          .ok (.list ((items.map Json.text).map Json.display)) := rfl
      rw [Payload.tag, hmembers, map_display_text]
  | grid items =>
      have hmembers : ofObject "grid-output" (Payload.grid items).toJson =
          ((items.map Payload.gridItemJson).mapM gridItem).bind fun items => .ok (.grid items) :=
        rfl
      rw [Payload.tag, hmembers, mapM_map gridItem_json]
      rfl
  | grep found =>
      have hmembers : ofObject "grep-output" (Payload.grep found).toJson =
          ((found.map Payload.grepMatchJson).mapM grepMatch).bind fun found => .ok (.grep found) :=
        rfl
      rw [Payload.tag, hmembers, mapM_map grepMatch_json]
      rfl
  | matrix rows columns => rfl
  | coffee duration => rfl
  | meltdown => rfl
  | game name state => rfl

/-- The text of an exact object is read as what the object tells, by any reader that admits so many
lists and objects within one another. -/
theorem readWithin_encode {fields : List (String × Json)} (h : (Json.object fields).Exact)
    {depth : Nat} (hdepth : (Json.object fields).nesting ≤ depth) {tag : String}
    (htag : fields.lookup "type" = some (.text tag)) {payload : Payload}
    (hpayload : ofObject tag (.object fields) = .ok payload) :
    readWithin depth (Json.object fields).encode = .ok (.payload payload) := by
  have hchars : (Json.object fields).encode.toList = (Json.object fields).encodeChars := by
    simp [Json.encode]
  have hopens : (Json.object fields).encodeChars.head? = some '\x7b' := rfl
  have htype : (Json.object fields).field? "type" = some (.text tag) := htag
  rw [readWithin, hchars, if_neg (not_not.mpr hopens), h.decodeWithin_encodeChars hdepth]
  simp only [htype, hpayload]

end Reply

namespace Payload

/-! ### Exact payloads -/

/-- A payload of which nothing is lost in its text. -/
def Exact (payload : Payload) : Prop :=
  ∀ field ∈ payload.fields, field.2.Exact

/-- No field of a payload has the name of another one or of the kind. -/
theorem distinct_fields (payload : Payload) :
    Table.Distinct (("type", .text payload.tag) :: payload.fields) := by
  cases payload <;> simp [Table.Distinct, Table.names, fields]

/-- The object that an exact payload is turned into is exact. -/
theorem Exact.toJson {payload : Payload} (h : payload.Exact) : payload.toJson.Exact := by
  refine .object (distinct_fields payload) ?_
  rw [List.forall_mem_cons]
  exact ⟨.text _, h⟩

/-- Every written payload starts with a brace. -/
theorem toList_encode (payload : Payload) : payload.encode.toList = payload.toJson.encodeChars := by
  simp [encode, Json.encode]

/-- The text of a payload opens with a brace. -/
theorem head?_encode (payload : Payload) : payload.encode.toList.head? = some '\x7b' := by
  rw [toList_encode]
  rfl

/-- **Round trip.** An exact payload is read back by any reader that admits so many lists and
objects within one another. -/
theorem Exact.readWithin_encode {payload : Payload} (h : payload.Exact) {depth : Nat}
    (hdepth : payload.toJson.nesting ≤ depth) :
    Reply.readWithin depth payload.encode = .ok (.payload payload) :=
  Reply.readWithin_encode h.toJson hdepth rfl (Reply.ofObject_toJson payload)

/-- An exact payload takes one line of plain ASCII. -/
theorem Exact.plainAscii_encode {payload : Payload} (h : payload.Exact) :
    Text.PlainAscii payload.encode.toList := by
  rw [toList_encode]
  exact h.toJson.plainAscii_encodeChars

/-! ### Records -/

/-- Exact items make an exact list. -/
theorem exact_list_map {α : Type} {write : α → Json} {xs : List α}
    (h : ∀ x ∈ xs, (write x).Exact) : (Json.list (xs.map write)).Exact := by
  refine .list fun item hitem => ?_
  obtain ⟨x, hx, rfl⟩ := List.mem_map.mp hitem
  exact h x hx

/-- The object of an item is exact if what it holds is. -/
theorem exact_gridItemJson {item : GridItem} (hname : item.name.Exact) (hkind : item.kind.Exact) :
    (gridItemJson item).Exact := by
  refine .object (by simp [Table.Distinct, Table.names]) ?_
  simp [hname, hkind]

/-- The object of a match is exact if what it holds is. -/
theorem exact_grepMatchJson {found : GrepMatch} (hpath : found.path.Exact)
    (hline : Json.IsReadable found.line) (hcontent : found.content.Exact)
    (hkeyword : found.keyword.Exact) : (grepMatchJson found).Exact := by
  refine .object (by simp [Table.Distinct, Table.names]) ?_
  simp [hpath, Json.Exact.int hline, hcontent, hkeyword]

/-- A grid of exact entries is exact. -/
theorem exact_grid {items : List GridItem} (h : ∀ item ∈ items, (gridItemJson item).Exact) :
    (grid items).Exact := by
  simpa [Exact, fields] using exact_list_map h

/-- Exact matches make an exact search. -/
theorem exact_grep {found : List GrepMatch} (h : ∀ line ∈ found, (grepMatchJson line).Exact) :
    (grep found).Exact := by
  simpa [Exact, fields] using exact_list_map h

/-! ### Depth -/

mutual

/-- A list or an object takes two steps at least. -/
theorem two_mul_nesting_le_steps : ∀ value : Json, 2 * value.nesting ≤ steps value
  | .null | .bool _ | .int _ | .float _ | .text _ => by simp [Json.nesting]
  | .list items => by
      have := two_mul_nestingOfItems_le_stepsOfItems items
      simp only [Json.nesting, steps]
      omega
  | .object fields => by
      have := two_mul_nestingOfFields_le_stepsOfFields fields
      simp only [Json.nesting, steps]
      omega

/-- `two_mul_nesting_le_steps` over the items of a list. -/
theorem two_mul_nestingOfItems_le_stepsOfItems :
    ∀ items : List Json, 2 * Json.nestingOfItems items ≤ stepsOfItems items
  | [] => by simp [Json.nestingOfItems]
  | item :: items => by
      have := two_mul_nesting_le_steps item
      have := two_mul_nestingOfItems_le_stepsOfItems items
      simp only [Json.nestingOfItems, stepsOfItems]
      omega

/-- `two_mul_nesting_le_steps` over the fields of an object. -/
theorem two_mul_nestingOfFields_le_stepsOfFields :
    ∀ fields : List (String × Json), 2 * Json.nestingOfFields fields ≤ stepsOfFields fields
  | [] => by simp [Json.nestingOfFields]
  | (_, value) :: fields => by
      have := two_mul_nesting_le_steps value
      have := two_mul_nestingOfFields_le_stepsOfFields fields
      simp only [Json.nestingOfFields, stepsOfFields]
      omega

end

/-- Fields are as deep as the deepest of them. -/
theorem nestingOfFields_le {fields : List (String × Json)} {depth : Nat}
    (h : ∀ field ∈ fields, field.2.nesting ≤ depth) : Json.nestingOfFields fields ≤ depth := by
  induction fields with
  | nil => simp [Json.nestingOfFields]
  | cons field fields ih =>
      obtain ⟨name, value⟩ := field
      have hvalue : value.nesting ≤ depth := h (name, value) (by simp)
      have hothers := ih fun f hf => h f (.tail _ hf)
      simp only [Json.nestingOfFields]
      omega

/-- The items of two lists are as deep as those of the deeper one. -/
theorem nestingOfItems_append (items more : List Json) :
    Json.nestingOfItems (items ++ more) =
      max (Json.nestingOfItems items) (Json.nestingOfItems more) := by
  induction items with
  | nil => simp [Json.nestingOfItems]
  | cons item items ih => simp [Json.nestingOfItems, ih, Nat.max_assoc]

/-- Records are one level deeper than the values in their fields. -/
theorem nestingOfItems_map_le {α : Type} {write : α → Json} {parts : α → List Json}
    (h : ∀ x, (write x).nesting ≤ Json.nestingOfItems (parts x) + 1) (xs : List α) :
    Json.nestingOfItems (xs.map write) ≤ Json.nestingOfItems (xs.flatMap parts) + 1 := by
  induction xs with
  | nil => simp [Json.nestingOfItems]
  | cons x xs ih =>
      have hx := h x
      simp only [List.map_cons, List.flatMap_cons, Json.nestingOfItems, nestingOfItems_append]
      omega

/-- Each level of a payload takes two steps, but for its records. -/
theorem two_mul_nestingOfFields_le_depth (payload : Payload) :
    2 * Json.nestingOfFields payload.fields ≤ payload.depth + 1 := by
  cases payload with
  | grid items =>
      have hrecords : Json.nestingOfItems (items.map gridItemJson) ≤
          Json.nestingOfItems (items.flatMap fun item => [item.name, item.kind]) + 1 :=
        nestingOfItems_map_le (fun item => by
          simp [gridItemJson, Json.nesting, Json.nestingOfFields, Json.nestingOfItems]) items
      have hsteps := two_mul_nestingOfItems_le_stepsOfItems
        (items.flatMap fun item => [item.name, item.kind])
      simp only [fields, depth, Json.nestingOfFields, Json.nesting]
      omega
  | grep found =>
      have hrecords : Json.nestingOfItems (found.map grepMatchJson) ≤
          Json.nestingOfItems (found.flatMap fun line =>
            [line.path, .int line.line, line.content, line.keyword]) + 1 :=
        nestingOfItems_map_le (fun line => by
          simp [grepMatchJson, Json.nesting, Json.nestingOfFields, Json.nestingOfItems]) found
      have hsteps := two_mul_nestingOfItems_le_stepsOfItems
        (found.flatMap fun line => [line.path, .int line.line, line.content, line.keyword])
      simp only [fields, depth, Json.nestingOfFields, Json.nesting]
      omega
  | text _ | list _ | matrix _ _ | coffee _ | meltdown | game _ _ =>
      exact (two_mul_nestingOfFields_le_stepsOfFields _).trans (Nat.le_succ _)

/-- What can be written is within the depth of the reader. -/
theorem nesting_toJson_le {payload : Payload} (h : payload.isWithinReach = true) :
    payload.toJson.nesting ≤ Json.maxDepth := by
  have hfields := two_mul_nestingOfFields_le_depth payload
  have hreach : payload.depth ≤ maxSteps := of_decide_eq_true h
  simp only [toJson, Json.nesting, Json.nestingOfFields]
  simp only [maxSteps, Json.maxDepth] at hreach ⊢
  omega

/-- An exact payload that can be written is read back. -/
theorem Exact.read_encode {payload : Payload} (h : payload.Exact)
    (hreach : payload.isWithinReach = true) :
    Reply.read payload.encode = .ok (.payload payload) :=
  h.readWithin_encode (nesting_toJson_le hreach)

/-- Items are as deep as the deepest of them. -/
theorem stepsOfItems_le_iff {items : List Json} {n : Nat} :
    stepsOfItems items ≤ n ↔ ∀ item ∈ items, steps item ≤ n := by
  induction items with
  | nil => simp [stepsOfItems]
  | cons item items ih => rw [stepsOfItems, Nat.max_le, ih, List.forall_mem_cons]

/-- The values that a payload carries as they are, of whatever sort. -/
def carried : Payload → List Json
  | .grid items => items.flatMap fun item => [item.name, item.kind]
  | .grep found => found.flatMap fun line => [line.path, line.content, line.keyword]
  | .game _ state => [state]
  | _ => []

/-- The number of steps that a carried value may take down to its innermost part. -/
def reach : Payload → Nat
  | .game _ _ => maxSteps
  | _ => maxSteps - 3

/-- **A payload can be written** exactly if no value that it carries is nested too deep. -/
theorem isWithinReach_iff (payload : Payload) :
    payload.isWithinReach = true ↔ ∀ value ∈ payload.carried, steps value ≤ payload.reach := by
  have hrecords (n : Nat) : 3 + n ≤ maxSteps ↔ n ≤ maxSteps - 3 := by
    rw [maxSteps]
    omega
  have hnumber (n : Int) : steps (.int n) ≤ maxSteps - 3 := by simp [steps, maxSteps]
  rw [isWithinReach, decide_eq_true_eq]
  cases payload with
  | list items =>
      have hitems : stepsOfItems (items.map .text) ≤ 3 :=
        stepsOfItems_le_iff.mpr (by simp [steps])
      simp only [depth, fields, steps, stepsOfFields, maxSteps, carried]
      exact iff_of_true (by omega) (by simp)
  | grid items => simp only [depth, hrecords, stepsOfItems_le_iff, carried, reach]
  | grep found =>
      simp only [depth, hrecords, stepsOfItems_le_iff, carried, reach, List.forall_mem_flatMap,
        List.forall_mem_cons, hnumber, true_and]
  | game name state => simp [depth, fields, steps, stepsOfFields, carried, reach, maxSteps]
  | text _ | matrix _ _ | coffee _ | meltdown =>
      simp [depth, fields, steps, stepsOfFields, carried, maxSteps]

/-! ### Payloads with fields of the right sorts -/

/-- The fields of a payload are of the sorts that commands give them: texts, whole numbers, and for
the state of a game nothing or an object of which nothing is lost in its text. -/
def WellTyped : Payload → Prop
  | .text _ | .list _ | .meltdown => True
  | .grid items => ∀ item ∈ items, ∃ name kind, item = ⟨.text name, .text kind⟩
  | .grep found => ∀ line ∈ found, ∃ path number content keyword,
      line = ⟨.text path, number, .text content, .text keyword⟩ ∧ Json.IsReadable number
  | .matrix rows columns => Json.IsReadable rows ∧ Json.IsReadable columns
  | .coffee duration => Json.IsReadable duration
  | .game _ state => state = .null ∨ ∃ fields, state = .object fields ∧ state.Exact

/-- Fields of the right sorts are exact. -/
theorem WellTyped.exact {payload : Payload} (h : payload.WellTyped) : payload.Exact := by
  cases payload with
  | text content => simp [Exact, fields, Json.Exact.text]
  | list items =>
      have hitems := exact_list_map fun item (_ : item ∈ items) => Json.Exact.text item
      simpa [Exact, fields] using hitems
  | grid items =>
      refine exact_grid fun item hitem => ?_
      obtain ⟨name, kind, rfl⟩ := h item hitem
      exact exact_gridItemJson (.text name) (.text kind)
  | grep found =>
      refine exact_grep fun line hline => ?_
      obtain ⟨path, number, content, keyword, rfl, hnumber⟩ := h line hline
      exact exact_grepMatchJson (.text path) hnumber (.text content) (.text keyword)
  | matrix rows columns => simp [Exact, fields, Json.Exact.int h.1, Json.Exact.int h.2]
  | coffee duration => simp [Exact, fields, Json.Exact.int h]
  | meltdown => simp [Exact, fields]
  | game name state =>
      have hstate : state.Exact := by
        obtain rfl | ⟨fields, rfl, hstate⟩ := h
        · exact .null
        · exact hstate
      simp [Exact, fields, Json.Exact.text, hstate]

/-- A payload that is no game, or a game whose state is no deeper than is written. -/
def IsShallow : Payload → Prop
  | .game _ state => steps state ≤ maxSteps
  | _ => True

/-- Only the state of a game can be nested too deep to be written. -/
theorem WellTyped.isWithinReach_iff {payload : Payload} (h : payload.WellTyped) :
    payload.isWithinReach = true ↔ payload.IsShallow := by
  have htext : 3 ≤ maxSteps - 3 := by decide
  rw [Payload.isWithinReach_iff]
  cases payload with
  | grid items =>
      refine iff_of_true (fun value hvalue => ?_) trivial
      obtain ⟨item, hitem, hvalue⟩ := List.mem_flatMap.mp hvalue
      obtain ⟨name, kind, rfl⟩ := h item hitem
      obtain rfl | rfl : value = .text name ∨ value = .text kind := by simpa using hvalue
      all_goals simpa [steps, reach] using htext
  | grep found =>
      refine iff_of_true (fun value hvalue => ?_) trivial
      obtain ⟨line, hline, hvalue⟩ := List.mem_flatMap.mp hvalue
      obtain ⟨path, number, content, keyword, rfl, -⟩ := h line hline
      obtain rfl | rfl | rfl : value = .text path ∨ value = .text content ∨
          value = .text keyword := by simpa using hvalue
      all_goals simpa [steps, reach] using htext
  | game name state => simp [carried, reach, IsShallow]
  | text _ | list _ | matrix _ _ | coffee _ | meltdown => simp [carried, IsShallow]

/-- A shallow payload with fields of the right sorts is read back. -/
theorem WellTyped.read_encode {payload : Payload} (h : payload.WellTyped)
    (hshallow : payload.IsShallow) : Reply.read payload.encode = .ok (.payload payload) :=
  h.exact.read_encode (h.isWithinReach_iff.mpr hshallow)

/-- **The wire format.** A payload with fields of the right sorts takes one line of plain ASCII that
starts with a brace, and any reader of sufficient depth takes the payload back from it. The line is
withheld from games whose state is nested too deep, and from them alone; a line that is given out is
read back as the payload. -/
theorem encode?_wellTyped {payload : Payload} (h : payload.WellTyped) :
    payload.encode.toList.head? = some '\x7b' ∧
      Text.PlainAscii payload.encode.toList ∧
      (∀ depth, payload.toJson.nesting ≤ depth →
        Reply.readWithin depth payload.encode = .ok (.payload payload)) ∧
      (payload.encode? = none ↔ ¬payload.IsShallow) ∧
      (payload.IsShallow → payload.encode? = some payload.encode ∧
        Reply.read payload.encode = .ok (.payload payload)) := by
  refine ⟨head?_encode payload, h.exact.plainAscii_encode,
    fun depth hdepth => h.exact.readWithin_encode hdepth, ?_, fun hshallow => ?_⟩
  · rw [← h.isWithinReach_iff, encode?]
    split <;> simp_all
  · have hreach := h.isWithinReach_iff.mpr hshallow
    exact ⟨if_pos hreach, h.exact.read_encode hreach⟩

/-- A game whose texts take escapes of every form, among them a pair of surrogates. -/
def chess : Payload :=
  .game "échecs 😀" (.object
    [("\"\\\n\x7f", .list [.int (-5), .null, .object []]), ("b", .bool true)])

/-- A game whose texts take escapes of every form is written and read back. -/
theorem encode?_chess :
    chess.WellTyped ∧ chess.IsShallow ∧ chess.encode? = some chess.encode ∧
      Reply.read chess.encode = .ok (.payload chess) := by
  have hlist : (Json.list [.int (-5), .null, .object []]).Exact := by
    refine .list ?_
    simp only [List.mem_cons, List.not_mem_nil, or_false, forall_eq_or_imp, forall_eq]
    exact ⟨.int (Json.isReadable_of_lt (k := 1) (by decide) (by decide)), .null,
      .object (by decide) (by simp)⟩
  have hstate : (Json.object
      [("\"\\\n\x7f", .list [.int (-5), .null, .object []]), ("b", .bool true)]).Exact := by
    refine .object (by decide) ?_
    simp only [List.mem_cons, List.not_mem_nil, or_false, forall_eq_or_imp, forall_eq]
    exact ⟨hlist, .bool true⟩
  have htyped : chess.WellTyped := .inr ⟨_, rfl, hstate⟩
  have hshallow : chess.IsShallow := by
    simp [chess, IsShallow, steps, stepsOfFields, stepsOfItems, maxSteps]
  obtain ⟨-, -, -, -, hread⟩ := encode?_wellTyped htyped
  exact ⟨htyped, hshallow, hread hshallow⟩

/-- So many lists within one another. -/
def nested : Nat → Json
  | 0 => .null
  | depth + 1 => .list [nested depth]

/-- Each list in a nested one takes two steps more. -/
theorem steps_nested (depth : Nat) : steps (nested depth) = 2 * depth + 3 := by
  induction depth with
  | zero => rfl
  | succ depth ih =>
      simp only [nested, steps, stepsOfItems, ih]
      omega

/-- A nested list is exact. -/
theorem nested_exact (depth : Nat) : (nested depth).Exact := by
  induction depth with
  | zero => exact .null
  | succ depth ih => exact .list (by simpa [nested] using ih)

/-- Fields of the right sorts alone do not make a payload one that is written: a game with seven
hundred lists within one another is withheld. -/
theorem not_forall_encode?_read :
    ¬∀ payload : Payload, payload.WellTyped →
      ∃ line, payload.encode? = some line ∧ Reply.read line = .ok (.payload payload) := by
  intro hall
  have hstate : (Json.object [("k", nested 700)]).Exact :=
    .object (by decide) (by simpa using nested_exact 700)
  have htyped : (game "g" (.object [("k", nested 700)])).WellTyped := .inr ⟨_, rfl, hstate⟩
  obtain ⟨line, hline, -⟩ := hall _ htyped
  have hdeep : ¬(game "g" (.object [("k", nested 700)])).IsShallow := by
    simp [IsShallow, steps, stepsOfFields, steps_nested, maxSteps]
  rw [← htyped.isWithinReach_iff] at hdeep
  rw [encode?, if_neg hdeep] at hline
  cases hline

end Payload

end VitaeShell
