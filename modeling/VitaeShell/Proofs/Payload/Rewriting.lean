import VitaeShell.Proofs.Payload.Reading

/-!
# Writing a reply again

What a front end has taken from a string it can write as a line of its own. The string may carry
fields that no payload has, numbers in quotes and anything at all where a text is asked for, so the
line need not be the string. It is read as the same payload, though, and from there on writing and
reading change nothing.

A text without floating-point numbers gives an exact payload (`Reply.exact_of_read`), and the round
trip of exact payloads does the rest. One thing stands against it: a string may be nested deeper
than what is written (`Payload.isWithinReach_iff`).

## Main results

* `rewritten?_of_read`: a payload from a text without floating-point numbers is kept by any number
  of rewritings, unless it carries a value that is nested too deep to be written.
-/

namespace VitaeShell.Reply

/-- The line as which the payload that a string carries is written. -/
def rewrite? (raw : String) : Option String :=
  match read raw with
  | .ok (.payload found) => found.encode?
  | _ => none

/-- The line that a string has become after so many rewritings. -/
def rewritten? (raw : String) : Nat → Option String
  | 0 => some raw
  | times + 1 => (rewritten? raw times).bind rewrite?

/-- A text that is read as a payload is written again as the text of that payload. -/
theorem rewrite?_of_read {raw : String} {payload : Payload}
    (h : read raw = .ok (.payload payload)) : rewrite? raw = payload.encode? := by
  simp only [rewrite?, h]

/-- From the first rewriting on the line is the one that the payload is written as. -/
theorem rewritten?_succ {raw : String} {payload : Payload}
    (hread : read raw = .ok (.payload payload)) (hexact : payload.Exact)
    (hreach : payload.isWithinReach = true) (times : Nat) :
    rewritten? raw (times + 1) = some payload.encode := by
  have hencode : payload.encode? = some payload.encode := if_pos hreach
  induction times with
  | zero => rw [rewritten?, rewritten?, Option.bind_some, rewrite?_of_read hread, hencode]
  | succ times ih =>
      rw [rewritten?, ih, Option.bind_some, rewrite?_of_read (hexact.read_encode hreach), hencode]

/-- **Writing a reply again.** A payload from a text without floating-point numbers takes a line
from which any reader of sufficient depth takes it back. The line is withheld if the payload carries
a value that is nested too deep, and then alone. Otherwise each rewriting of the text comes to that
line, and the line is read as the payload. -/
theorem rewritten?_of_read {raw : String} {payload : Payload}
    (hread : read raw = .ok (.payload payload))
    (hfloatless : ∀ value, Json.decode raw = .ok value → value.Floatless) :
    (∀ depth, payload.toJson.nesting ≤ depth →
        readWithin depth payload.encode = .ok (.payload payload)) ∧
      (payload.encode? = none ↔
        ∃ value ∈ payload.carried, payload.reach < Payload.steps value) ∧
      ((∀ value ∈ payload.carried, Payload.steps value ≤ payload.reach) →
        payload.encode? = some payload.encode ∧ read payload.encode = .ok (.payload payload) ∧
          ∀ times, rewritten? raw (times + 1) = some payload.encode) := by
  have hexact := exact_of_read hread hfloatless
  refine ⟨fun depth hdepth => hexact.readWithin_encode hdepth, ?_, fun hcarried => ?_⟩
  · have hreach := payload.isWithinReach_iff
    rw [Payload.encode?]
    split
    · next hwithin => simpa using hreach.mp hwithin
    · next hbeyond =>
        rw [hreach] at hbeyond
        simpa using hbeyond
  · have hreach := payload.isWithinReach_iff.mpr hcarried
    exact ⟨if_pos hreach, hexact.read_encode hreach, rewritten?_succ hread hexact hreach⟩

/-- An object with a field too many, a numeral for a number and a truth value for another. -/
def loose : Json :=
  .object [("x", .list [.int 1, .null]), ("columns", .text " 7 "), ("type", .text "matrix-output"),
    ("lines", .bool true)]

/-- A payload that is written loosely becomes its own text, and stays that. -/
theorem rewritten?_loose :
    read loose.encode = .ok (.payload (.matrix 1 7)) ∧
      (∀ value, Json.decode loose.encode = .ok value → value.Floatless) ∧
      ∀ times, rewritten? loose.encode (times + 1) = some (Payload.matrix 1 7).encode := by
  have hone : Json.IsReadable 1 := Json.isReadable_of_lt (k := 1) (by decide) (by decide)
  have hexact : loose.Exact := by
    have hlist : (Json.list [.int 1, .null]).Exact :=
      .list (by simp [Json.Exact.int hone, Json.Exact.null])
    refine .object (by decide) ?_
    simpa [Json.Exact.text, Json.Exact.bool] using hlist
  have hnesting : loose.nesting ≤ Json.maxDepth := by
    simp [loose, Json.nesting, Json.nestingOfFields, Json.nestingOfItems, Json.maxDepth]
  have hnumeral : Numeral.int? " 7 " = some 7 := by decide +kernel
  have hholds : ofObject "matrix-output" loose = .ok (.matrix 1 7) := by
    have hrows : numberOr loose "lines" Payload.defaultRows = .ok 1 := rfl
    have hcolumns : numberOr loose "columns" Payload.defaultColumns = .ok 7 := by
      have hfield : loose.field? "columns" = some (.text " 7 ") := rfl
      simp only [numberOr, hfield, wholeNumber, hnumeral]
    rw [ofObject_matrix, hrows, hcolumns]
    rfl
  have hread : read loose.encode = .ok (.payload (.matrix 1 7)) :=
    readWithin_encode hexact hnesting rfl hholds
  have hfloatless : ∀ value, Json.decode loose.encode = .ok value → value.Floatless := by
    intro value hvalue
    have hchars : loose.encode.toList = loose.encodeChars := by simp [Json.encode]
    rw [Json.decode, hchars, Json.decodeChars, hexact.decodeWithin_encodeChars hnesting] at hvalue
    cases hvalue
    exact hexact.floatless
  refine ⟨hread, hfloatless, ?_⟩
  obtain ⟨-, -, hall⟩ := rewritten?_of_read hread hfloatless
  exact (hall (by simp [Payload.carried])).2.2

/-- Not every payload from a text without floating-point numbers can be written: a game with six
hundred lists within one another is read and then withheld. -/
theorem not_forall_encode?_of_read :
    ¬∀ (raw : String) (payload : Payload), read raw = .ok (.payload payload) →
      (∀ value, Json.decode raw = .ok value → value.Floatless) →
        ∃ line, payload.encode? = some line ∧ read line = .ok (.payload payload) := by
  intro hall
  have hexact : (Payload.game "g" (Payload.nested 600)).Exact := by
    simpa [Payload.Exact, Payload.fields, Json.Exact.text] using Payload.nested_exact 600
  have hsteps : Payload.steps (Payload.nested 600) = 1203 := Payload.steps_nested 600
  have hnesting : (Payload.game "g" (Payload.nested 600)).toJson.nesting ≤ Json.maxDepth := by
    have hstate := Payload.two_mul_nesting_le_steps (Payload.nested 600)
    simp only [Payload.toJson, Payload.fields, Json.nesting, Json.nestingOfFields, Json.maxDepth]
    omega
  have hfloatless : ∀ value, Json.decode (Payload.game "g" (Payload.nested 600)).encode =
      .ok value → value.Floatless := by
    intro value hvalue
    rw [Json.decode, Payload.toList_encode, Json.decodeChars,
      hexact.toJson.decodeWithin_encodeChars hnesting] at hvalue
    cases hvalue
    exact hexact.toJson.floatless
  obtain ⟨line, hline, -⟩ := hall _ _ (hexact.readWithin_encode hnesting) hfloatless
  have hbeyond : ¬(Payload.game "g" (Payload.nested 600)).isWithinReach = true := by
    simp [Payload.isWithinReach_iff, Payload.carried, Payload.reach, Payload.maxSteps, hsteps]
  rw [Payload.encode?, if_neg hbeyond] at hline
  cases hline

end VitaeShell.Reply
