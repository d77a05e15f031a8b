import VitaeShell.Proofs.Payload.RoundTrip

/-!
# Payloads of texts

What commands show carries texts wherever a payload could carry any value (`Payload.Textual`). A
front end always takes the line of such a payload: as the payload, or, if a number in it has more
digits than are read, as plain text. It never refuses the line.

## Main results

* `Textual.read_encode_cases`: the two ways in which the line of a textual payload is read.
-/

namespace VitaeShell

/-- A sound value in which no more than so many lists and objects stand within one another. -/
structure Json.SoundWithin (depth : Nat) (value : Json) : Prop where
  sound : value.Sound
  nesting_le : value.nesting ≤ depth

/-- A list is one level deeper than its items. -/
theorem Json.soundWithin_list_map {α : Type} {write : α → Json} {xs : List α} {depth : Nat}
    (h : ∀ x ∈ xs, (write x).SoundWithin depth) :
    (Json.list (xs.map write)).SoundWithin (depth + 1) where
  sound := by
    refine .list fun item hitem => ?_
    obtain ⟨x, hx, rfl⟩ := List.mem_map.mp hitem
    exact (h x hx).sound
  nesting_le := by
    have hitems : nestingOfItems (xs.map write) ≤ depth := by
      induction xs with
      | nil => simp [nestingOfItems]
      | cons x xs ih =>
          have hx := (h x (by simp)).nesting_le
          have hothers := ih fun y hy => h y (.tail _ hy)
          simp only [List.map_cons, nestingOfItems]
          omega
    simp only [nesting]
    omega

namespace Payload

/-- A payload with a text in each field that could hold any value; its numbers may be of any size.
The state of a game is no text. -/
def Textual : Payload → Prop
  | .text _ | .list _ | .matrix _ _ | .coffee _ | .meltdown => True
  | .grid items => ∀ item ∈ items, ∃ name kind, item = ⟨.text name, .text kind⟩
  | .grep found => ∀ line ∈ found, ∃ path number content keyword,
      line = ⟨.text path, number, .text content, .text keyword⟩
  | .game _ _ => False

/-- Each field of a textual payload is a text, a number, or a list of objects of these. -/
theorem Textual.soundWithin_fields {payload : Payload} (h : payload.Textual) :
    ∀ field ∈ payload.fields, field.2.SoundWithin 2 := by
  intro field hfield
  cases payload with
  | text content =>
      obtain rfl := List.mem_singleton.mp hfield
      exact ⟨.text content, by simp [Json.nesting]⟩
  | list items =>
      obtain rfl := List.mem_singleton.mp hfield
      exact Json.soundWithin_list_map fun item _ => ⟨.text item, by simp [Json.nesting]⟩
  | grid items =>
      obtain rfl := List.mem_singleton.mp hfield
      refine Json.soundWithin_list_map fun item hitem => ?_
      obtain ⟨name, kind, rfl⟩ := h item hitem
      refine ⟨.object (by simp [Table.Distinct, Table.names]) ?_, ?_⟩
      · simp [Json.Sound.text]
      · simp [gridItemJson, Json.nesting, Json.nestingOfFields]
  | grep found =>
      obtain rfl := List.mem_singleton.mp hfield
      refine Json.soundWithin_list_map fun line hline => ?_
      obtain ⟨path, number, content, keyword, rfl⟩ := h line hline
      refine ⟨.object (by simp [Table.Distinct, Table.names]) ?_, ?_⟩
      · simp [Json.Sound.text, Json.Sound.int]
      · simp [grepMatchJson, Json.nesting, Json.nestingOfFields]
  | matrix rows columns =>
      simp only [fields, List.mem_cons, List.not_mem_nil, or_false] at hfield
      obtain rfl | rfl := hfield
      · exact ⟨.int rows, by simp [Json.nesting]⟩
      · exact ⟨.int columns, by simp [Json.nesting]⟩
  | coffee duration =>
      obtain rfl := List.mem_singleton.mp hfield
      exact ⟨.int duration, by simp [Json.nesting]⟩
  | meltdown => cases hfield
  | game name state => exact h.elim

/-- The object of a textual payload is sound, and within the depth of the reader. -/
theorem Textual.soundWithin {payload : Payload} (h : payload.Textual) :
    payload.toJson.SoundWithin Json.maxDepth where
  sound := by
    refine .object (distinct_fields payload) ?_
    rw [List.forall_mem_cons]
    exact ⟨.text _, fun field hfield => (h.soundWithin_fields field hfield).sound⟩
  nesting_le := by
    have hfields := nestingOfFields_le fun field hfield =>
      (h.soundWithin_fields field hfield).nesting_le
    simp only [toJson, Json.nesting, Json.nestingOfFields, Json.maxDepth]
    omega

/-- **The line of a textual payload is never refused.** A front end takes it as the payload or as
plain text. -/
theorem Textual.read_encode_cases {payload : Payload} (h : payload.Textual) :
    Reply.read payload.encode = .ok (.payload payload) ∨
      Reply.read payload.encode = .ok (.plain payload.encode) := by
  obtain ⟨hsound, hnesting⟩ := h.soundWithin
  by_cases hexact : payload.toJson.Exact
  · have hall := (Json.exact_object_iff (distinct_fields payload)).mp hexact
    have hfields : payload.Exact := fun field hfield => hall field (.tail _ hfield)
    exact .inl (hfields.readWithin_encode hnesting)
  · have hrefused := (hsound.decodeWithin_encodeChars hnesting).2 hexact
    right
    rw [Reply.read, Reply.readWithin, if_neg (not_not.mpr (head?_encode payload)), toList_encode,
      hrefused]

end Payload

end VitaeShell
