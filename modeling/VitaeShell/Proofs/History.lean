import Mathlib.Data.List.Forall2
import VitaeShell.History

/-!
# Recalling lines

A history is asked for the line before or after the one that stands in the input, while lines are
added to it and forgotten in between. Whatever the order of these calls, it keeps step with a walk
along its lines (`Walk`): the walker stands at one of the lines, or behind the last one, where a new
line is typed. The cursor of the history is where the walker stands, and there is none exactly if
that is behind the last line (`History.Follows`).

## Main results

* `History.Follows.perform`: a call is answered alike, and leaves both in step.
* `History.follows_run`: so are any calls, one after the other, of a new history.
-/

namespace VitaeShell

/-! ### Calls -/

namespace History

/-- What can be asked of a history. -/
inductive Call where
  | record (line : String)
  | previous
  | next
  | resetCursor
  | clear
deriving DecidableEq, Repr

/-- Answers a call with the text that the input is to show, if it is to change. -/
def perform (h : History) : Call → Option String × History
  | .record line => (none, h.record line)
  | .previous => h.previous
  | .next => h.next
  | .resetCursor => (none, h.resetCursor)
  | .clear => (none, h.clear)

/-- The answers to calls, each with the history that it leaves behind. -/
def run (h : History) : List Call → List (Option String × History)
  | [] => []
  | call :: rest => h.perform call :: run (h.perform call).2 rest

end History

/-! ### Walks -/

/-- A **walk** along lines. Its place is that of one of the lines, or the one behind them all. -/
structure Walk where
  lines : List String
  place : Nat
  place_le : place ≤ lines.length

namespace Walk

/-- A walk that stands behind all lines. -/
def behind (lines : List String) : Walk :=
  ⟨lines, lines.length, Nat.le_refl _⟩

/-- One place back, to the line there. The first line is never left, and without lines there is
nowhere to go. -/
def back (walk : Walk) : Option String × Walk :=
  if hlines : 0 < walk.lines.length then
    have hplace : walk.place - 1 < walk.lines.length := by
      have := walk.place_le
      omega
    (some walk.lines[walk.place - 1], ⟨walk.lines, walk.place - 1, Nat.le_of_lt hplace⟩)
  else (none, walk)

/-- One place forth, to the line there, or to an empty one behind all lines. From there it goes no
further. -/
def forth (walk : Walk) : Option String × Walk :=
  if hplace : walk.place < walk.lines.length then
    let line :=
      if hnext : walk.place + 1 < walk.lines.length then walk.lines[walk.place + 1] else ""
    (some line, ⟨walk.lines, walk.place + 1, hplace⟩)
  else (none, walk)

/-- What a walk makes of a call. -/
def perform (walk : Walk) : History.Call → Option String × Walk
  | .record line => (none, behind (walk.lines ++ [line]))
  | .previous => walk.back
  | .next => walk.forth
  | .resetCursor => (none, behind walk.lines)
  | .clear => (none, behind [])

/-- What a walk makes of calls, each with the walk that it leaves behind. -/
def run (walk : Walk) : List History.Call → List (Option String × Walk)
  | [] => []
  | call :: rest => walk.perform call :: run (walk.perform call).2 rest

end Walk

/-! ### In step -/

namespace History

/-- A history **follows** a walk if it has its lines, and its place as the cursor, with no cursor
behind all lines. -/
structure Follows (h : History) (walk : Walk) : Prop where
  entries_eq : h.entries = walk.lines
  cursor_eq : h.cursor = if walk.place = walk.lines.length then none else some walk.place

variable {h : History} {walk : Walk}

/-- Without a cursor any history follows the walk that stands behind its lines. -/
theorem follows_behind (lines : List String) : Follows ⟨lines, none⟩ (.behind lines) :=
  ⟨rfl, (if_pos rfl).symm⟩

/-- A cursor is where the walk stands, and that is before the end of the lines. -/
theorem Follows.cursor_eq_some_iff (hfollows : h.Follows walk) {n : Nat} :
    h.cursor = some n ↔ walk.place = n ∧ n < walk.lines.length := by
  have hle := walk.place_le
  rw [hfollows.cursor_eq]
  split
  · next hend => simp; omega
  · next hbefore =>
      rw [Option.some.injEq]
      constructor
      · rintro rfl
        exact ⟨rfl, by omega⟩
      · rintro ⟨rfl, -⟩
        rfl

/-- A history that follows a walk has its place in the list or just behind it. -/
theorem Follows.valid (hfollows : h.Follows walk) : h.Valid := by
  intro n hn
  rw [hfollows.entries_eq]
  exact (hfollows.cursor_eq_some_iff.mp hn).2

/-- The history that follows a walk. -/
theorem follows_iff :
    h.Follows walk ↔
      h = ⟨walk.lines, if walk.place = walk.lines.length then none else some walk.place⟩ := by
  constructor
  · rintro ⟨hentries, hcursor⟩
    rw [← hentries] at hcursor ⊢
    rw [← hcursor]
  · rintro rfl
    exact ⟨rfl, rfl⟩

/-- Recalling the line before is a place back. -/
theorem Follows.previous (hfollows : h.Follows walk) :
    h.previous.1 = walk.back.1 ∧ h.previous.2.Follows walk.back.2 := by
  obtain rfl := follows_iff.mp hfollows
  have hle := walk.place_le
  by_cases hlines : 0 < walk.lines.length
  · have hne : ¬walk.lines.isEmpty = true := by
      rw [List.isEmpty_iff_length_eq_zero]
      omega
    have hplace : walk.place - 1 < walk.lines.length := by omega
    -- the cursor comes to the same place from behind the last line and from a line
    have hprevious : History.previous
        ⟨walk.lines, if walk.place = walk.lines.length then none else some walk.place⟩ =
          (walk.lines[walk.place - 1]?, ⟨walk.lines, some (walk.place - 1)⟩) := by
      by_cases hend : walk.place = walk.lines.length
      · rw [if_pos hend, History.previous, if_neg hne, hend]
      · rw [if_neg hend, History.previous, if_neg hne]
    rw [hprevious, Walk.back, dif_pos hlines]
    exact ⟨List.getElem?_eq_getElem hplace, rfl, (if_neg (Nat.ne_of_lt hplace)).symm⟩
  · have hempty : walk.lines.isEmpty = true := by
      rw [List.isEmpty_iff_length_eq_zero]
      omega
    rw [History.previous, if_pos hempty, Walk.back, dif_neg hlines]
    exact ⟨rfl, hfollows⟩

/-- Recalling the line after is a place forth. -/
theorem Follows.next (hfollows : h.Follows walk) :
    h.next.1 = walk.forth.1 ∧ h.next.2.Follows walk.forth.2 := by
  obtain rfl := follows_iff.mp hfollows
  have hle := walk.place_le
  by_cases hplace : walk.place < walk.lines.length
  · rw [if_neg (Nat.ne_of_lt hplace), Walk.forth, dif_pos hplace]
    by_cases hnext : walk.place + 1 < walk.lines.length
    · simp only [History.next, List.getElem?_eq_getElem hnext, dif_pos hnext]
      exact ⟨trivial, rfl, (if_neg (Nat.ne_of_lt hnext)).symm⟩
    · have hend : walk.place + 1 = walk.lines.length := by omega
      simp only [History.next, List.getElem?_eq_none (Nat.not_lt.mp hnext), dif_neg hnext]
      exact ⟨trivial, rfl, (if_pos hend).symm⟩
  · have hend : walk.place = walk.lines.length := by omega
    rw [if_pos hend, History.next, Walk.forth, dif_neg hplace]
    exact ⟨rfl, follows_iff.mpr (by rw [if_pos hend])⟩

/-- **A call is answered alike**, and leaves the history in step with the walk. -/
theorem Follows.perform (hfollows : h.Follows walk) (call : Call) :
    (h.perform call).1 = (walk.perform call).1 ∧
      (h.perform call).2.Follows (walk.perform call).2 := by
  cases call with
  | record line =>
      refine ⟨rfl, ?_⟩
      rw [History.perform, History.record, hfollows.entries_eq]
      exact follows_behind (walk.lines ++ [line])
  | previous => exact hfollows.previous
  | next => exact hfollows.next
  | resetCursor =>
      refine ⟨rfl, ?_⟩
      rw [History.perform, History.resetCursor, hfollows.entries_eq]
      exact follows_behind walk.lines
  | clear => exact ⟨rfl, follows_behind []⟩

/-- Any calls are answered alike. -/
theorem Follows.run (hfollows : h.Follows walk) (calls : List Call) :
    List.Forall₂ (fun answered walked => answered.1 = walked.1 ∧ answered.2.Follows walked.2)
      (h.run calls) (walk.run calls) := by
  induction calls generalizing h walk with
  | nil => exact .nil
  | cons call calls ih => exact .cons (hfollows.perform call) (ih (hfollows.perform call).2)

/-- **A new history keeps step with a walk**, whatever it is asked. Each call is answered with what
the walk comes to, and leaves a history with the lines of the walk whose cursor is the place of the
walk, or none exactly if that is behind all lines. So the cursor never leaves the entries. -/
theorem follows_run (calls : List Call) :
    List.Forall₂ (fun answered walked => answered.1 = walked.1 ∧ answered.2.Follows walked.2)
        (run .empty calls) (Walk.run (.behind []) calls) ∧
      ∀ answered ∈ run .empty calls, answered.2.Valid := by
  have hruns := (follows_behind []).run calls
  have hvalid := hruns.imp fun _ _ hstep => And.intro hstep.2.valid hstep
  exact ⟨hruns, (List.forall₂_and_left _ _).mp hvalid |>.1⟩

example :
    (run .empty [.record "ls", .record "pwd", .previous, .previous, .previous, .next, .next,
      .next]).map (·.1) =
        [none, none, some "pwd", some "ls", some "ls", some "pwd", some "", none] := by
  decide

end History

end VitaeShell
