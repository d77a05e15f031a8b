import Mathlib.Data.List.Basic

/-!
# Steps that may fail

What the result of a chain of steps says about the steps: a result comes from results all along, and
a fault from the first step that fails. The same holds for one step over the items of a list.

In the other direction, what each step of a chain can come to says what the chain can come to
(`Ends`): a fault of a step is one of the chain, and a result is what the next step starts from.

## Main results

* `exists_of_bind_eq_ok`, `bind_eq_error_iff`: one step after the other.
* `exists_mapM_eq_ok_iff`, `mapM_eq_error_iff`: one step over a list.
* `Ends.bind`, `Ends.mapM`, `Ends.foldlM`: what a chain of steps can come to.
-/

namespace VitaeShell

variable {ε α β : Type} {f : α → Except ε β}

/-! ### One step after the other -/

/-- A result that was changed comes from a result. -/
theorem exists_of_map_eq_ok {f : α → β} {r : Except ε α} {y : β} (h : r.map f = .ok y) :
    ∃ x, r = .ok x ∧ f x = y := by
  cases r with
  | error fault => cases h
  | ok x => exact ⟨x, rfl, Except.ok.inj h⟩

/-- There is a result if there is one before it is changed. -/
theorem exists_map_eq_ok_iff {f : α → β} {r : Except ε α} :
    (∃ y, r.map f = .ok y) ↔ ∃ x, r = .ok x := by
  cases r <;> simp [Except.map]

/-- There is a result if there is one before the fault is changed. -/
theorem exists_mapError_eq_ok_iff {ε' : Type} {f : ε → ε'} {r : Except ε α} :
    (∃ x, r.mapError f = .ok x) ↔ ∃ x, r = .ok x := by
  cases r <;> simp [Except.mapError]

/-- A result of two steps comes from a result of the first. -/
theorem exists_of_bind_eq_ok {x : Except ε α} {b : β} (h : x >>= f = .ok b) :
    ∃ a, x = .ok a ∧ f a = .ok b := by
  cases x with
  | error fault => cases h
  | ok a => exact ⟨a, rfl, h⟩

/-- A fault is not changed. -/
theorem map_eq_error_iff {f : α → β} {r : Except ε α} {fault : ε} :
    r.map f = .error fault ↔ r = .error fault := by
  cases r with
  | error first => simp [Except.map]
  | ok x => simp [Except.map]

/-- Two steps fail if the first does, or the second on what the first gives. -/
theorem bind_eq_error_iff {x : Except ε α} {fault : ε} :
    x >>= f = .error fault ↔ x = .error fault ∨ ∃ a, x = .ok a ∧ f a = .error fault := by
  cases x with
  | error first => simp [bind, Except.bind]
  | ok a => simp [bind, Except.bind]

/-! ### One step over a list -/

variable {xs : List α}

/-- The head of a list is mapped first, and its value stands in front. -/
theorem mapM_cons_eq (x : α) :
    (x :: xs).mapM f = f x >>= fun y => (xs.mapM f).map (y :: ·) := by
  rw [List.mapM_cons]
  cases f x with
  | error fault => rfl
  | ok y => cases xs.mapM f <;> rfl

/-- A step that gives a result for each item gives the list of the results. -/
theorem mapM_map_eq_ok {γ : Type} {item : γ → α} {result : γ → β} {xs : List γ}
    (h : ∀ x ∈ xs, f (item x) = .ok (result x)) :
    (xs.map item).mapM f = .ok (xs.map result) := by
  induction xs with
  | nil => rfl
  | cons x xs ih =>
      obtain ⟨hx, hxs⟩ := List.forall_mem_cons.mp h
      rw [List.map_cons, mapM_cons_eq, hx, ih hxs]
      rfl

/-- Each result is one of an item. -/
theorem exists_of_mem_of_mapM_eq_ok {ys : List β} (h : xs.mapM f = .ok ys) :
    ∀ y ∈ ys, ∃ x ∈ xs, f x = .ok y := by
  induction xs generalizing ys with
  | nil =>
      cases h
      simp
  | cons x xs ih =>
      rw [mapM_cons_eq] at h
      obtain ⟨y, hy, h⟩ := exists_of_bind_eq_ok h
      obtain ⟨others, hothers, rfl⟩ := exists_of_map_eq_ok h
      rw [List.forall_mem_cons]
      refine ⟨⟨x, .head _, hy⟩, fun other hother => ?_⟩
      obtain ⟨z, hz, hread⟩ := ih hothers other hother
      exact ⟨z, .tail _ hz, hread⟩

/-- There are results for a list if there is one for each item. -/
theorem exists_mapM_eq_ok_iff :
    (∃ ys, xs.mapM f = .ok ys) ↔ ∀ x ∈ xs, ∃ y, f x = .ok y := by
  induction xs with
  | nil => simpa using ⟨[], rfl⟩
  | cons x xs ih =>
      rw [List.forall_mem_cons, ← ih, mapM_cons_eq]
      constructor
      · rintro ⟨ys, h⟩
        obtain ⟨y, hy, h⟩ := exists_of_bind_eq_ok h
        obtain ⟨others, hothers, -⟩ := exists_of_map_eq_ok h
        exact ⟨⟨y, hy⟩, others, hothers⟩
      · rintro ⟨⟨y, hy⟩, others, hothers⟩
        exact ⟨y :: others, by rw [hy, hothers]; rfl⟩

/-- A list fails at the first item that does. -/
theorem mapM_eq_error_iff {fault : ε} :
    xs.mapM f = .error fault ↔
      ∃ before x after, xs = before ++ x :: after ∧ (∀ y ∈ before, ∃ z, f y = .ok z) ∧
        f x = .error fault := by
  induction xs with
  | nil => simp [pure, Except.pure]
  | cons x xs ih =>
      rw [mapM_cons_eq, bind_eq_error_iff]
      simp only [map_eq_error_iff, ih]
      constructor
      · rintro (hx | ⟨y, hy, before, z, after, rfl, hbefore, hz⟩)
        · exact ⟨[], x, xs, rfl, by simp, hx⟩
        · exact ⟨x :: before, z, after, rfl, List.forall_mem_cons.mpr ⟨⟨y, hy⟩, hbefore⟩, hz⟩
      · rintro ⟨before, z, after, heq, hbefore, hz⟩
        cases before with
        | nil =>
            cases heq
            exact .inl hz
        | cons first before =>
            cases heq
            obtain ⟨⟨y, hy⟩, hrest⟩ := List.forall_mem_cons.mp hbefore
            exact .inr ⟨y, hy, before, z, after, rfl, hrest, hz⟩

/-! ### What steps can come to -/

/-- A step **ends** in a result or in a fault of which something holds. -/
inductive Ends (F : ε → Prop) (P : α → Prop) : Except ε α → Prop
  | ok {x : α} : P x → Ends F P (.ok x)
  | error {fault : ε} : F fault → Ends F P (.error fault)

section

variable {F G : ε → Prop} {P : α → Prop} {Q : β → Prop} {r : Except ε α}

/-- A value that a computation may end with has the property. -/
theorem Ends.of_ok {x : α} (h : Ends F P (.ok x)) : P x := by
  cases h with
  | ok hx => exact hx

/-- A fault that a computation may end with is one of those named. -/
theorem Ends.of_error {fault : ε} (h : Ends F P (.error fault)) : F fault := by
  cases h with
  | error hfault => exact hfault

/-- Less can be said of what a step comes to. -/
theorem Ends.imp {P' : α → Prop} (h : Ends F P r) (hF : ∀ fault, F fault → G fault)
    (hP : ∀ x, P x → P' x) : Ends G P' r := by
  cases h with
  | ok hx => exact .ok (hP _ hx)
  | error hfault => exact .error (hF _ hfault)

/-- What one step after the other can come to. -/
theorem Ends.bind (h : Ends F P r) (hf : ∀ x, P x → Ends F Q (f x)) : Ends F Q (r >>= f) := by
  cases h with
  | ok hx => exact hf _ hx
  | error hfault => exact .error hfault

/-- What a step can come to whose result is changed. -/
theorem Ends.map {g : α → β} (h : Ends F P r) (hg : ∀ x, P x → Q (g x)) : Ends F Q (g <$> r) := by
  cases h with
  | ok hx => exact .ok (hg _ hx)
  | error hfault => exact .error hfault

/-- What either of two steps can come to. -/
theorem Ends.ite {p : Prop} [Decidable p] {r' : Except ε α} (h : p → Ends F P r)
    (h' : ¬p → Ends F P r') : Ends F P (if p then r else r') := by
  split
  · next hp => exact h hp
  · next hp => exact h' hp

/-- What one step over a list can come to. -/
theorem Ends.mapM (hf : ∀ x ∈ xs, Ends F Q (f x)) :
    Ends F (fun ys => ys.length = xs.length ∧ ∀ y ∈ ys, Q y) (xs.mapM f) := by
  induction xs with
  | nil => exact .ok (by simp)
  | cons x xs ih =>
      obtain ⟨hx, hxs⟩ := List.forall_mem_cons.mp hf
      rw [List.mapM_cons]
      refine hx.bind fun y hy => (ih hxs).bind fun ys hys => .ok ⟨?_, ?_⟩
      · rw [List.length_cons, hys.1, List.length_cons]
      · exact List.forall_mem_cons.mpr ⟨hy, hys.2⟩

/-- What steps that are taken for the items of a list, each from where the one before ends, can come
to. -/
theorem Ends.foldlM {step : α → β → Except ε α} {items : List β}
    (hstep : ∀ x y, P x → Ends F P (step x y)) {x : α} (hx : P x) :
    Ends F P (items.foldlM step x) := by
  induction items generalizing x with
  | nil => exact .ok hx
  | cons y items ih =>
      rw [List.foldlM_cons]
      exact (hstep x y hx).bind fun x' hx' => ih hx'

end

end VitaeShell
