import VitaeShell.Proofs.Path.Composition

/-!
# Paths in normal form

A path is in normal form if each of its names leads down by one directory (`IsNormal`). Resolving
keeps to such paths: a piece of a path text that neither stays nor goes up is a name of this kind,
whatever the text is. So the text of where a path text leads is itself a path text that leads there,
and does so from every directory, since it starts at the root.

## Main results

* `IsNormal.resolve`: a path text leads from a path in normal form to one in normal form.
* `resolve_normal`: resolving the text of what was resolved changes nothing.
-/

namespace VitaeShell.Path

instance (name : String) : Decidable (IsStep name) :=
  decidable_of_iff (name ≠ "" ∧ name ≠ "." ∧ name ≠ ".." ∧ '/' ∉ name.toList)
    ⟨fun h => ⟨h.1, h.2.1, h.2.2.1, h.2.2.2⟩,
      fun h => ⟨h.ne_empty, h.ne_point, h.ne_points, h.slash_notMem⟩⟩

/-- A path **in normal form**: each of its names leads down by one directory. -/
def IsNormal (path : Path) : Prop :=
  ∀ name ∈ path, IsStep name

instance (path : Path) : Decidable (IsNormal path) :=
  List.decidableBAll IsStep path

/-! ### Pieces -/

/-- No piece of a text holds what the text was cut at. -/
theorem notMem_of_mem_splitOn {c : Char} {cs piece : List Char} (h : piece ∈ cs.splitOn c) :
    c ∉ piece := by
  induction cs generalizing piece with
  | nil =>
      rw [List.splitOn_nil, List.mem_singleton] at h
      simp [h]
  | cons d cs ih =>
      rw [List.splitOn_cons_eq_if_modifyHead] at h
      by_cases hd : d = c
      · rw [if_pos (by simpa using hd)] at h
        rcases List.mem_cons.mp h with rfl | h
        · exact List.not_mem_nil
        · exact ih h
      · rw [if_neg (by simpa using hd)] at h
        obtain ⟨first, others, hsplit⟩ := List.exists_cons_of_ne_nil (List.splitOn_ne_nil c cs)
        rw [hsplit] at ih h
        rcases List.mem_cons.mp h with rfl | h
        · exact List.not_mem_cons_of_ne_of_not_mem (Ne.symm hd) (ih List.mem_cons_self)
        · exact ih (List.mem_cons_of_mem _ h)

/-- There is no slash in a piece of a path. -/
theorem slash_notMem_of_mem_pieces {text piece : String} (h : piece ∈ pieces text) :
    '/' ∉ piece.toList := by
  obtain ⟨cs, hcs, rfl⟩ := List.mem_map.mp h
  rw [String.toList_ofList]
  exact notMem_of_mem_splitOn hcs

/-! ### Resolving -/

/-- The root is in normal form. -/
theorem isNormal_nil : IsNormal [] :=
  List.forall_mem_nil _

/-- A piece leads from a path in normal form to one in normal form. -/
theorem IsNormal.follow {path : Path} (h : IsNormal path) {piece : String}
    (hpiece : '/' ∉ piece.toList) : IsNormal (follow path piece) := by
  rw [Path.follow]
  split
  · exact h
  · next hstay =>
      split
      · exact fun name hname => h name (List.dropLast_subset path hname)
      · next hup =>
          obtain ⟨hempty, hpoint⟩ := not_or.mp hstay
          exact List.forall_mem_append.mpr
            ⟨h, List.forall_mem_singleton.mpr ⟨hempty, hpoint, hup, hpiece⟩⟩

/-- So do pieces one after the other. -/
theorem IsNormal.foldl_follow {path : Path} (h : IsNormal path) {names : List String}
    (hnames : ∀ name ∈ names, '/' ∉ name.toList) : IsNormal (names.foldl Path.follow path) := by
  induction names generalizing path with
  | nil => exact h
  | cons name names ih =>
      obtain ⟨hname, hnames⟩ := List.forall_mem_cons.mp hnames
      exact ih (h.follow hname) hnames

/-- **A path text leads from a path in normal form to one in normal form.** -/
theorem IsNormal.resolve {cwd : Path} (h : IsNormal cwd) (text : String) :
    IsNormal (resolve cwd text) := by
  have hpieces : ∀ piece ∈ pieces text, '/' ∉ piece.toList :=
    fun piece => slash_notMem_of_mem_pieces
  rw [resolve_eq_foldl]
  split
  · exact isNormal_nil.foldl_follow hpieces
  · exact h.foldl_follow hpieces

/-- A path text that starts at the root leads to one place from everywhere. -/
theorem resolve_eq_of_startsWith {text : String} (h : Text.startsWith text "/" = true)
    (cwd other : Path) : resolve cwd text = resolve other text := by
  rw [resolve, resolve, if_pos h, if_pos h]

/-- **What was resolved is in normal form, and resolving its text changes nothing**, from whichever
directory. A path text that starts at the root leads to one place from every directory. -/
theorem resolve_normal {cwd : Path} (h : IsNormal cwd) (text : String) :
    IsNormal (resolve cwd text) ∧
      (∀ other, resolve other (format (resolve cwd text)) = resolve cwd text) ∧
      (Text.startsWith text "/" = true → ∀ other, resolve other text = resolve cwd text) :=
  ⟨h.resolve text, resolve_format (h.resolve text),
    fun hstart other => resolve_eq_of_startsWith hstart other cwd⟩

/-- A path with dots, double slashes and steps above the root is resolved to its one step. -/
theorem resolve_normal_roundabout :
    IsNormal ["a", "b"] ∧ Text.startsWith "//x/../../...//./y/" "/" = true ∧
      resolve ["a", "b"] "//x/../../...//./y/" = ["...", "y"] ∧
      resolve ["c"] "/.../y" = ["...", "y"] ∧
      resolve ["c"] "//x/../../...//./y/" = ["...", "y"] := by
  have hcwd : IsNormal ["a", "b"] := by decide
  have hstart : Text.startsWith "//x/../../...//./y/" "/" = true := by decide
  have htarget : resolve ["a", "b"] "//x/../../...//./y/" = ["...", "y"] := by decide +kernel
  obtain ⟨-, hformat, hsame⟩ := resolve_normal hcwd "//x/../../...//./y/"
  have htext : format ["...", "y"] = "/.../y" := by decide
  rw [htarget] at hformat hsame
  exact ⟨hcwd, hstart, htarget, htext ▸ hformat ["c"], hsame hstart ["c"]⟩

end VitaeShell.Path
