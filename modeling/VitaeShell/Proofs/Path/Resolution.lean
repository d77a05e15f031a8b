import VitaeShell.Proofs.Path

/-!
# Where path texts lead

The text of a path leads to that path from every directory, and a single name leads one directory
down, provided that resolving gives no name a meaning of its own: none is empty, none is a point or
two points, and none holds a slash (`Path.IsStep`).

## Main results

* `resolve_format`: the text of a path leads to the path.
* `resolve_name`: a name leads one directory down.
-/

namespace VitaeShell.Path

/-- A name that leads down by one directory. -/
structure IsStep (name : String) : Prop where
  ne_empty : name ≠ ""
  ne_point : name ≠ "."
  ne_points : name ≠ ".."
  slash_notMem : '/' ∉ name.toList

/-- A character other than a point keeps a name from being empty or made of points. -/
theorem IsStep.of_mem {name : String} {c : Char} (hc : c ∈ name.toList) (hpoint : c ≠ '.')
    (hslash : '/' ∉ name.toList) : IsStep name where
  ne_empty := by
    rintro rfl
    simp at hc
  ne_point := by
    rintro rfl
    exact hpoint (by simpa using hc)
  ne_points := by
    rintro rfl
    exact hpoint (by simpa using hc)
  slash_notMem := hslash

/-- A step is put at the end of the path. -/
theorem IsStep.follow_eq {name : String} (h : IsStep name) (path : Path) :
    follow path name = path ++ [name] := by
  have hstay : ¬(name = "" ∨ name = ".") := not_or.mpr ⟨h.ne_empty, h.ne_point⟩
  rw [follow, if_neg hstay, if_neg h.ne_points]

/-- Steps lead down one after the other. -/
theorem foldl_follow_eq {names : List String} (h : ∀ name ∈ names, IsStep name) (path : Path) :
    names.foldl follow path = path ++ names := by
  induction names generalizing path with
  | nil => simp
  | cons name names ih =>
      have hrest := ih (fun other hother => h other (.tail _ hother)) (path ++ [name])
      rw [List.foldl_cons, (h name (by simp)).follow_eq, hrest, List.append_assoc,
        List.singleton_append]

/-- The pieces of a path text are those behind its first slash, and an empty one before it. -/
theorem pieces_slash (text : String) : pieces ("/" ++ text) = "" :: pieces text := by
  have hsplit : ('/' :: text.toList).splitOn '/' = [] :: text.toList.splitOn '/' :=
    List.splitOn_append_cons_self_of_not_mem List.not_mem_nil text.toList
  rw [pieces, String.toList_append]
  simp [hsplit, pieces]

/-- **The text of a path leads to the path**, whichever directory it is resolved against. -/
theorem resolve_format {path : Path} (h : ∀ name ∈ path, IsStep name) (cwd : Path) :
    resolve cwd (format path) = path := by
  by_cases hroot : path = []
  · subst hroot
    rfl
  · have htext : format path ≠ "/" := by
      obtain ⟨name, rest, rfl⟩ := List.exists_cons_of_ne_nil hroot
      intro heq
      have hname := (h name (by simp)).ne_empty
      cases rest <;> simp_all [format]
    have hstart : Text.startsWith (format path) "/" = true := by
      simp [format, Text.startsWith]
    have hpieces : pieces (format path) = "" :: path := by
      have hslash : ∀ name ∈ path, '/' ∉ name.toList :=
        fun name hname => (h name hname).slash_notMem
      rw [format, pieces_slash, pieces_intercalate hroot hslash]
    have hempty : follow [] "" = [] := rfl
    rw [resolve, if_neg htext, if_pos hstart, hpieces, List.foldl_cons, hempty, foldl_follow_eq h,
      List.nil_append]

/-- **A name leads one directory down.** -/
theorem resolve_name {name : String} (h : IsStep name) (cwd : Path) :
    resolve cwd name = cwd ++ [name] := by
  have hslash : name ≠ "/" := by
    rintro rfl
    exact h.slash_notMem (by simp)
  have hstart : Text.startsWith name "/" = false := by
    rw [← Bool.not_eq_true]
    intro hstart
    have hfirst : ['/'] <+: name.toList := List.isPrefixOf_iff_prefix.mp hstart
    exact h.slash_notMem (hfirst.subset (by simp))
  have hpieces : pieces name = [name] := by
    rw [pieces, List.splitOn_eq_singleton h.slash_notMem]
    simp
  rw [resolve, if_neg hslash, hstart, hpieces]
  exact foldl_follow_eq (by simpa using h) cwd

end VitaeShell.Path
