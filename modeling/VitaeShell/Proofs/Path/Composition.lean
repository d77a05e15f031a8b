import VitaeShell.Proofs.FileSystem
import VitaeShell.Proofs.Path.Resolution

/-!
# Paths in two parts

A path text that is made of two by a slash between them leads to where the second part leads from
where the first one does. Resolving never looks at what exists, so this needs nothing of the tree.

Moving does look, but only at the end of the path. Two moves that succeed can therefore be made as
one. One move can be made as two only if the place in between exists, and it does if the second part
never goes up: the way then leads through that place.

## Main results

* `resolve_append`: a path in two parts is resolved one part after the other.
* `exists_resolve_eq_append`: a path text that never goes up leads further down.
* `enter_append`: moving at once and moving in two steps.
-/

namespace VitaeShell

namespace Path

variable {p q : String}

/-! ### Resolving -/

/-- The pieces of two texts with a slash between them. -/
theorem pieces_append (p q : String) : pieces (p ++ "/" ++ q) = pieces p ++ pieces q := by
  have hchars : (p ++ "/" ++ q).toList = p.toList ++ '/' :: q.toList := by simp
  rw [pieces, hchars, List.splitOn_append_cons_self, List.map_append, pieces, pieces]

/-- The lone slash is no exception: its pieces lead nowhere from the root. -/
theorem resolve_eq_foldl (cwd : Path) (text : String) :
    resolve cwd text =
      (pieces text).foldl follow (if text.toList.head? = some '/' then [] else cwd) := by
  have hstart : Text.startsWith text "/" = true ↔ text.toList.head? = some '/' := by
    cases htext : text.toList with
    | nil => simp [Text.startsWith, htext]
    | cons c cs => simp [Text.startsWith, htext, @eq_comm Char '/']
  by_cases hlone : text = "/"
  · subst hlone
    rfl
  · simp only [resolve, if_neg hlone, hstart]

/-- **A path in two parts is resolved one part after the other**, unless the second part starts at
the root. -/
theorem resolve_append (hp : p ≠ "") (hq : q.toList.head? ≠ some '/') (cwd : Path) :
    resolve cwd (p ++ "/" ++ q) = resolve (resolve cwd p) q := by
  have hhead : (p ++ "/" ++ q).toList.head? = p.toList.head? := by
    obtain ⟨c, cs, hchars⟩ := List.exists_cons_of_ne_nil (show p.toList ≠ [] by simpa using hp)
    simp [hchars]
  rw [resolve_eq_foldl cwd, hhead, pieces_append, List.foldl_append, ← resolve_eq_foldl,
    resolve_eq_foldl _ q, if_neg hq]

/-- Pieces that never go up lead further down. -/
theorem exists_foldl_follow_eq_append {names : List String} (h : ".." ∉ names) (path : Path) :
    ∃ more, names.foldl follow path = path ++ more := by
  induction names generalizing path with
  | nil => exact ⟨[], (List.append_nil path).symm⟩
  | cons name names ih =>
      rw [List.mem_cons, not_or] at h
      obtain ⟨hname, hnames⟩ := h
      rw [List.foldl_cons, follow]
      split
      · exact ih hnames path
      · rw [if_neg (Ne.symm hname)]
        obtain ⟨more, hmore⟩ := ih hnames (path ++ [name])
        exact ⟨name :: more, by rw [hmore, List.append_assoc, List.singleton_append]⟩

/-- **A path text that never goes up leads further down.** -/
theorem exists_resolve_eq_append (hq : q.toList.head? ≠ some '/') (hup : ".." ∉ pieces q)
    (cwd : Path) : ∃ more, resolve cwd q = cwd ++ more := by
  rw [resolve_eq_foldl, if_neg hq]
  exact exists_foldl_follow_eq_append hup cwd

end Path

/-! ### Moving -/

/-- A way leads through the places on it. -/
theorem Entries.Leads.exists_of_append {entries place : Entries} {path more : Path}
    (h : Leads entries (path ++ more) place) : ∃ between, Leads entries path between := by
  rw [← find?_eq_some_iff, find?_append, Option.bind_eq_some_iff] at h
  obtain ⟨between, hbetween, -⟩ := h
  exact ⟨between, find?_eq_some_iff.mp hbetween⟩

namespace FileSystem

/-- **Moving at once and moving in two steps.** A path text in two parts, the second of which does
not start at the root, is resolved one part after the other. Two moves that succeed come to the one
move along the whole path; and where that succeeds, so do the two, unless the second part goes up
somewhere. -/
theorem enter_append {p q : String} (hp : p ≠ "") (hq : q.toList.head? ≠ some '/')
    (fs : FileSystem) :
    Path.resolve fs.cwd (p ++ "/" ++ q) = Path.resolve (Path.resolve fs.cwd p) q ∧
      (∀ between moved, fs.enter p = .ok between → between.enter q = .ok moved →
        fs.enter (p ++ "/" ++ q) = .ok moved) ∧
      (".." ∉ Path.pieces q → ∀ moved, fs.enter (p ++ "/" ++ q) = .ok moved →
        ∃ between, fs.enter p = .ok between ∧ between.enter q = .ok moved) := by
  have hresolve := Path.resolve_append hp hq fs.cwd
  refine ⟨hresolve, fun between moved hfirst hsecond => ?_, fun hup moved hmoved => ?_⟩
  · obtain ⟨-, rfl⟩ := enter_eq_ok_iff.mp hfirst
    rw [enter_eq_ok_iff, hresolve]
    exact enter_eq_ok_iff.mp hsecond
  · rw [enter_eq_ok_iff, hresolve] at hmoved
    -- the place in between stands on the way to where the whole path leads
    obtain ⟨more, hmore⟩ := Path.exists_resolve_eq_append hq hup (Path.resolve fs.cwd p)
    obtain ⟨⟨place, hplace⟩, rfl⟩ := hmoved
    obtain ⟨between, hbetween⟩ := (hmore ▸ hplace).exists_of_append
    exact ⟨_, enter_eq_ok_iff.mpr ⟨⟨between, hbetween⟩, rfl⟩,
      enter_eq_ok_iff.mpr ⟨⟨place, hplace⟩, rfl⟩⟩

/-- A house in which one goes from the attic to a shelf in the cellar. -/
def house : FileSystem :=
  ⟨[("attic", .dir []), ("cellar", .dir [("shelf", .dir [])])], ["attic"]⟩

/-- Going through a directory that does not exist, and back up, leads on. -/
theorem enter_append_house :
    "../nowhere/../cellar/" ≠ "" ∧ "./shelf".toList.head? ≠ some '/' ∧
      ".." ∉ Path.pieces "./shelf" ∧
      ∃ between, house.enter "../nowhere/../cellar/" = .ok between ∧
        between.enter "./shelf" = .ok ⟨house.root, ["cellar", "shelf"]⟩ := by
  have hp : "../nowhere/../cellar/" ≠ "" := by decide
  have hq : "./shelf".toList.head? ≠ some '/' := by decide
  have hup : ".." ∉ Path.pieces "./shelf" := by decide
  have hresolve : Path.resolve house.cwd ("../nowhere/../cellar/" ++ "/" ++ "./shelf") =
      ["cellar", "shelf"] := by
    decide +kernel
  have hwhole : house.enter ("../nowhere/../cellar/" ++ "/" ++ "./shelf") =
      .ok ⟨house.root, ["cellar", "shelf"]⟩ := by
    rw [enter_eq_ok_iff, hresolve]
    exact ⟨⟨[], .down rfl (.down rfl (.arrived []))⟩, rfl⟩
  exact ⟨hp, hq, hup, (enter_append hp hq house).2.2 hup _ hwhole⟩

end FileSystem

end VitaeShell
