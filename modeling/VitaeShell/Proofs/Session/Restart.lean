import VitaeShell.Proofs.Session.Run

/-!
# Starting over

A session is started over in place: its document is filed anew, and its history, its completion, its
input and its log are emptied one by one. Nothing else is kept of what has been done, so that what
follows is what would follow in a new session on the same clipboard. The clipboard lies outside and
still knows what it was offered.

## Main results

* `refresh_eq_start`: a session that was started over is a new one.
* `run_append_refresh`: whatever was done before, a run goes on as in a new session.
-/

namespace VitaeShell

/-- A cleared history is that of a new session. -/
theorem History.clear_eq_empty (h : History) : h.clear = .empty := rfl

namespace Session

/-- **A session that was started over is a new one**, and reports what a new one reports. -/
theorem refresh_eq_start (setting : Setting) (s : Session) : s.refresh setting = start setting := by
  rw [refresh, start, History.clear_eq_empty]

/-- Starting over says nothing and leaves the clipboard alone. -/
theorem step_refresh (setting : Setting) (s : Session) (clipboard : Clipboard) :
    s.step setting clipboard .refresh =
      ⟨.none, (start setting).1, clipboard, (start setting).2⟩ := by
  rw [step, refresh_eq_start]

/-- **Starting over is starting anew.** Whatever has been done in a session, on any document and
with any commands, once it is started over every further operation returns what it returns in a new
session on the same clipboard, reports the same, and leaves the same session and the same clipboard
behind. -/
theorem run_append_refresh (setting : Setting) (clipboard : Clipboard) (ops more : List Op) :
    let new := start setting
    let clipboard' := (after setting new.1 clipboard ops).2
    run setting new.1 clipboard (ops ++ .refresh :: more) =
      run setting new.1 clipboard ops ++
        (.refresh, ⟨.none, new.1, clipboard', new.2⟩) :: run setting new.1 clipboard' more := by
  intro new clipboard'
  rw [run_append, run, step_refresh]

end Session

end VitaeShell
