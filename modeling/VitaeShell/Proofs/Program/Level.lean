import VitaeShell.Program
import VitaeShell.Proofs.Fallible
import VitaeShell.Proofs.LogLevel

/-!
# The level of notices in a run

The level from which on notices are shown is settled before the résumé is read, and it stays until
the program ends (`Keeps`). So a text that sets it (`Sets`) either names no level, and then the
program breaks off at once, or the whole run has the level that the text is taken for.

## Main results

* `leads_startWith`, `keeps_feedAll`: a run keeps its level and does not break off for it.
* `level_run`: what a text comes to that sets the level, and that this is what it means unless it
  misleads.
-/

namespace VitaeShell

/-! ### Faults apart from the level -/

/-- A fault that is not about the level. -/
def ProgramFault.IsApart (fault : ProgramFault) : Prop :=
  ∀ cause, fault ≠ .level cause

/-- What the program ends with, if it has ended. -/
def Stage.ending? : Stage → Option Ending
  | .running _ => none
  | .ended ending _ => some ending

namespace Program

/-- A part of a run **keeps** a level: notices are shown from it on, and if the program ends there,
it is not for the level. -/
structure Keeps (level : Nat) (trace : Trace) (ending : Option Ending) : Prop where
  level_eq : trace.level = level
  ending_ne : ∀ fault, ending ≠ some (.failed (.level fault))

variable {level : Nat} {trace : Trace}

/-- The level is kept by a fault that has nothing to do with it. -/
theorem Keeps.of_isApart {fault : ProgramFault} (h : trace.level = level) (hfault : fault.IsApart) :
    Keeps level trace (some (.failed fault)) where
  level_eq := h
  ending_ne cause heq := hfault cause (Ending.failed.inj (Option.some.inj heq))

/-- The level is kept where there is no fault. -/
theorem Keeps.of_none (h : trace.level = level) : Keeps level trace none where
  level_eq := h
  ending_ne _ := nofun

/-! ### Writing -/

/-- Writing keeps the level. -/
theorem keeps_write (trace : Trace) (texts : List String) :
    Keeps trace.level (trace.write texts).1 ((trace.write texts).2.map .failed) := by
  induction texts generalizing trace with
  | nil => exact .of_none rfl
  | cons text texts ih =>
      rw [Trace.write]
      cases trace.piece? text with
      | none => exact .of_isApart rfl nofun
      | some piece => exact ih { trace with writes := trace.writes ++ [piece] }

/-! ### Settings in use -/

/-- What is wrong with a template has nothing to do with the level. -/
theorem ends_template (setting : Yaml.Value) :
    Ends ProgramFault.IsApart (fun _ => True) (template setting) := by
  rw [template]
  split
  · exact .ok trivial
  · exact .error nofun

/-- A fault that is told in other words is as far from the level as those. -/
theorem ends_mapError {ε α : Type} (tell : ε → ProgramFault) (h : ∀ fault, (tell fault).IsApart)
    (r : Except ε α) : Ends ProgramFault.IsApart (fun _ => True) (r.mapError tell) := by
  cases r with
  | error fault => exact .error (h fault)
  | ok x => exact .ok trivial

/-- Nor has what is wrong with a résumé. -/
theorem ends_loadResume (folder : Folder) (setting : Yaml.Value) :
    Ends ProgramFault.IsApart (fun _ => True) (loadResume folder setting) := by
  have hbytes (bytes : List UInt8) :
      Ends ProgramFault.IsApart (fun _ => True) (loadFromBytes folder bytes) := by
    rw [loadFromBytes]
    split
    · exact .ok trivial
    · exact .ok trivial
    · exact .error nofun
  rw [loadResume]
  split
  · exact .ok trivial
  · split
    · exact ends_mapError .resume (fun _ => nofun) _
    · exact hbytes _
    · exact .error nofun
    · exact .ite (fun _ => .error nofun) fun _ =>
        .ite (fun _ => .ok trivial) fun _ => .error nofun
    · exact .error nofun

/-! ### The startup script -/

/-- A step of a script keeps the level. -/
def Steady (s : ScriptState) (result : ScriptState × Option ProgramFault) : Prop :=
  Keeps s.trace.level result.1.trace (result.2.map .failed)

variable {s : ScriptState} {result : ScriptState × Option ProgramFault}

/-- One steady step after the other is steady. -/
theorem Steady.andThen {f : ScriptState → ScriptState × Option ProgramFault}
    (hf : ∀ next, Steady next (f next)) : Steady s result →
    Steady s (match result with
      | (next, none) => f next
      | failed => failed) := by
  intro h
  obtain ⟨next, _ | fault⟩ := result
  · have hlevel : next.trace.level = s.trace.level := h.level_eq
    have hnext : Keeps next.trace.level (f next).1.trace ((f next).2.map .failed) := hf next
    rwa [hlevel] at hnext
  · exact h

/-- Writing after a line leaves a script steady. -/
theorem steady_write (s : ScriptState) (pieces : List String) : Steady s (s.write pieces) :=
  keeps_write s.trace pieces

/-- So does submitting a line. -/
theorem steady_submitScriptLine (setting : Setting) (width : Int) (s : ScriptState)
    (line : String) : Steady s (submitScriptLine setting width s line) := by
  rw [submitScriptLine]
  generalize s.session.submitLine setting s.clipboard line = step
  cases drawOutput width s.glyphs step.result with
  | error fault => exact .of_isApart rfl nofun
  | ok drawing => exact keeps_write (s.trace.report step.notices) (Shell.printed drawing.1.toText)

/-- So does running a line. -/
theorem steady_runScriptLine (setting : Setting) (width : Int) (prompt : Yaml.Value)
    (s : ScriptState) (line : String) :
    Steady s (runScriptLine setting width prompt s line) := by
  have hprompt : Ends ProgramFault.IsApart (fun _ => True) <| (template prompt).bind fun template =>
      (Template.expand template "cwd" (Path.format s.session.fs.cwd)).mapError
        (ProgramFault.shell ∘ ShellFault.template) :=
    (ends_template prompt).bind fun _ _ =>
      ends_mapError (.shell ∘ .template) (fun _ => nofun) _
  rw [runScriptLine]
  split
  · exact .of_none rfl
  · generalize (template prompt).bind _ = expanded at hprompt ⊢
    cases hprompt with
    | error hfault => exact .of_isApart rfl hfault
    | @ok text _ =>
        exact (steady_write s (Shell.printed (text ++ line))).andThen fun next =>
          steady_submitScriptLine setting width next line

/-- So does running any number of lines. -/
theorem steady_runScriptLines (setting : Setting) (width : Int) (prompt : Yaml.Value)
    (s : ScriptState) (lines : List String) :
    Steady s (runScriptLines setting width prompt s lines) := by
  induction lines generalizing s with
  | nil => exact .of_none rfl
  | cons line lines ih =>
      rw [runScriptLines]
      exact (steady_runScriptLine setting width prompt s line).andThen ih

/-- So does running a script, broken off or not. -/
theorem steady_runScript (setting : Setting) (width : Int) (prompt : Yaml.Value)
    (source : Text.Source) (s : ScriptState) :
    Steady s (runScript setting width prompt source s) := by
  rw [runScript]
  split
  · have hbroken (next : ScriptState) : Steady next (next, some (.startup .notText)) :=
      .of_isApart rfl nofun
    exact (steady_runScriptLines setting width prompt s _).andThen hbroken
  · exact steady_runScriptLines setting width prompt s _

/-- A startup script keeps the level, whether there is one or not. -/
theorem keeps_runStartup (setting : Setting) (width : Int) (prompt : Yaml.Value) (folder : Folder)
    (path : String) (s : ScriptState) :
    let result := runStartup setting width prompt folder path s
    Keeps s.trace.level result.1.trace result.2 := by
  rw [runStartup]
  cases folder.find? path with
  | none =>
      simp only
      split
      · exact ⟨rfl, nofun⟩
      · exact .of_isApart rfl nofun
  | some stored =>
      simp only
      cases Folder.sourceOf 0 stored with
      | error fault => exact .of_isApart rfl nofun
      | ok source => exact steady_runScript setting width prompt source s

/-! ### Starting -/

/-- A part of a run leads to a stage and keeps a level. -/
def Leads (level : Nat) (result : Trace × Stage) : Prop :=
  Keeps level result.1 result.2.ending?

/-- To open the shell keeps the level. -/
theorem leads_openShell (h : s.trace.level = level) (setting : Setting) (width : Int)
    (prompt : Yaml.Value) : Leads level (openShell setting width prompt s) := by
  unfold openShell
  extract_lets opened
  have hopened : Ends ProgramFault.IsApart (fun _ => True) opened :=
    (ends_template prompt).bind fun _ _ =>
      (ends_mapError (.shell ∘ .template) (fun _ => nofun) _).bind fun _ _ => .ok trivial
  clear_value opened
  cases hopened with
  | error hfault => exact .of_isApart h hfault
  | @ok state _ =>
      have hintro := keeps_write s.trace [Shell.intro ++ "\n"]
      rw [h] at hintro
      simp only
      generalize s.trace.write [Shell.intro ++ "\n"] = written at hintro ⊢
      obtain ⟨trace, _ | fault⟩ := written
      · exact hintro
      · exact hintro

/-- The level is kept from where the session starts. -/
theorem leads_session (h : s.trace.level = level) (setting : Setting) (call : Invocation)
    (options : Options) (prompt : Yaml.Value) :
    Leads level (if options.startup = "" then openShell setting call.width prompt s
      else
        match runStartup setting call.width prompt call.folder options.startup s with
        | (s, some ending) => (s.trace, .ended ending s.clipboard)
        | (s, none) => openShell setting call.width prompt s) := by
  have hscript := keeps_runStartup setting call.width prompt call.folder options.startup s
  rw [h] at hscript
  split
  · exact leads_openShell h _ _ _
  · generalize runStartup setting call.width prompt call.folder options.startup s = ran
      at hscript ⊢
    obtain ⟨ran, _ | ending⟩ := ran
    · exact leads_openShell hscript.level_eq _ _ _
    · exact hscript

/-- **Once there is a level**, the program keeps it while it starts. -/
theorem leads_startWith (call : Invocation) (options : Options) (settings : Settings)
    (trace : Trace) (h : LogLevel.ofSetting settings.logLevel.datum = .ok level) :
    Leads level (startWith call options settings trace) := by
  have hresume := ends_loadResume call.folder settings.resumePath
  rw [startWith, h]
  simp only
  cases hloaded : loadResume call.folder settings.resumePath with
  | error fault => exact .of_isApart rfl (hloaded ▸ hresume).of_error
  | ok loaded =>
      refine leads_session ?_ _ call options settings.prompt
      rfl

/-! ### Lines of the user -/

/-- So does taking a line. -/
theorem leads_answer (state : Running) (trace : Trace) (line : Option String) :
    Leads trace.level (state.answer trace line) := by
  unfold Running.answer
  extract_lets run ended
  have hwrite := keeps_write (trace.report run.notices) run.writes
  generalize (trace.report run.notices).write run.writes = written at hwrite ⊢
  obtain ⟨written, _ | fault⟩ := written
  · cases run.result with
    | error fault => exact .of_isApart hwrite.level_eq nofun
    | ok value =>
        rcases value with _ | _ | _
        · exact hwrite
        · exact hwrite
        · exact ⟨hwrite.level_eq, nofun⟩
  · exact hwrite

/-- So does asking for a line and taking it. -/
theorem leads_feed (state : Running) (trace : Trace) (line : Option String) :
    Leads trace.level (state.feed trace line) := by
  have hask : Keeps trace.level (state.ask trace).1 ((state.ask trace).2.map .failed) :=
    keeps_write trace [state.shell.prompt]
  rw [Running.feed]
  generalize state.ask trace = asked at hask ⊢
  obtain ⟨asked, _ | fault⟩ := asked
  · have hanswer := leads_answer state asked line
    rwa [hask.level_eq] at hanswer
  · exact hask

/-- Nothing is read after the end. -/
theorem feedAll_ended (trace : Trace) (ending : Ending) (clipboard : Clipboard)
    (lines : List String) :
    feedAll trace (.ended ending clipboard) lines = (trace, ending, clipboard) := by
  cases lines <;> rfl

/-- **The level is kept to the end of the input.** -/
theorem keeps_feedAll {stage : Stage} (h : Leads level (trace, stage)) (lines : List String) :
    Keeps level (feedAll trace stage lines).1 (some (feedAll trace stage lines).2.1) := by
  -- each line is fed to whatever the one before has left, at the same level
  induction lines generalizing trace stage with
  | nil =>
      cases stage with
      | ended ending clipboard => exact h
      | running state =>
          have hfeed := leads_feed state trace none
          rw [h.level_eq] at hfeed
          rw [feedAll]
          generalize state.feed trace none = fed at hfeed ⊢
          obtain ⟨fed, state | ⟨ending, clipboard⟩⟩ := fed
          · exact ⟨hfeed.level_eq, nofun⟩
          · exact hfeed
  | cons line lines ih =>
      cases stage with
      | ended ending clipboard => exact h
      | running state =>
          have hfeed := leads_feed state trace (some line)
          rw [h.level_eq] at hfeed
          exact ih hfeed

/-! ### Texts that set the level -/

/-- The command line of a call asks for `options`, and the settings file it names leaves `settings`
behind. -/
def Reads (call : Invocation) (options : Options) (settings : Settings) : Prop :=
  Options.read Settings.defaultPath call.args = .options options ∧
    ∃ config notices, options.config = some config ∧
      Settings.ofFile call.folder config = .ok (settings, notices)

/-- A text that is given at a place **sets** the level of a call: it is given at no place that comes
after that one. -/
inductive Sets (call : Invocation) : LogLevel.Place → String → Prop
  | file {options : Options} {settings : Settings} {text : String} : Reads call options settings →
      settings.logLevel.datum = .text text →
      Settings.given? call.environment Settings.levelVariable = none → options.logLevel = "" →
      Sets call .file text
  | environment {options : Options} {settings : Settings} {text : String} :
      Reads call options settings →
      Settings.given? call.environment Settings.levelVariable = some text →
      options.logLevel = "" → Sets call .environment text
  | option {options : Options} {settings : Settings} {text : String} :
      Reads call options settings → text ≠ "" → options.logLevel = text → Sets call .option text

variable {call : Invocation} {place : LogLevel.Place} {text : String}

/-- The program starts from the settings of the file, under the environment and the options. -/
theorem Reads.exists_start_eq {options : Options} {settings : Settings}
    (h : Reads call options settings) : ∃ notices,
      start call = startWith call options
        (underOptions (settings.underEnvironment call.environment) options)
        (Trace.report {} notices) := by
  obtain ⟨hread, config, notices, hconfig, hfile⟩ := h
  have hsettings : settingsOf call options =
      .ok (underOptions (settings.underEnvironment call.environment) options, notices) := by
    simp only [settingsOf, hconfig, Settings.load, hfile]
  exact ⟨notices, by simp only [start, hread, hsettings]⟩

/-- **A text that sets the level** is looked up as its place has it. -/
theorem Sets.exists_start_eq (h : Sets call place text) : ∃ options settings notices,
    start call = startWith call options settings (Trace.report {} notices) ∧
      settings.logLevel.datum = .text (place.spelling text) := by
  obtain ⟨options, settings, hreads, hdatum⟩ : ∃ options settings, Reads call options settings ∧
      (underOptions (settings.underEnvironment call.environment) options).logLevel.datum =
        .text (place.spelling text) := by
    cases h with
    | file hreads hfile hgiven hoption =>
        refine ⟨_, _, hreads, ?_⟩
        simp only [underOptions, if_pos hoption, Settings.underEnvironment, hgiven]
        exact hfile
    | environment hreads hgiven hoption =>
        refine ⟨_, _, hreads, ?_⟩
        simp only [underOptions, if_pos hoption, Settings.underEnvironment, hgiven]
        rfl
    | option hreads htext hoption =>
        refine ⟨_, _, hreads, ?_⟩
        simp only [underOptions, hoption, if_neg htext]
        rfl
  obtain ⟨notices, hstart⟩ := hreads.exists_start_eq
  exact ⟨_, _, notices, hstart, hdatum⟩

/-- A text that is taken for a level gives it to the whole run. -/
theorem Sets.keeps_run (h : Sets call place text)
    (hlevel : LogLevel.ofName (place.spelling text) = .ok level) (input : String) :
    Keeps level (run call input).1 (some (run call input).2.1) := by
  obtain ⟨options, settings, notices, hstart, hdatum⟩ := h.exists_start_eq
  have hsetting : LogLevel.ofSetting settings.logLevel.datum = .ok level := by
    rw [hdatum]
    exact hlevel
  rw [run, hstart]
  exact keeps_feedAll (leads_startWith call options settings _ hsetting) _

/-- A text that is taken for no level breaks the program off. -/
theorem Sets.run_eq (h : Sets call place text) {fault : LogLevel.Fault}
    (hfault : LogLevel.ofName (place.spelling text) = .error fault) (input : String) :
    (run call input).1.level = LogLevel.default ∧
      (run call input).2.1 = .failed (.level fault) := by
  obtain ⟨options, settings, notices, hstart, hdatum⟩ := h.exists_start_eq
  have hsetting : LogLevel.ofSetting settings.logLevel.datum = .error fault := by
    rw [hdatum]
    exact hfault
  have hrun : run call input =
      (Trace.report {} notices, .failed (.level fault), call.clipboard) := by
    rw [run, hstart, startWith, hsetting]
    exact feedAll_ended _ _ _ _
  rw [hrun]
  exact ⟨rfl, rfl⟩

/-! ### A text at each place -/

/-- A call with a settings file. -/
def callOnFile (content : String) : Invocation where
  args := []
  folder := { files := [(Settings.defaultPath, .text content)] }

/-- A call with the level in the environment. -/
def callUnder (text : String) : Invocation where
  args := []
  environment := [(Settings.levelVariable, text)]

/-- A call with the level on the command line. -/
def callWith (text : String) : Invocation where
  args := ["--log-level" ++ "=" ++ text]

/-- A call on a file sets the level there. -/
theorem sets_callOnFile {content text : String}
    (h : (Settings.ofFile (callOnFile content).folder Settings.defaultPath).map
      (·.1.logLevel.datum) = .ok (.text text)) : Sets (callOnFile content) .file text := by
  obtain ⟨⟨settings, notices⟩, hfile, hdatum⟩ := exists_of_map_eq_ok h
  have hreads : Reads (callOnFile content) { config := some Settings.defaultPath } settings :=
    ⟨rfl, _, notices, rfl, hfile⟩
  exact .file hreads hdatum rfl rfl

/-- Without a settings file there are the defaults. -/
theorem reads_of_noFile {call : Invocation} {options : Options}
    (hread : Options.read Settings.defaultPath call.args = .options options)
    (hconfig : options.config = some Settings.defaultPath) (hfolder : call.folder = {}) :
    Reads call options {} := by
  refine ⟨hread, Settings.defaultPath, [], hconfig, ?_⟩
  have hnone : ({} : Folder).find? Settings.defaultPath = none := by decide +kernel
  rw [hfolder, Settings.ofFile, hnone]

/-- A call under a variable sets the level in the environment. -/
theorem sets_callUnder (h : text ≠ "") : Sets (callUnder text) .environment text := by
  have hgiven :
      Settings.given? (callUnder text).environment Settings.levelVariable = some text := by
    rw [Settings.given?, callUnder, List.lookup_cons_self]
    simp [h]
  exact .environment (reads_of_noFile rfl rfl rfl) hgiven rfl

/-- An option and its value in one word. -/
theorem splitValue_append {name : String} (h : '=' ∉ name.toList) (value : String) :
    Options.splitValue (name ++ "=" ++ value) = (name, some value) := by
  have hlist : (name ++ "=" ++ value).toList = name.toList ++ '=' :: value.toList := by simp
  have hname : (name.toList ++ '=' :: value.toList).takeWhile (· ≠ '=') = name.toList := by
    have hother : ∀ c ∈ name.toList, decide (c ≠ '=') = true := by
      intro c hc
      exact decide_eq_true (ne_of_mem_of_not_mem hc h)
    rw [List.takeWhile_append_of_pos hother]
    simp
  simp only [Options.splitValue, hlist, hname]
  simp

/-- The option for the level is read with its value. -/
theorem word?_logLevel (text : String) :
    Options.word? ("--log-level" ++ "=" ++ text) = some (.option .logLevel (some text)) := by
  have hlist : ("--log-level" ++ "=" ++ text).toList =
      '-' :: '-' :: ("log-level=".toList ++ text.toList) := by
    rw [String.toList_append]
    rfl
  have hspelling : Options.spellings.lookup ("--log-level" ++ "=" ++ text) = none := by
    have hnames : ∀ name ∈ Table.names Options.spellings, '=' ∉ name.toList := by decide
    rw [Table.lookup_eq_none_iff]
    intro hmem
    exact hnames _ hmem (by simp)
  have hname : Options.spellings.lookup "--log-level" = some .logLevel := by decide
  rw [Options.word?, hlist, splitValue_append (by decide)]
  simp only [hspelling, hname]

/-- A level in one word with its option is what the option is set to. -/
theorem read_callWith (hmark : text ≠ "--") :
    Options.read Settings.defaultPath (callWith text).args =
      .options { config := some Settings.defaultPath, logLevel := text } := by
  have hplain : "--log-level" ++ "=" ++ text ≠ "--" := by
    intro heq
    have hmem : '=' ∈ ("--log-level" ++ "=" ++ text).toList := by simp
    rw [heq] at hmem
    exact absurd hmem (by decide)
  have hwords : Options.words? (callWith text).args = some [.option .logLevel (some text)] := by
    rw [callWith, Options.words?, if_neg hplain, word?_logLevel, Options.words?]
    rfl
  rw [Options.read, hwords]
  simp only [Options.readFrom, Options.Name.hasValue, if_true, Options.givenValue, if_neg hmark]
  rfl

/-- A call with the option sets the level on the command line. -/
theorem sets_callWith (h : text ≠ "") (hmark : text ≠ "--") :
    Sets (callWith text) .option text :=
  .option (reads_of_noFile (read_callWith hmark) rfl rfl) h rfl

/-! ### What the level comes to -/

/-- **What a text comes to that sets the level.** If it is taken for a level, that is the level of
the whole run, and the program does not break off for it. If it is taken for none, the program
breaks off at once. And the run has the level that the text means exactly if it does not mislead
where it is given. -/
theorem level_run (h : Sets call place text) (input : String) :
    let trace := (run call input).1
    let ending := (run call input).2.1
    (∀ level, LogLevel.ofName (place.spelling text) = .ok level →
      trace.level = level ∧ ∀ fault, ending ≠ .failed (.level fault)) ∧
    (∀ fault, LogLevel.ofName (place.spelling text) = .error fault →
      trace.level = LogLevel.default ∧ ending = .failed (.level fault)) ∧
    ((trace.level = LogLevel.meant text ∧ ∀ fault, ending ≠ .failed (.level fault)) ↔
      ¬LogLevel.Misleads place text) := by
  intro trace ending
  have hlevel (level : Nat) (hname : LogLevel.ofName (place.spelling text) = .ok level) :
      trace.level = level ∧ ∀ fault, ending ≠ .failed (.level fault) := by
    have hkept := h.keeps_run hname input
    exact ⟨hkept.level_eq, fun fault heq => hkept.ending_ne fault (congrArg some heq)⟩
  refine ⟨hlevel, fun fault hname => h.run_eq hname input, ?_⟩
  rw [← LogLevel.ofName_eq_ok_meant_iff]
  constructor
  · rintro ⟨hmeant, hending⟩
    cases hname : LogLevel.ofName (place.spelling text) with
    | error fault => exact absurd (h.run_eq hname input).2 (hending fault)
    | ok level => rw [← hmeant, (hlevel level hname).1]
  · exact hlevel (LogLevel.meant text)

/-- A level in capitals in the settings file is the level of the run. -/
theorem level_run_capitals :
    Sets (callOnFile "log_level: INFO\n") .file "INFO" ∧
      (run (callOnFile "log_level: INFO\n") "").1.level = 20 := by
  have hsets : Sets (callOnFile "log_level: INFO\n") .file "INFO" :=
    sets_callOnFile (by decide +kernel)
  refine ⟨hsets, ((level_run hsets "").1 20 ?_).1⟩
  decide +kernel

/-- In small letters a level breaks the program off if it stands in the settings file, and nowhere
else. -/
theorem level_run_smallLetters :
    LogLevel.meant "debug" = 10 ∧
      (run (callWith "debug") "").1.level = 10 ∧
      (run (callUnder "debug") "").1.level = 10 ∧
      Sets (callOnFile "log_level: debug\n") .file "debug" ∧
      (run (callOnFile "log_level: debug\n") "").2.1 = .failed (.level .notALevel) := by
  have hcapitals : LogLevel.ofName (Text.uppercase "debug") = .ok 10 := by decide +kernel
  have hfile : Sets (callOnFile "log_level: debug\n") .file "debug" :=
    sets_callOnFile (by decide +kernel)
  have hoption : Sets (callWith "debug") .option "debug" :=
    sets_callWith (by decide) (by decide)
  have hvariable : Sets (callUnder "debug") .environment "debug" := sets_callUnder (by decide)
  refine ⟨by decide +kernel, (hoption.keeps_run hcapitals "").level_eq,
    (hvariable.keeps_run hcapitals "").level_eq, hfile, (hfile.run_eq ?_ "").2⟩
  decide +kernel

end Program

end VitaeShell
