import Intercept.CommandLine
import Intercept.Proofs.Settings.Overrides

/-!
# What a command line says

Arguments read as a list of items: a path with the flag before it, a mode flag, or a misuse. Every
list of arguments reads in exactly one way. The leftmost misuse is reported; without one, the last
mode flag and the last path count, so it does not matter how the two sorts are mixed. A file is
touched only where the last mode flag asks for one.

## Main statements

* `exists_reads`, `Reads.unique`: arguments read in exactly one way.
* `read_eq_error_iff`, `read_eq_ok_iff`: what is made of a reading.
* `parse_exchange`: a mode flag and a path beside it can change places.
* `run_execute`: what is changed and what is printed once the arguments have been read.
* `reading_decides`: what any list of arguments comes to.
-/

namespace Intercept

namespace CommandLine

/-! ### Readings -/

/-- Whether an argument names the settings file by the argument after it. -/
def NamesPath (argument : String) : Prop := argument = "-c" ∨ argument = "--config"

/-- What each mode flag asks for. -/
inductive Asks : String → Mode → Prop where
  | generate : Asks "-g" .generate
  | generateConfig : Asks "--generate-config" .generate
  | check : Asks "--check" .check
  | h : Asks "-h" .help
  | help : Asks "--help" .help
  | v : Asks "-v" .version
  | version : Asks "--version" .version

/-- One thing that arguments say. -/
inductive Item where
  | path (value : String)
  | mode (flag : String)
  | misuse (m : Misuse)
deriving DecidableEq

/-- Whether arguments, from left to right, say the items. What follows a flag that names a path is
the path, whatever it looks like. -/
inductive Reads : List String → List Item → Prop where
  | nil : Reads [] []
  | path {flag value : String} {rest : List String} {items : List Item} :
      NamesPath flag → Reads rest items → Reads (flag :: value :: rest) (.path value :: items)
  | pathMissing {flag : String} : NamesPath flag → Reads [flag] [.misuse (.pathMissing flag)]
  | mode {flag : String} {mode : Mode} {rest : List String} {items : List Item} :
      Asks flag mode → Reads rest items → Reads (flag :: rest) (.mode flag :: items)
  | unknown {argument : String} {rest : List String} {items : List Item} :
      ¬ NamesPath argument → (∀ mode, ¬ Asks argument mode) → Reads rest items →
      Reads (argument :: rest) (.misuse (.unknown argument) :: items)

def Item.path? : Item → Option String
  | .path value => some value
  | _ => none

def Item.flag? : Item → Option String
  | .mode flag => some flag
  | _ => none

def lastPath? (items : List Item) : Option String := (items.filterMap Item.path?).getLast?

def lastFlag? (items : List Item) : Option String := (items.filterMap Item.flag?).getLast?

/-- Whether a misuse is the leftmost. -/
def Leftmost (m : Misuse) (items : List Item) : Prop :=
  ∃ before after, items = before ++ .misuse m :: after ∧ ∀ earlier, .misuse earlier ∉ before

/-- Whether a mode is that of the last flag or, where there is none, the one before. -/
def Settles (before : Mode) : Option String → Mode → Prop
  | none, mode => mode = before
  | some flag, mode => Asks flag mode

variable {flag argument : String} {mode : Mode} {arguments rest : List String} {items : List Item}
  {sofar a : Arguments} {m : Misuse}

theorem isPathFlag_iff : isPathFlag argument = true ↔ NamesPath argument := by
  simp [isPathFlag, NamesPath]

theorem modeFlag?_eq_some_iff : modeFlag? flag = some mode ↔ Asks flag mode := by
  constructor
  · intro h
    unfold modeFlag? at h
    split at h
    all_goals cases h
    all_goals constructor
  · intro asks
    cases asks <;> rfl

theorem modeFlag?_eq_none_iff : modeFlag? argument = none ↔ ∀ mode, ¬ Asks argument mode := by
  simp only [Option.eq_none_iff_forall_ne_some, ne_eq, modeFlag?_eq_some_iff]

theorem Asks.not_namesPath (asks : Asks flag mode) : ¬ NamesPath flag := by
  unfold NamesPath
  cases asks <;> decide

theorem exists_reads : ∀ arguments, ∃ items, Reads arguments items
  | [] => ⟨[], .nil⟩
  | argument :: rest => by
    by_cases names : NamesPath argument
    · match rest with
      | [] => exact ⟨_, .pathMissing names⟩
      | value :: rest =>
        obtain ⟨items, reads⟩ := exists_reads rest
        exact ⟨_, .path names reads⟩
    · obtain ⟨items, reads⟩ := exists_reads rest
      by_cases asks : ∃ mode, Asks argument mode
      · obtain ⟨mode, asks⟩ := asks
        exact ⟨_, .mode asks reads⟩
      · exact ⟨_, .unknown names (not_exists.mp asks) reads⟩

/-- Arguments read in one way only. -/
theorem Reads.unique (reads : Reads arguments items) :
    ∀ {others : List Item}, Reads arguments others → others = items := by
  induction reads with
  | nil =>
    intro others other
    cases other
    rfl
  | path names _ ih =>
    intro others other
    cases other with
    | path _ other => rw [ih other]
    | mode asks => exact absurd names asks.not_namesPath
    | unknown notNames => exact absurd names notNames
  | pathMissing names =>
    intro others other
    cases other with
    | pathMissing => rfl
    | mode asks => exact absurd names asks.not_namesPath
    | unknown notNames => exact absurd names notNames
  | mode asks _ ih =>
    intro others other
    cases other with
    | path names => exact absurd names asks.not_namesPath
    | pathMissing names => exact absurd names asks.not_namesPath
    | mode _ other => rw [ih other]
    | unknown _ notAsks => exact absurd asks (notAsks _)
  | unknown notNames notAsks _ ih =>
    intro others other
    cases other with
    | path names => exact absurd names notNames
    | pathMissing names => exact absurd names notNames
    | mode asks => exact absurd asks (notAsks _)
    | unknown _ _ other => rw [ih other]

/-! ### What is made of a reading -/

theorem read_path (value : String) (names : NamesPath flag) :
    read sofar (flag :: value :: rest) = read { sofar with path := value } rest := by
  rw [read, if_pos (isPathFlag_iff.mpr names)]

theorem read_pathMissing (names : NamesPath flag) :
    read sofar [flag] = .error (.pathMissing flag) := by
  rw [read, if_pos (isPathFlag_iff.mpr names)]

theorem read_mode (asks : Asks flag mode) :
    read sofar (flag :: rest) = read { sofar with mode := mode } rest := by
  have notPath : ¬ isPathFlag flag = true := fun path => asks.not_namesPath (isPathFlag_iff.mp path)
  have found := modeFlag?_eq_some_iff.mpr asks
  cases rest <;> simp [read, notPath, found]

theorem read_unknown (notNames : ¬ NamesPath argument) (notAsks : ∀ mode, ¬ Asks argument mode) :
    read sofar (argument :: rest) = .error (.unknown argument) := by
  have notPath : ¬ isPathFlag argument = true := fun path => notNames (isPathFlag_iff.mp path)
  have notFound := modeFlag?_eq_none_iff.mpr notAsks
  cases rest <;> simp [read, notPath, notFound]

theorem not_leftmost_nil : ¬ Leftmost m [] := by
  rintro ⟨before, after, split, _⟩
  cases before <;> cases split

theorem leftmost_misuse {first : Misuse} : Leftmost m (.misuse first :: items) ↔ first = m := by
  constructor
  · rintro ⟨before, after, split, none⟩
    cases before with
    | nil => cases split; rfl
    | cons item before => cases split; exact absurd (.head _) (none first)
  · rintro rfl
    exact ⟨[], items, rfl, fun _ => List.not_mem_nil⟩

theorem leftmost_cons {item : Item} (other : ∀ m, item ≠ .misuse m) :
    Leftmost m (item :: items) ↔ Leftmost m items := by
  constructor
  · rintro ⟨before, after, split, none⟩
    cases before with
    | nil => cases split; exact absurd rfl (other m)
    | cons item before =>
      cases split
      exact ⟨before, after, rfl, fun earlier said => none earlier (.tail _ said)⟩
  · rintro ⟨before, after, rfl, none⟩
    refine ⟨item :: before, after, rfl, fun earlier said => ?_⟩
    cases said with
    | head => exact other earlier rfl
    | tail _ said => exact none earlier said

/-- Reading fails with the leftmost misuse. -/
theorem read_eq_error_iff (reads : Reads arguments items) :
    read sofar arguments = .error m ↔ Leftmost m items := by
  induction reads generalizing sofar with
  | nil => simp [read, not_leftmost_nil]
  | path names _ ih => rw [read_path _ names, ih, leftmost_cons (by simp)]
  | pathMissing names =>
    rw [read_pathMissing names, leftmost_misuse, Except.error.injEq]
  | mode asks _ ih => rw [read_mode asks, ih, leftmost_cons (by simp)]
  | unknown notNames notAsks =>
    rw [read_unknown notNames notAsks, leftmost_misuse, Except.error.injEq]

theorem lastPath?_path (value : String) :
    lastPath? (.path value :: items) = some ((lastPath? items).getD value) := by
  simp [lastPath?, Item.path?, List.getLast?_cons]

theorem lastFlag?_mode :
    lastFlag? (.mode flag :: items) = some ((lastFlag? items).getD flag) := by
  simp [lastFlag?, Item.flag?, List.getLast?_cons]

theorem Asks.unique {other : Mode} (asks : Asks flag mode) : Asks flag other ↔ other = mode := by
  rw [← modeFlag?_eq_some_iff, modeFlag?_eq_some_iff.mpr asks, Option.some_inj, eq_comm]

theorem settles_mode {before settled : Mode} (asks : Asks flag mode) :
    Settles before (lastFlag? (.mode flag :: items)) settled
      ↔ Settles mode (lastFlag? items) settled := by
  rw [lastFlag?_mode]
  cases lastFlag? items with
  | none => exact asks.unique
  | some last => exact Iff.rfl

/-- Without a misuse the last flag and the last path count, over what held before. -/
theorem read_eq_ok_iff (reads : Reads arguments items) :
    read sofar arguments = .ok a ↔ (∀ m, .misuse m ∉ items)
      ∧ a.path = (lastPath? items).getD sofar.path
      ∧ Settles sofar.mode (lastFlag? items) a.mode := by
  induction reads generalizing sofar with
  | nil =>
    obtain ⟨path, mode⟩ := a
    obtain ⟨pathBefore, modeBefore⟩ := sofar
    simp [read, lastPath?, lastFlag?, Settles, eq_comm]
  | path names _ ih =>
    rw [read_path _ names, ih, lastPath?_path]
    simp [lastFlag?, Item.flag?]
  | pathMissing names => simp [read_pathMissing names]
  | mode asks _ ih =>
    rw [read_mode asks, ih, settles_mode asks]
    simp [lastPath?, Item.path?]
  | unknown notNames notAsks =>
    rw [read_unknown notNames notAsks]
    constructor
    · intro h
      cases h
    · intro h
      exact absurd (.head _) (h.1 _)

/-- **Changing places.** What arguments come to is the same when a mode flag and a path next to it
change places. -/
theorem parse_exchange {front : List String} {first : List Item} (value : String)
    (reads : Reads front first) (whole : ∀ flag, .misuse (.pathMissing flag) ∉ first)
    (asks : Asks flag mode) (names : NamesPath argument) :
    parse (front ++ flag :: argument :: value :: rest)
      = parse (front ++ argument :: value :: flag :: rest) := by
  unfold parse
  generalize Arguments.default = sofar
  induction reads generalizing sofar with
  | nil =>
    simp only [List.nil_append]
    rw [read_mode asks, read_path value names, read_path value names, read_mode asks]
  | path others _ ih =>
    simp only [List.cons_append]
    rw [read_path _ others, read_path _ others]
    exact ih (fun flag said => whole flag (.tail _ said)) _
  | pathMissing => exact absurd (.head _) (whole _)
  | mode others _ ih =>
    simp only [List.cons_append]
    rw [read_mode others, read_mode others]
    exact ih (fun flag said => whole flag (.tail _ said)) _
  | unknown notNames notAsks =>
    simp only [List.cons_append]
    rw [read_unknown notNames notAsks, read_unknown notNames notAsks]

/-! ### What is done -/

section

variable {fs : FileSystem} {env : Environment}
  {listen : fs.State → Transport → Settings.Listen → Except Failure.Socket Unit} {s : fs.State}

/-- What is printed where all is well. -/
def validText : String := "Configuration is valid\n"

/-- Making listeners changes no file and prints nothing. -/
theorem run_listenTo (settings : Settings) (transports : List Transport) :
    ∃ outcome, (listenTo (fs.host env listen) settings transports).run s = pure (outcome, s)
      ∧ outcome.report.output = "" := by
  induction transports with
  | nil => exact ⟨_, rfl, rfl⟩
  | cons transport rest ih =>
    cases answer : listen s transport settings.listen with
    | ok =>
      obtain ⟨outcome, made, silent⟩ := ih
      refine ⟨outcome, ?_, silent⟩
      rw [← made]
      simp [listenTo, FileSystem.host, answer]
    | error f =>
      refine ⟨.ended (reportUnheard transport f), ?_, rfl⟩
      simp [listenTo, FileSystem.host, answer]

theorem silent_start (settings : Settings) :
    ∃ outcome, (start (fs.host env listen) settings).run s = pure (outcome, s)
      ∧ outcome.report.output = "" := by
  unfold start
  split
  · exact ⟨.broken, rfl, rfl⟩
  · exact run_listenTo settings _

/-- Who prints nothing does not say that settings are valid. -/
theorem Outcome.ne_validText_of_silent {outcome : Outcome} (silent : outcome.report.output = "") :
    outcome.report.output ≠ validText := by
  rw [silent]
  decide

theorem help_ne_validText : help ≠ validText := by decide

theorem banner_ne_validText : banner ≠ validText := by decide

theorem generatedText_ne_validText (path : String) :
    "Generated default configuration at " ++ path ++ "\n" ≠ validText := by
  intro same
  have first := congrArg (·.toList.head?) same
  simp [validText] at first

theorem run_execute_of_generate (generate : a.mode = .generate) :
    (execute (fs.host env listen) a).run s =
      let (result, after) := fs.write s a.path (Utf8.encode Settings.defaultText)
      pure (.ended (reportGenerated a.path result), after) := by
  simp [execute, generate, FileSystem.host]

theorem run_execute_of_loads (loads : a.mode = .check ∨ a.mode = .run) :
    (execute (fs.host env listen) a).run s = match Settings.loadWith env (fs.read s) a.path with
      | .error e => pure (.ended (reportUnloaded a.path e), s)
      | .ok settings =>
        if a.mode = .check then pure (.ended reportValid, s)
        else (start (fs.host env listen) settings).run s := by
  have unfolded : (execute (fs.host env listen) a).run s
      = (match Settings.loadWith env (fs.read s) a.path with
        | .error e => pure (.ended (reportUnloaded a.path e))
        | .ok settings =>
          if a.mode = .check then pure (.ended reportValid)
          else start (fs.host env listen) settings : StateM fs.State Outcome).run s := by
    rcases loads with mode | mode <;> simp only [execute, mode] <;> rfl
  rw [unfolded]
  split
  · rfl
  · split <;> rfl

/-- **Without a request for a file** nothing is changed, and that the settings are valid is printed
exactly where they were to be checked and can be loaded. -/
theorem run_execute_of_ne_generate (other : a.mode ≠ .generate) :
    ∃ outcome, (execute (fs.host env listen) a).run s = pure (outcome, s)
      ∧ (outcome.report.output = validText
        ↔ a.mode = .check
          ∧ ∃ settings, Settings.loadWith env (fs.read s) a.path = .ok settings) := by
  have unloaded (e : Failure.Settings) :
      (Outcome.ended (reportUnloaded a.path e)).report.output ≠ validText :=
    Outcome.ne_validText_of_silent rfl
  cases mode : a.mode with
  | generate => exact absurd mode other
  | help =>
    refine ⟨.ended ⟨0, help, ""⟩, ?_, by simp [Outcome.report, help_ne_validText]⟩
    simp only [execute, mode]
    rfl
  | version =>
    refine ⟨.ended ⟨0, banner, ""⟩, ?_, by simp [Outcome.report, banner_ne_validText]⟩
    simp only [execute, mode]
    rfl
  | check =>
    rw [run_execute_of_loads (.inl mode)]
    cases loaded : Settings.loadWith env (fs.read s) a.path with
    | error e =>
      exact ⟨.ended (reportUnloaded a.path e), rfl, by simp [unloaded e]⟩
    | ok settings =>
      refine ⟨.ended reportValid, if_pos mode, ?_⟩
      simp [Outcome.report, reportValid, validText]
  | run =>
    rw [run_execute_of_loads (.inr mode)]
    cases Settings.loadWith env (fs.read s) a.path with
    | error e =>
      exact ⟨.ended (reportUnloaded a.path e), rfl, by simp [unloaded e]⟩
    | ok settings =>
      obtain ⟨outcome, begun, silent⟩ := @silent_start fs env listen s settings
      refine ⟨outcome, ?_, by simp [Outcome.ne_validText_of_silent silent]⟩
      simp [mode, begun]

/-- A file of default settings changes at most the file to which the path leads, and is there if
that is reported. -/
theorem run_execute_generated (lawful : fs.Lawful) (generate : a.mode = .generate) :
    let run := ((execute (fs.host env listen) a).run s).run
    run.1.report.output ≠ validText
      ∧ (∀ f, fs.contents? run.2 f ≠ fs.contents? s f → fs.locate s a.path = .ok f)
      ∧ (run.1.report.code = 0 → ∃ f, fs.locate s a.path = .ok f
        ∧ fs.contents? run.2 f = some (Utf8.encode Settings.defaultText)) := by
  rw [run_execute_of_generate generate]
  refine ⟨?_, fun f changed => ?_, fun wellEnded => ?_⟩
  · show (reportGenerated a.path _).output ≠ validText
    unfold reportGenerated
    split
    · exact generatedText_ne_validText a.path
    · simp [validText]
  · exact Classical.byContradiction fun elsewhere => changed (lawful.write_other elsewhere)
  · refine lawful.write_ok ?_
    replace wellEnded : (reportGenerated a.path _).code = 0 := wellEnded
    unfold reportGenerated at wellEnded
    split at wellEnded
    · assumption
    · cases wellEnded

/-- **What is done.** Something is changed only on a request for a file, and then no file but the
one to which the path leads. -/
theorem run_execute (lawful : fs.Lawful) (a : Arguments) :
    let run := ((execute (fs.host env listen) a).run s).run
    (run.2 ≠ s → a.mode = .generate
        ∧ ∀ f, fs.contents? run.2 f ≠ fs.contents? s f → fs.locate s a.path = .ok f)
      ∧ (a.mode = .generate → run.1.report.code = 0 → ∃ f, fs.locate s a.path = .ok f
        ∧ fs.contents? run.2 f = some (Utf8.encode Settings.defaultText))
      ∧ (run.1.report.output = validText ↔ a.mode = .check
        ∧ ∃ settings, Settings.loadWith env (fs.read s) a.path = .ok settings) := by
  intro run
  by_cases generate : a.mode = .generate
  · obtain ⟨output, changed, made⟩ := @run_execute_generated a fs env listen s lawful generate
    refine ⟨fun _ => ⟨generate, changed⟩, fun _ => made, ?_⟩
    simp [generate, output, run]
  · obtain ⟨outcome, done, valid⟩ := @run_execute_of_ne_generate a fs env listen s generate
    have same : run = (outcome, s) := congrArg Id.run done
    rw [same]
    exact ⟨fun changed => absurd rfl changed, fun asked => absurd asked generate, valid⟩

/-- Settings are loaded from the file to which the path leads. -/
theorem exists_filed (lawful : fs.Lawful) {path : String} {settings : Settings}
    (loaded : Settings.loadWith env (fs.read s) path = .ok settings) :
    ∃ f text filed, fs.locate s path = .ok f ∧ fs.contents? s f = some (Utf8.encode text)
      ∧ Settings.ofText path text = .ok filed ∧ filed.override env = .ok settings := by
  obtain ⟨filed, load, _⟩ := Settings.loadWith_eq_ok_iff.mp loaded
  obtain ⟨text, read, spelled⟩ := Settings.load_eq_ok_iff.mp load
  obtain ⟨f, located, holds⟩ := lawful.read_ok (Files.eq_ok_of_readText read)
  refine ⟨f, text, filed, located, holds, spelled, ?_⟩
  rw [← Settings.loadWith_of_load load]
  exact loaded

end

/-- The last flag of a reading that ends in a request for a default file. -/
theorem Settles.flag_of_generate {last : Option String} (settles : Settles .run last .generate) :
    ∃ flag, last = some flag ∧ (flag = "-g" ∨ flag = "--generate-config") := by
  cases last with
  | none => cases settles
  | some flag =>
    refine ⟨flag, rfl, ?_⟩
    cases (settles : Asks flag .generate) with
    | generate => exact .inl rfl
    | generateConfig => exact .inr rfl

/-- **What a command line comes to.** Arguments read in exactly one way. Reading fails exactly where
an argument is unknown or a path is missing, and the leftmost of these is reported; otherwise the
last mode flag and the last path count, so a mode flag and a path next to it can change places.
Whatever the files are, a run changes something only if the last mode flag asks for a default file,
and then no file but the one to which the last path leads; if the run is then said to have gone
well, that file holds the default settings. That the settings are valid is printed exactly where
they were to be checked and can be loaded, and they were loaded from the file to which the path
leads. -/
theorem reading_decides (arguments : List String) :
    ∃ items, Reads arguments items
      ∧ (∀ others, Reads arguments others → others = items)
      ∧ (∀ m, parse arguments = .error m ↔ Leftmost m items)
      ∧ (∀ a, parse arguments = .ok a ↔ (∀ m, .misuse m ∉ items)
          ∧ a.path = (lastPath? items).getD defaultPath ∧ Settles .run (lastFlag? items) a.mode)
      ∧ (∀ front first flag mode pathFlag value rest, Reads front first →
          (∀ last, .misuse (.pathMissing last) ∉ first) → Asks flag mode → NamesPath pathFlag →
          arguments = front ++ flag :: pathFlag :: value :: rest →
          parse arguments = parse (front ++ pathFlag :: value :: flag :: rest))
      ∧ ∀ (fs : FileSystem) (env : Environment)
          (listen : fs.State → Transport → Settings.Listen → Except Failure.Socket Unit)
          (s : fs.State), fs.Lawful →
          let run := ((invoke (fs.host env listen) arguments).run s).run
          (∀ m, parse arguments = .error m → run = (.ended ⟨1, help, m.text ++ "\n"⟩, s))
          ∧ (run.2 ≠ s → ∃ a flag, parse arguments = .ok a
              ∧ lastFlag? items = some flag ∧ (flag = "-g" ∨ flag = "--generate-config")
              ∧ ∀ f, fs.contents? run.2 f ≠ fs.contents? s f → fs.locate s a.path = .ok f)
          ∧ (∀ a, parse arguments = .ok a → a.mode = .generate → run.1.report.code = 0 →
              ∃ f, fs.locate s a.path = .ok f
                ∧ fs.contents? run.2 f = some (Utf8.encode Settings.defaultText))
          ∧ (run.1.report.output = "Configuration is valid\n"
            ↔ ∃ a settings, parse arguments = .ok a ∧ a.mode = .check
                ∧ Settings.loadWith env (fs.read s) a.path = .ok settings)
          ∧ ∀ path settings, Settings.loadWith env (fs.read s) path = .ok settings →
              ∃ f text filed, fs.locate s path = .ok f
                ∧ fs.contents? s f = some (Utf8.encode text)
                ∧ Settings.ofText path text = .ok filed ∧ filed.override env = .ok settings := by
  obtain ⟨items, reads⟩ := exists_reads arguments
  have parsed : ∀ a, parse arguments = .ok a ↔ (∀ m, .misuse m ∉ items)
      ∧ a.path = (lastPath? items).getD defaultPath ∧ Settles .run (lastFlag? items) a.mode :=
    fun a => read_eq_ok_iff reads
  refine ⟨items, reads, fun others other => reads.unique other, fun m => read_eq_error_iff reads,
    parsed, ?_, ?_⟩
  · rintro front first flag mode pathFlag value rest before whole asks names rfl
    exact parse_exchange value before whole asks names
  · intro fs env listen s lawful run
    have misused : ∀ m, parse arguments = .error m → run = (.ended (reportMisuse m), s) := by
      intro m failed
      simp only [run, invoke, failed]
      rfl
    have done : ∀ a, parse arguments = .ok a →
        run = ((execute (fs.host env listen) a).run s).run := by
      intro a ok
      simp only [run, invoke, ok]
    refine ⟨misused, ?_, ?_, ?_, fun path settings => exists_filed lawful⟩
    · intro changed
      cases outcome : parse arguments with
      | error m => exact absurd (congrArg Prod.snd (misused m outcome)) changed
      | ok a =>
        rw [done a outcome] at changed ⊢
        obtain ⟨asked, apart⟩ := (run_execute lawful a).1 changed
        have settles := ((parsed a).mp outcome).2.2
        rw [asked] at settles
        obtain ⟨flag, last, generates⟩ := settles.flag_of_generate
        exact ⟨a, flag, rfl, last, generates, apart⟩
    · intro a ok
      rw [done a ok]
      exact (run_execute lawful a).2.1
    · cases outcome : parse arguments with
      | error m =>
        rw [misused m outcome]
        refine iff_of_false help_ne_validText ?_
        rintro ⟨_, _, ⟨⟩, _⟩
      | ok a =>
        rw [done a outcome]
        refine (run_execute lawful a).2.2.trans ⟨?_, ?_⟩
        · rintro ⟨check, settings, loaded⟩
          exact ⟨a, settings, rfl, check, loaded⟩
        · rintro ⟨_, settings, ⟨⟩, check, loaded⟩
          exact ⟨check, settings, loaded⟩

/-- Whether a path is the name of something in the working directory. -/
abbrev IsName (path : String) : Prop := '/' ∉ path.toList ∧ path ∉ ["", ".", ".."]

/-- A system with one directory and nothing but files in it, where names are the only paths. -/
def Flat : FileSystem where
  State := String → Option Bytes
  File := String
  contents? s name := s name
  locate _ path := if IsName path then .ok path else .error (.system 2)
  read s path :=
    if IsName path then match s path with
      | some octets => .ok octets
      | none => .error (.system 2)
    else .error (.system 2)
  write s path octets :=
    if IsName path then (.ok (), fun name => if name = path then some octets else s name)
    else (.error (.system 2), s)

theorem lawful_flat : Flat.Lawful where
  read_ok {s path octets} read := by
    by_cases names : IsName path
    · refine ⟨path, if_pos names, ?_⟩
      simp only [Flat, if_pos names] at read
      split at read
      · cases read
        assumption
      · cases read
    · simp only [Flat, if_neg names] at read
      cases read
  write_ok {s path octets} written := by
    by_cases names : IsName path
    · refine ⟨path, if_pos names, ?_⟩
      simp only [Flat, if_pos names, if_true]
    · simp only [Flat, if_neg names] at written
      cases written
  write_other {s path octets f} elsewhere := by
    by_cases names : IsName path
    · have other : f ≠ path := by
        rintro rfl
        exact elsewhere (if_pos names)
      simp only [Flat, if_pos names]
      exact if_neg other
    · simp only [Flat, if_neg names]

/-- Flags that stand where a path is expected are paths; an earlier mode leaves no trace, and no
file but the one that the last path names is changed. -/
theorem reading_decides_mixed :
    parse ["--check", "-c", "-v", "-g", "--config", "new"] = .ok ⟨"new", .generate⟩
      ∧ parse ["--check", "-c", "-v", "--config", "new", "-g"] = .ok ⟨"new", .generate⟩
      ∧ Flat.Lawful ∧ ∀ env listen (s : Flat.State),
          let run := ((invoke (Flat.host env listen)
            ["--check", "-c", "-v", "-g", "--config", "new"]).run s).run
          ∀ name, name ≠ "new" → run.2 name = s name := by
  obtain ⟨items, _, unique, _, parsed, exchange, done⟩ :=
    reading_decides ["--check", "-c", "-v", "-g", "--config", "new"]
  have reads : Reads ["--check", "-c", "-v", "-g", "--config", "new"]
      [.mode "--check", .path "-v", .mode "-g", .path "new"] :=
    .mode .check (.path (.inl rfl) (.mode .generate (.path (.inr rfl) .nil)))
  cases unique _ reads
  have ok : parse ["--check", "-c", "-v", "-g", "--config", "new"] = .ok ⟨"new", .generate⟩ :=
    (parsed _).mpr ⟨by simp, rfl, .generate⟩
  refine ⟨ok, ?_, lawful_flat, ?_⟩
  · rw [← ok]
    exact (exchange ["--check", "-c", "-v"] [.mode "--check", .path "-v"] "-g" .generate "--config"
      "new" [] (.mode .check (.path (.inl rfl) .nil)) (by simp) .generate (.inr rfl) rfl).symm
  · intro env listen s run name different
    obtain ⟨_, changes, _⟩ := done Flat env listen s lawful_flat
    by_cases same : run.2 = s
    · rw [same]
    · obtain ⟨a, flag, again, _, _, apart⟩ := changes same
      cases ok.symm.trans again
      refine Classical.byContradiction fun changed => different ?_
      exact (Except.ok.inj (apart name changed)).symm

end CommandLine

end Intercept
