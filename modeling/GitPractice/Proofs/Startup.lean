import GitPractice.CommandLine.Program

/-!
# How the program gets to its command

Most of the steps of the program report something at most: `Work.Yields` is said of
these, and `Work.Prints` of work whose output is known, however it ends. In this way
the program reads its options, loads the settings, and turns to the command, having
printed nothing and written no file (`Program.run_plan`). `Work.Keeps` is said of work
that writes no file, also where it ends the program.
-/

namespace GitPractice

namespace Work

variable {α β : Type} {w : Work α} {f : α → Work β} {p : Progress} {a : α} {b : β}

/-- The work ends with this result, and it has reported something at most. -/
def Yields (w : Work α) (p : Progress) (a : α) : Prop := ∃ errors, w.run p = (.ok a, { p with errors })

theorem run_bind (w : Work α) (f : α → Work β) (p : Progress) :
    (w >>= f).run p =
      match w.run p with
      | (.ok a, q) => (f a).run q
      | (.error ending, q) => (.error ending, q) := by
  show (ExceptT.bindCont f (w.run p).1) (w.run p).2 = _
  rcases w.run p with ⟨_ | _, _⟩ <;> rfl

theorem exists_of_run_bind {q : Progress} (h : (w >>= f).run p = (.ok b, q)) :
    ∃ a r, w.run p = (.ok a, r) ∧ (f a).run r = (.ok b, q) := by
  rw [run_bind] at h
  cases hw : w.run p with
  | mk result r =>
    rw [hw] at h
    cases result with
    | error ending => cases h
    | ok a => exact ⟨a, r, rfl, h⟩

theorem run_get (p : Progress) : (get : Work Progress).run p = (.ok p, p) := rfl

theorem run_usage_ok (a : α) (p : Progress) : (usage (.ok a)).run p = (.ok a, p) := rfl

theorem run_faultless_ok (a : α) (p : Progress) : (faultless (.ok a)).run p = (.ok a, p) := rfl

theorem yields_pure (a : α) : Yields (pure a) p a := ⟨p.errors, rfl⟩

theorem yields_get : Yields get p p := ⟨p.errors, rfl⟩

theorem yields_faultless : Yields (faultless (.ok a)) p a := yields_pure a

theorem yields_usage : Yields (usage (.ok a)) p a := yields_pure a

theorem yields_printError (text : String) : Yields (printError text) p () := ⟨p.errors ++ text, rfl⟩

theorem yields_report (level : Settings.Level) (origin : Settings.Origin) (message : String) :
    Yields (report level origin message) p () := ⟨_, rfl⟩

theorem Yields.bind (hw : Yields w p a) (hf : ∀ errors, Yields (f a) { p with errors } b) :
    Yields (w >>= f) p b := by
  obtain ⟨errors, hw⟩ := hw
  obtain ⟨more, hf⟩ := hf errors
  refine ⟨more, ?_⟩
  rw [run_bind, hw]
  exact hf

theorem yields_trace (entries : List Trace.Entry) : Yields (trace entries) p () := by
  induction entries generalizing p with
  | nil => exact yields_pure ()
  | cons e entries ih =>
    rw [trace, List.forM_eq_forM, List.forM_cons]
    exact (yields_report ..).bind fun errors => ih

/-- Reports on the way of a fold do not change where it ends. -/
theorem yields_foldlM {σ : Type} {step : σ → α → Work σ} {next : σ → α → σ}
    (h : ∀ s a p, Yields (step s a) p (next s a)) (items : List α) (s : σ) :
    Yields (items.foldlM step s) p (items.foldl next s) := by
  induction items generalizing s p with
  | nil => exact yields_pure s
  | cons a items ih =>
    rw [List.foldlM_cons]
    exact (h s a p).bind fun errors => ih (next s a)

/-- However the work ends, this is what it prints. -/
def Prints (w : Work α) (p : Progress) (text : String) : Prop := (w.run p).2.output = p.output ++ text

theorem Yields.prints (hw : Yields w p a) {text : String} (hf : ∀ errors, Prints (f a) { p with errors } text) :
    Prints (w >>= f) p text := by
  obtain ⟨errors, hw⟩ := hw
  rw [Prints, run_bind, hw]
  exact hf errors

theorem prints_print {f : Unit → Work β} {text : String}
    (hf : Prints (f ()) { p with output := p.output ++ text } "") : Prints (print text >>= f) p text := by
  rw [Prints, run_bind]
  show ((f ()).run { p with output := p.output ++ text }).2.output = _
  rw [hf, String.append_empty]

theorem prints_failWith (failure : CommandFailure) : Prints (failWith failure) p "" :=
  (String.append_empty).symm

theorem yields_loadSettings {settings : Settings} (h : p.home.load.2 = .ok settings) :
    Yields loadSettings p settings := by
  rw [loadSettings]
  refine yields_get.bind fun _ => ?_
  dsimp only
  rw [h]
  exact (yields_printError _).bind fun _ => yields_faultless

/-! ## Work that writes no file -/

/-- However the work ends, the files and the variables are those of the beginning. -/
def Keeps (w : Work α) : Prop := ∀ p, (w.run p).2.home = p.home

theorem keeps_pure (a : α) : Keeps (pure a) := fun _ => rfl

theorem keeps_throw (ending : Ending) : Keeps (throw ending : Work α) := fun _ => rfl

theorem keeps_get : Keeps get := fun _ => rfl

theorem keeps_print (text : String) : Keeps (print text) := fun _ => rfl

theorem keeps_printError (text : String) : Keeps (printError text) := fun _ => rfl

/-- Either the work ends in its first part, or the rest of it goes on from there. -/
theorem Keeps.bind_cases (hw : Keeps w) (f : α → Work β) (p : Progress) :
    ((w >>= f).run p).2.home = p.home ∨
      ∃ a q, w.run p = (.ok a, q) ∧ q.home = p.home ∧ (w >>= f).run p = (f a).run q := by
  have hkept := hw p
  rw [run_bind]
  rcases hrun : w.run p with ⟨ending | a, q⟩
  · rw [hrun] at hkept
    exact Or.inl hkept
  · rw [hrun] at hkept
    exact Or.inr ⟨a, q, rfl, hkept, rfl⟩

theorem Keeps.bind (hw : Keeps w) (hf : ∀ a, Keeps (f a)) : Keeps (w >>= f) := by
  intro p
  rcases hw.bind_cases f p with hend | ⟨a, q, -, hkept, hrun⟩
  · exact hend
  · rw [hrun, hf a q, hkept]

/-- What is done afterwards does not count for the files if it keeps them. -/
theorem home_bind_of_keeps (hf : ∀ a, Keeps (f a)) : ((w >>= f).run p).2.home = (w.run p).2.home := by
  rw [run_bind]
  rcases w.run p with ⟨ending | a, q⟩
  · rfl
  · exact hf a q

theorem keeps_faultless (result : Except Fault α) : Keeps (faultless result) := by
  cases result with
  | error fault => exact keeps_throw _
  | ok a => exact keeps_pure a

theorem keeps_usage (result : Except UsageError α) : Keeps (usage result) := by
  cases result with
  | ok a => exact keeps_pure a
  | error e =>
    rw [usage]
    dsimp only
    split
    · exact (keeps_pure ()).bind fun _ => keeps_throw _
    · exact (keeps_printError _).bind fun _ => keeps_throw _

theorem ok_of_faultless {result : Except Fault α} {q : Progress} (h : (faultless result).run p = (.ok a, q)) :
    result = .ok a := by
  cases result with
  | error fault => cases h
  | ok b =>
    cases h
    rfl

theorem ok_of_usage {result : Except UsageError α} {q : Progress} (h : (usage result).run p = (.ok a, q)) :
    result = .ok a := by
  cases result with
  | error e =>
    rw [usage] at h
    dsimp only at h
    split at h
    · cases h
    · cases h
  | ok b =>
    cases h
    rfl

theorem keeps_loadSettings : Keeps loadSettings :=
  keeps_get.bind fun _ => (keeps_printError _).bind fun _ => keeps_faultless _

end Work

namespace Program

open Work

variable {inv : Invocation} {own : Arguments} {settings : Settings} {command : CommandName}
  {arguments : List String} {p : Progress}

theorem yields_readOptions (hoptions : Arguments.parse options false arguments = .ok own)
    (hversion : own.hasOption "--version" = false) (hhelp : own.hasOption "--help" = false) :
    Yields (readOptions arguments) p own := by
  have hnone : ((own.options.map (·.1)).find? fun key => key = "--version" || key = "--help") = none := by
    simp only [Arguments.hasOption, List.any_eq_false, decide_eq_true_eq] at hversion hhelp
    simp only [List.find?_map, Option.map_eq_none_iff, List.find?_eq_none, Function.comp_apply, Bool.or_eq_true,
      decide_eq_true_eq, not_or]
    exact fun option hoption => ⟨hversion option hoption, hhelp option hoption⟩
  rw [readOptions, hoptions]
  refine yields_usage.bind fun _ => ?_
  rw [hnone]
  exact yields_pure own

theorem keeps_readOptions (arguments : List String) : Keeps (readOptions arguments) := by
  refine (keeps_usage _).bind fun a => ?_
  split
  · exact (keeps_print _).bind fun _ => keeps_throw _
  · exact keeps_throw _
  · exact keeps_pure a

theorem ok_of_readOptions {q : Progress} (h : (readOptions arguments).run p = (.ok own, q)) :
    Arguments.parse options false arguments = .ok own := by
  obtain ⟨a, r, hparse, h⟩ := exists_of_run_bind h
  split at h
  · cases h
  · cases h
  · cases h
    exact ok_of_usage hparse

theorem yields_findCommand {name : String} (h : CommandName.ofText? name = some command) :
    Yields (findCommand name arguments) p command := by
  rw [findCommand, h]
  exact yields_pure command

theorem run_configureReports {rank : Nat} (h : (p.form.configure settings).2 = .ok rank)
    (verbose : Bool) : ∃ form, (configureReports settings verbose).run p = (.ok (), { p with form }) := by
  rw [configureReports, run_bind, run_get]
  dsimp only
  cases hconfigure : p.form.configure settings with
  | mk form result =>
    rw [hconfigure] at h
    obtain rfl : result = .ok rank := h
    cases verbose
    · exact ⟨_, rfl⟩
    · exact ⟨_, rfl⟩

theorem keeps_configureReports (settings : Settings) (verbose : Bool) : Keeps (configureReports settings verbose) := by
  intro p
  rw [configureReports, run_bind, run_get]
  dsimp only
  cases hconfigure : p.form.configure settings with
  | mk form result =>
    cases result with
    | error fault => rfl
    | ok rank =>
      cases verbose
      · rfl
      · rfl

/-- The command line has the command with these arguments, and nothing is wrong with the settings. -/
structure Reaches (inv : Invocation) (settings : Settings) (command : CommandName) (arguments : List String) :
    Prop where
  read : ∃ own name, Arguments.parse options false inv.arguments = .ok own ∧
    own.hasOption "--version" = false ∧ own.hasOption "--help" = false ∧
      own.others = name :: arguments ∧ CommandName.ofText? name = some command
  loaded : inv.home.load.2 = .ok settings
  reports : ∃ rank, (Settings.LogForm.initial.configure settings).2 = .ok rank

/-- The settings decide how reports are written, and the program goes on with the command. -/
theorem run_plan (source : Source) (h : Reaches inv settings command arguments) : ∃ errors form,
    (plan source inv).run { home := inv.home } =
      (planCommand source inv settings arguments command).run { errors, form, home := inv.home } := by
  obtain ⟨own, name, hoptions, hversion, hhelp, hothers, hname⟩ := h.read
  obtain ⟨rank, hrank⟩ := h.reports
  obtain ⟨errors, hread⟩ : Yields (readOptions inv.arguments) { home := inv.home } own :=
    yields_readOptions hoptions hversion hhelp
  obtain ⟨others, hfind⟩ : Yields (findCommand name arguments) { errors, home := inv.home } command :=
    yields_findCommand hname
  obtain ⟨more, hload⟩ : Yields loadSettings { errors := others, home := inv.home } settings :=
    yields_loadSettings h.loaded
  obtain ⟨form, hconfigure⟩ : ∃ form,
      (configureReports settings (own.hasOption "--verbose")).run { errors := more, home := inv.home } =
        (.ok (), { errors := more, form, home := inv.home }) :=
    run_configureReports hrank _
  refine ⟨more, form, ?_⟩
  rw [plan, run_bind, hread]
  dsimp only
  rw [hothers]
  dsimp only
  rw [run_bind, hfind]
  dsimp only
  rw [run_bind, hload]
  dsimp only
  rw [run_bind, hconfigure]

end Program

end GitPractice
