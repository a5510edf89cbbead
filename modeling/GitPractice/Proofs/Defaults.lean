import GitPractice.Proofs.Run
import GitPractice.Proofs.Saving
import GitPractice.Proofs.Startup

/-!
# Writing the defaults

`config init` writes the defaults where no file for settings is found, and leaves alone what it finds, unless
it is forced. It looks for the file before the directories on the way there are made, and that can
be too early: a path that leads back out of a directory which is missing leads nowhere, but with the directory it
may lead to a file that has been there all the time. Then this file is overwritten
(`Settings.Home.Uncovers`, `Program.defaults_overwrite_iff`). Without two points on the path for the home directory it
does not come to that. In any case only the file that is written to is changed or made, and a second time there is
nothing to do: a file is found then, or writing it is given up where it was given up before.

There are no symbolic links on a disk as it is meant here. With one in the place of the file that leads nowhere,
another file would be made.
-/

namespace GitPractice

/-! ## Where a path leads before and after -/

namespace Disk

variable {d e : Disk} {place : Place} {name : String} {p : Path}

theorem isDirectory_of_isThere (h : d.isThere (place ++ [name]) = true) : d.isDirectory place = true := by
  rcases isThere_iff.mp h with hfile | hdirectory
  · have hlisted : place ++ [name] ∈ d.files.map (·.1) ++ d.sinks := by
      by_cases hsink : place ++ [name] ∈ d.sinks
      · exact List.mem_append_right _ hsink
      · rw [file?_of_no_sink hsink, Option.isSome_map] at hfile
        obtain ⟨f, hf⟩ := Option.isSome_iff_exists.mp hfile
        have hplace : f.1 = place ++ [name] := by simpa using List.find?_some hf
        exact List.mem_append_left _ (hplace ▸ List.mem_map_of_mem (List.mem_of_find?_eq_some hf))
    rw [isDirectory, Bool.or_eq_true, List.any_eq_true]
    exact Or.inr ⟨_, hlisted, by simp⟩
  · exact isDirectory_of_above (List.prefix_append place [name]) hdirectory

theorem step_congr_isSome (h : (e.file? place).isSome = (d.file? place).isSome) :
    e.step place name = d.step place name := by
  rw [step, step, h]

/-- A path without two points leads to what is there also where more directories are. -/
theorem resolve_of_no_parent (hp : p.Tidy) (hnames : ".." ∉ p.names) (hcurrent : e.current = d.current)
    (hfiles : ∀ other, (e.file? other).isSome = (d.file? other).isSome) (h : e.resolve p.text = .ok place)
    (hthere : d.isThere place = true) : d.resolve p.text = .ok place := by
  obtain ⟨root, names⟩ := p
  -- the names are followed from the first to the last, and what lies on the way is there because the last place is
  induction names using List.reverseRecOn generalizing place with
  | nil =>
    rw [resolve_of_nil hp rfl] at h ⊢
    rw [hcurrent] at h
    have hroot := enter_of_blank (isDirectory_root d) (Or.inl rfl)
    have hroot' := enter_of_blank (isDirectory_root e) (Or.inl rfl)
    have hhere := enter_of_blank (isDirectory_current d) (Or.inr rfl)
    have hhere' := enter_of_blank (hcurrent ▸ isDirectory_current e) (Or.inr rfl)
    rw [hroot', hhere', hfiles, hfiles] at h
    rwa [hroot, hhere]
  | append_singleton names name ih =>
    have hparent : Path.Tidy ⟨root, names⟩ :=
      ⟨hp.root, fun other hother => hp.names other (List.mem_append_left _ hother)⟩
    have hname : Path.IsName name := hp.names name (List.mem_append_right _ List.mem_cons_self)
    have hentry : Path.IsEntry name := ⟨hname, fun heq => hnames (heq ▸ List.mem_append_right _ List.mem_cons_self)⟩
    have hsize := size_of_resolve h
    rw [show (⟨root, names ++ [name]⟩ : Path) = Path.child ⟨root, names⟩ name from rfl] at h hsize ⊢
    rw [resolve_child hparent hname hsize] at h ⊢
    obtain ⟨above, habove, henter⟩ := exists_of_bind_ok h
    obtain ⟨hstep, -⟩ := enter_eq_ok_iff.mp henter
    obtain rfl := step_entry hentry hstep
    have hdirectory := isThere_iff.mpr (Or.inr (isDirectory_of_isThere hthere))
    rw [ih hdirectory hparent (fun hmem => hnames (List.mem_append_left _ hmem)) habove]
    exact enter_eq_ok_iff.mpr ⟨(step_congr_isSome (hfiles above)).symm.trans hstep, hthere⟩

end Disk

namespace Settings
namespace Home

variable {home : Home} {p directory : Path} {e : Disk} {place : Place} {content : Content}

/-- What is written as the defaults. -/
def defaultContent : Content := .text (fileText .json defaults)

/-- The file in effect would be at this path, but it is not there. -/
structure Unfound (home : Home) (p : Path) : Prop where
  path : home.path = .ok p
  unfound : home.isFound p = .ok false

/-- No file for settings is found, and after writing the defaults to where it would be this is the disk. -/
structure FirstWrite (home : Home) (p : Path) (e : Disk) : Prop extends home.Unfound p where
  written : home.disk.write p defaultContent = .ok e

/-- No file for settings is found, and writing the defaults to where it would be is given up, which leaves this
disk. -/
structure FirstFailure (home : Home) (p : Path) (e : Disk) : Prop extends home.Unfound p where
  failed : ∃ error, home.disk.write p defaultContent = .error { error, disk := e }

/-- No file for settings is found, but the path for it leads to this place when the directories on the way have
been made. What is written there is kept. -/
def Uncovers (home : Home) (place : Place) : Prop :=
  ∃ p e, home.FirstWrite p e ∧ e.resolve p.text = .ok place ∧ place ∉ home.disk.sinks

namespace Unfound

/-- A file in effect that is not found is the one that would be written in the directory for settings. -/
theorem eq_child (h : home.Unfound p) :
    ∃ directory, home.directory = .ok directory ∧ p = directory.child "config.json" := by
  rcases path_cases h.path with hnamed | ⟨-, directory, found, hdirectory, hfound, rfl⟩
  · obtain ⟨-, -, -, -, hfound⟩ := namedFile_iff.mp hnamed
    cases hfound.symm.trans h.unfound
  · cases found with
    | none => exact ⟨directory, hdirectory, rfl⟩
    | some q =>
      obtain ⟨-, -, -, -, hfilled⟩ := first_of_findM? hfound
      cases (isFound_of_isFilled hfilled).symm.trans h.unfound

/-- It would be at the same path whatever else is on the disk. -/
theorem path_unique (h : home.Unfound p) {q : Path} (h' : ({ home with disk := e } : Home).Unfound q) : q = p := by
  obtain ⟨directory, hdirectory, rfl⟩ := h.eq_child
  obtain ⟨other, hother, rfl⟩ := h'.eq_child
  have hsame : home.directory = .ok other := hother
  cases hdirectory.symm.trans hsame
  rfl

/-- The defaults are saved there, if that can be done. -/
theorem save_defaults (h : home.Unfound p) : ∃ saved, home.save defaults = .ok saved ∧
    (home.FirstWrite p saved.disk ∨ home.FirstFailure p saved.disk) := by
  obtain ⟨reports, hsave⟩ := save_of_path h.path defaults
  have hdestination : destination p = p ∧ formatOf p = .json := by
    obtain ⟨directory, -, rfl⟩ := h.eq_child
    exact ⟨destination_json directory, (formatOf_child directory _).trans (by decide +kernel)⟩
  rw [hdestination.1, hdestination.2, ← defaultContent] at hsave
  rw [hsave]
  split
  next disk hdisk => exact ⟨_, rfl, Or.inl ⟨h, hdisk⟩⟩
  next unfinished hunfinished => exact ⟨_, rfl, Or.inr ⟨h, unfinished.error, hunfinished⟩⟩

end Unfound

namespace FirstWrite

theorem tidy (h : home.FirstWrite p e) : p.Tidy := tidy_path h.path

/-- What is changed or made is the file that the path leads to afterwards. -/
theorem place_of_changed (h : home.FirstWrite p e) (hchanged : e.file? place ≠ home.disk.file? place) :
    e.resolve p.text = .ok place ∧ place ∉ home.disk.sinks ∧ e.file? place = some defaultContent := by
  obtain ⟨found, hfound, hcontent, hsink, hother⟩ := Disk.file?_of_write h.tidy h.written
  obtain rfl : place = found := by
    by_contra hne
    exact hchanged (hother place hne)
  have hkept : place ∉ home.disk.sinks := fun hmem => hchanged (hsink hmem)
  exact ⟨hfound, hkept, hcontent hkept⟩

theorem file?_of_ne (h : home.FirstWrite p e) (hplace : e.resolve p.text = .ok place) {other : Place}
    (hne : other ≠ place) : e.file? other = home.disk.file? other := by
  by_contra hchanged
  obtain ⟨hother, -⟩ := h.place_of_changed hchanged
  exact hne (Except.ok.inj (hother.symm.trans hplace))

theorem file?_self (h : home.FirstWrite p e) (hplace : e.resolve p.text = .ok place)
    (hsink : place ∉ home.disk.sinks) : e.file? place = some defaultContent := by
  obtain ⟨found, hfound, hcontent, -⟩ := Disk.file?_of_write h.tidy h.written
  cases hplace.symm.trans hfound
  exact hcontent hsink

/-- A file is changed only if it is uncovered, and did not hold the defaults. -/
theorem changes_iff (h : home.FirstWrite p e) (hfile : home.disk.file? place = some content) :
    e.file? place ≠ some content ↔ home.Uncovers place ∧ content ≠ defaultContent := by
  constructor
  · intro hchanged
    obtain ⟨hplace, hkept, hcontent⟩ := h.place_of_changed (hfile ▸ hchanged)
    refine ⟨⟨p, e, h, hplace, hkept⟩, ?_⟩
    rintro rfl
    exact hchanged hcontent
  · rintro ⟨⟨q, e', h', hplace, hsink⟩, hne⟩
    cases h.path.symm.trans h'.path
    cases h.written.symm.trans h'.written
    rw [h.file?_self hplace hsink]
    exact fun heq => hne (Option.some_inj.mp heq).symm

/-- A file that is made holds the defaults, in the directory for settings. -/
theorem file?_of_made (h : home.FirstWrite p e) (hnone : home.disk.file? place = none)
    (hmade : e.file? place ≠ none) : e.file? place = some defaultContent ∧
      ∃ directory, home.directory = .ok directory ∧
        e.resolve (directory.child "config.json").text = .ok place := by
  obtain ⟨hplace, -, hcontent⟩ := h.place_of_changed (hnone ▸ hmade)
  obtain ⟨directory, hdirectory, rfl⟩ := h.eq_child
  exact ⟨hcontent, directory, hdirectory, hplace⟩

/-- It takes two points on the path for a file to be uncovered. -/
theorem two_points (h : home.FirstWrite p e) (hplace : e.resolve p.text = .ok place)
    (hfile : (home.disk.file? place).isSome = true) : ".." ∈ p.names := by
  by_contra hnames
  obtain ⟨hextends, -⟩ := Disk.resolve_of_write h.tidy h.written
  have hsame : ∀ other, (e.file? other).isSome = (home.disk.file? other).isSome := by
    intro other
    by_cases hother : other = place
    · rw [hother, hfile, hextends.isFile place hfile]
    · rw [h.file?_of_ne hplace hother]
  have hbefore := Disk.resolve_of_no_parent h.tidy hnames hextends.current hsame hplace
    (Disk.isThere_iff.mpr (Or.inl hfile))
  cases (isFound_iff.mpr ⟨place, hbefore⟩).symm.trans h.unfound

/-- After the defaults have been written a file for settings is found. -/
theorem found_afterwards (h : home.FirstWrite p e) (q : Path) : ¬ ({ home with disk := e } : Home).Unfound q := by
  intro h'
  cases h.path_unique h'
  obtain ⟨place, hplace, -⟩ := Disk.file?_of_write h.tidy h.written
  have hfound : ({ home with disk := e } : Home).isFound p = .ok true := isFound_iff.mpr ⟨place, hplace⟩
  cases hfound.symm.trans h'.unfound

end FirstWrite

namespace FirstFailure

/-- Directories may have been made, but no file has changed. -/
theorem file?_eq (h : home.FirstFailure p e) (place : Place) : e.file? place = home.disk.file? place := by
  obtain ⟨error, hfailed⟩ := h.failed
  obtain ⟨more, rfl⟩ := Disk.exists_withDirectories_of_write hfailed
  rfl

/-- The next time it is given up as well, and nothing changes any more. -/
theorem failure_afterwards (h : home.FirstFailure p e) {q : Path} (h' : ({ home with disk := e } : Home).Unfound q) :
    ({ home with disk := e } : Home).FirstFailure q e := by
  cases h.path_unique h'
  obtain ⟨error, hfailed⟩ := h.failed
  obtain ⟨⟨again, disk⟩, hagain, rfl⟩ := Disk.write_again (tidy_path h.path) hfailed
  exact ⟨h', again, hagain⟩

/-- There is one disk that the defaults leave. -/
theorem disk_unique (h : home.FirstFailure p e) {f : Disk}
    (h' : home.FirstWrite p f ∨ home.FirstFailure p f) : f = e := by
  obtain ⟨error, hfailed⟩ := h.failed
  rcases h' with hwrite | hfailure
  · cases hfailed.symm.trans hwrite.written
  · obtain ⟨other, hother⟩ := hfailure.failed
    cases hfailed.symm.trans hother
    rfl

end FirstFailure

theorem Uncovers.two_points (h : home.Uncovers place) (hfile : (home.disk.file? place).isSome = true) :
    ∃ directory, home.directory = .ok directory ∧ ".." ∈ directory.names := by
  obtain ⟨p, e, hwrite, hplace, -⟩ := h
  have hpoints := hwrite.two_points hplace hfile
  obtain ⟨directory, hdirectory, rfl⟩ := hwrite.eq_child
  refine ⟨directory, hdirectory, ?_⟩
  rcases List.mem_append.mp hpoints with hmem | hmem
  · exact hmem
  · exact absurd (List.mem_singleton.mp hmem) (by decide)

end Home
end Settings

/-! ## Flags -/

namespace Arguments

/-- Flags with one name each, which are not those of one letter. -/
def LongFlags (specs : List OptionSpec) : Prop :=
  ∀ spec ∈ specs, spec.takesValue = false ∧ ∃ name, spec.names = [name] ∧ 2 < name.toList.length

variable {specs : List OptionSpec} {mixed : Bool} {a b : Arguments} {key argument : String}
  {next rest : List String}

theorem hasOption_addOption {name value : String} :
    (a.addOption name value).hasOption key = true ↔ a.hasOption key = true ∨ name = key := by
  simp [hasOption, addOption]

namespace LongFlags

variable (hspecs : LongFlags specs)
include hspecs

theorem readShort_eq {cs : List Char} (h : readShort specs a next cs = .ok (b, rest)) : b = a ∧ rest = next := by
  cases cs with
  | nil =>
    cases h
    exact ⟨rfl, rfl⟩
  | cons c cs =>
    have hnone : specs.find? (·.names.contains (String.ofList ['-', c])) = none := by
      rw [List.find?_eq_none]
      intro spec hspec hname
      obtain ⟨-, name, hnames, hlong⟩ := hspecs spec hspec
      rw [hnames, List.contains_iff_mem, List.mem_singleton] at hname
      rw [← hname, String.toList_ofList] at hlong
      exact absurd hlong (by simp)
    rw [readShort, hnone] at h
    cases h

theorem readLong_eq (h : readLong specs a next argument = .ok (b, rest)) :
    b = a.addOption argument "" ∧ rest = next := by
  rw [readLong] at h
  split at h
  · cases h
  next spec hspec =>
    obtain ⟨hflag, name, hnames, -⟩ := hspecs spec (List.mem_of_find?_eq_some hspec)
    have hname : String.ofList (argument.toList.takeWhile (· ≠ '=')) = name := by
      have hfound := List.find?_some hspec
      rwa [hnames, List.contains_iff_mem, List.mem_singleton] at hfound
    rw [hflag, if_neg (by decide)] at h
    split at h
    · cases h
    next hjoined =>
      have hall : argument.toList.takeWhile (· ≠ '=') = argument.toList := by
        refine List.takeWhile_eq_self_iff.mpr fun c hc => decide_eq_true fun heq => hjoined ?_
        rwa [List.contains_iff_mem, ← heq]
      rw [hall, String.ofList_toList] at hname
      cases h
      rw [OptionSpec.key, hnames, hname]
      exact ⟨rfl, rfl⟩

theorem mem_of_read {fuel : Nat} {arguments : List String} (h : read specs mixed a fuel arguments = .ok b)
    (hkey : b.hasOption key = true) : a.hasOption key = true ∨ key ∈ arguments := by
  induction fuel generalizing a arguments with
  | zero =>
    cases h
    exact Or.inl hkey
  | succ fuel ih =>
    cases arguments with
    | nil =>
      cases h
      exact Or.inl hkey
    | cons argument rest =>
      rw [read] at h
      split at h
      · cases h
        exact Or.inl hkey
      split at h
      · dsimp only at h
        split at h
        next c later hread =>
          split at hread
          · obtain ⟨rfl, rfl⟩ := hspecs.readLong_eq hread
            rcases ih h with hbefore | hmem
            · exact (hasOption_addOption.mp hbefore).imp_right fun heq : argument = key => heq ▸ List.mem_cons_self
            · exact Or.inr (List.mem_cons_of_mem _ hmem)
          · obtain ⟨rfl, rfl⟩ := hspecs.readShort_eq hread
            exact (ih h).imp_right (List.mem_cons_of_mem _)
        · cases h
      split at h
      · exact (ih h).imp_right (List.mem_cons_of_mem _)
      · cases h
        exact Or.inl hkey

/-- A flag is found only where it stands. -/
theorem mem_of_parse {arguments : List String} (h : parse specs mixed arguments = .ok a)
    (hkey : a.hasOption key = true) : key ∈ arguments :=
  (hspecs.mem_of_read h hkey).resolve_left nofun

end LongFlags

end Arguments

/-! ## The command -/

namespace Work

variable {α β : Type} {w : Work α} {f : α → Work β} {p : Progress}

/-- However the work ends, the files are those of the beginning, or the defaults have been written where no file
for settings is found, or it has been given up to do that. -/
def WritesDefaults (w : Work α) (p : Progress) : Prop :=
  (w.run p).2.home = p.home ∨ ∃ place e, (p.home.FirstWrite place e ∨ p.home.FirstFailure place e) ∧
    (w.run p).2.home = { p.home with disk := e }

theorem Keeps.writesDefaults (hw : Keeps w) (p : Progress) : WritesDefaults w p := Or.inl (hw p)

theorem Keeps.bind_writesDefaults (hw : Keeps w)
    (hf : ∀ a q, w.run p = (.ok a, q) → q.home = p.home → WritesDefaults (f a) q) : WritesDefaults (w >>= f) p := by
  rcases hw.bind_cases f p with hend | ⟨a, q, ha, hq, hrun⟩
  · exact Or.inl hend
  · rw [WritesDefaults, hrun, ← hq]
    exact hf a q ha hq

end Work

namespace Commands

open Work Settings.Home

variable {later : List String} {p : Progress} {place : Path} {e : Disk}

theorem keeps_unlessHelp (a : Arguments) : Keeps (unlessHelp a) := by
  rw [unlessHelp]
  split
  · exact keeps_throw _
  · exact keeps_pure ()

theorem home_saveSettings (h : p.home.Unfound place) :
    ∃ e, (p.home.FirstWrite place e ∨ p.home.FirstFailure place e) ∧
      ((saveSettings Settings.defaults).run p).2.home = { p.home with disk := e } := by
  obtain ⟨saved, hsave, hcases⟩ := h.save_defaults
  refine ⟨saved.disk, hcases, ?_⟩
  simp only [saveSettings, run_bind, run_get, hsave, run_faultless_ok]
  rfl

theorem longFlags_init : Arguments.LongFlags [{ names := ["--force"] }, helpOption] := by
  intro spec hspec
  rcases List.mem_pair.mp hspec with rfl | rfl
  · exact ⟨rfl, "--force", rfl, by decide⟩
  · exact ⟨rfl, "--help", rfl, by decide⟩

/-- Without force the command writes the defaults at most. -/
theorem writesDefaults_configInit (hforce : "--force" ∉ later) (p : Progress) :
    WritesDefaults (configInit later) p := by
  rw [configInit]
  refine (keeps_usage _).bind_writesDefaults fun a q ha _ => ?_
  have hunforced : a.hasOption "--force" = false :=
    Bool.eq_false_iff.mpr fun hkey => hforce (longFlags_init.mem_of_parse (ok_of_usage ha) hkey)
  refine (keeps_unlessHelp a).bind_writesDefaults fun _ q _ _ => ?_
  refine (keeps_usage _).bind_writesDefaults fun _ q _ _ => ?_
  refine keeps_get.bind_writesDefaults fun _ q hget _ => ?_
  cases hget
  refine (keeps_faultless _).bind_writesDefaults fun place r hpath hr => ?_
  refine (keeps_faultless _).bind_writesDefaults fun found s hfound hs => ?_
  -- the path and what is found there are those of the home in which the work goes on
  replace hpath := ok_of_faultless hpath
  replace hfound := ok_of_faultless hfound
  rw [← hr, ← hs] at hpath hfound
  rw [hunforced, Bool.not_false, Bool.and_true]
  cases found with
  | true => exact (keeps_print _).writesDefaults s
  | false =>
    obtain ⟨e, hcases, hhome⟩ := home_saveSettings ⟨hpath, hfound⟩
    rw [WritesDefaults, if_neg (by decide), home_bind_of_keeps fun saved => keeps_print _, hhome]
    exact Or.inr ⟨place, e, hcases, rfl⟩

/-- Where no file for settings is found, the defaults are written. -/
theorem home_configInit_nil (h : p.home.FirstWrite place e) :
    ((configInit []).run p).2.home = { p.home with disk := e } := by
  have hparse : Arguments.parse [{ names := ["--force"] }, helpOption] true [] = .ok {} := rfl
  have hhelp : (unlessHelp {}).run p = (.ok (), p) := rfl
  have hmost : Arguments.atMost 0 {} = .ok () := rfl
  rw [configInit, hparse]
  simp only [run_bind, run_usage_ok, hhelp, hmost, run_get, h.path, h.unfound, run_faultless_ok, Bool.false_and,
    Bool.false_eq_true, if_false]
  obtain ⟨f, hcases, hhome⟩ := home_saveSettings h.toUnfound
  rw [← run_bind, home_bind_of_keeps fun saved => keeps_print _, hhome]
  rcases hcases with hwrite | hfailure
  · cases h.written.symm.trans hwrite.written
    rfl
  · obtain ⟨error, hfailed⟩ := hfailure.failed
    cases h.written.symm.trans hfailed

/-- The arguments of `config` ask for the defaults, and not by force. -/
def InitsUnforced (arguments : List String) : Prop :=
  ∃ a later, Arguments.parse [helpOption] false arguments = .ok a ∧ a.others = "init" :: later ∧ "--force" ∉ later

theorem keeps_readOptions (arguments : List String) : Keeps (config.readOptions arguments) :=
  (keeps_usage _).bind fun a => (keeps_unlessHelp a).bind fun _ => keeps_pure a

theorem ok_of_readOptions {arguments : List String} {a : Arguments} {q : Progress}
    (h : (config.readOptions arguments).run p = (.ok a, q)) : Arguments.parse [helpOption] false arguments = .ok a := by
  obtain ⟨b, r, hparse, h⟩ := exists_of_run_bind h
  obtain ⟨-, s, -, h⟩ := exists_of_run_bind h
  cases h
  exact ok_of_usage hparse

theorem writesDefaults_config {arguments : List String} (h : InitsUnforced arguments) (p : Progress) :
    WritesDefaults (config arguments) p := by
  obtain ⟨a, later, hparse, hothers, hforce⟩ := h
  rw [config]
  refine (keeps_readOptions arguments).bind_writesDefaults fun b q hread _ => ?_
  cases hparse.symm.trans (ok_of_readOptions hread)
  rw [hothers]
  exact writesDefaults_configInit hforce q

end Commands

namespace Program

open Work Settings.Home

variable {inv : Invocation} {p : Progress} {settings : Settings} {place : Path} {e : Disk}

/-- The command line asks for the defaults to be written, and not by force. -/
def AsksForDefaults (arguments : List String) : Prop :=
  ∃ own rest, Arguments.parse options false arguments = .ok own ∧ own.others = "config" :: rest ∧
    Commands.InitsUnforced rest

/-- What is done for `config`, for which neither ids nor the time count. -/
def configWork (arguments rest : List String) : Work Unit := do
  let own ← readOptions arguments
  let settings ← loadSettings
  configureReports settings (own.hasOption "--verbose")
  Commands.config rest

theorem run_work_config (source : Source) {own : Arguments} {rest : List String}
    (hparse : Arguments.parse options false inv.arguments = .ok own) (hothers : own.others = "config" :: rest)
    (p : Progress) : (work source inv).run p = (configWork inv.arguments rest).run p := by
  have hfind (q : Progress) : (findCommand "config" rest).run q = (.ok .config, q) := rfl
  rw [work, plan, configWork]
  simp only [run_bind]
  cases hread : (readOptions inv.arguments).run p with
  | mk result q =>
    cases result with
    | error ending => rfl
    | ok a =>
      cases hparse.symm.trans (ok_of_readOptions hread)
      simp only [hothers, run_bind, hfind]
      cases loadSettings.run q with
      | mk result r =>
        cases result with
        | error ending => rfl
        | ok settings =>
          dsimp only
          rcases (configureReports settings (own.hasOption "--verbose")).run r with ⟨ending | ⟨⟩, s⟩
          · rfl
          · rfl

theorem writesDefaults_configWork (arguments : List String) {rest : List String}
    (h : Commands.InitsUnforced rest) (p : Progress) : WritesDefaults (configWork arguments rest) p := by
  rw [configWork]
  refine (keeps_readOptions arguments).bind_writesDefaults fun own q _ _ => ?_
  refine keeps_loadSettings.bind_writesDefaults fun settings q _ _ => ?_
  refine (keeps_configureReports settings _).bind_writesDefaults fun _ q _ _ => ?_
  exact Commands.writesDefaults_config h q

/-- Either the disk is left as it is, or the defaults are written where no file for settings is found, or that is
given up. -/
theorem disk_run (source : Source) (h : AsksForDefaults inv.arguments) : (run source inv).disk = inv.home.disk ∨
    (∃ place, inv.home.FirstWrite place (run source inv).disk) ∨
      ∃ place, inv.home.FirstFailure place (run source inv).disk := by
  obtain ⟨own, rest, hparse, hothers, hinits⟩ := h
  have hrun : (run source inv).disk = ((configWork inv.arguments rest).run { home := inv.home }).2.home.disk :=
    congrArg (fun result => result.2.home.disk) (run_work_config source hparse hothers _)
  rcases writesDefaults_configWork inv.arguments hinits { home := inv.home } with hend | ⟨place, e, hcases, hend⟩
  · exact Or.inl (hrun.trans (by rw [hend]))
  · rw [hrun, hend]
    exact Or.inr (hcases.imp (fun hwrite => ⟨place, hwrite⟩) fun hfailure => ⟨place, hfailure⟩)

/-- Neither ids nor the time count for what is left on the disk. -/
theorem disk_run_eq (source other : Source) (h : AsksForDefaults inv.arguments) :
    (run source inv).disk = (run other inv).disk := by
  obtain ⟨own, rest, hparse, hothers, -⟩ := h
  have hsame : (work source inv).run { home := inv.home } = (work other inv).run { home := inv.home } :=
    (run_work_config source hparse hothers _).trans (run_work_config other hparse hothers _).symm
  exact congrArg (fun result => result.2.home.disk) hsame

/-- A second run leaves what the first one left: where the defaults were written something is found now, and where
that was given up it is given up again. -/
theorem disk_run_again (source : Source) (h : AsksForDefaults inv.arguments) (later : Source) :
    (run later { inv with home := { inv.home with disk := (run source inv).disk } }).disk = (run source inv).disk := by
  let again : Invocation := { inv with home := { inv.home with disk := (run source inv).disk } }
  have hasks : AsksForDefaults again.arguments := h
  rcases disk_run source h with hsame | ⟨p, hwrite⟩ | ⟨p, hfailure⟩
  · rw [hsame, disk_run_eq later source h, hsame]
  · rcases disk_run later hasks with hsame | ⟨q, hagain⟩ | ⟨q, hagain⟩
    · exact hsame
    · exact absurd hagain.toUnfound (hwrite.found_afterwards q)
    · exact absurd hagain.toUnfound (hwrite.found_afterwards q)
  · rcases disk_run later hasks with hsame | ⟨q, hagain⟩ | ⟨q, hagain⟩
    · exact hsame
    · exact (hfailure.failure_afterwards hagain.toUnfound).disk_unique (Or.inl hagain)
    · exact (hfailure.failure_afterwards hagain.toUnfound).disk_unique (Or.inr hagain)

/-- A file is left as it is unless the defaults are written. -/
theorem file?_run (source : Source) (h : AsksForDefaults inv.arguments) (place : Place) :
    (run source inv).disk.file? place = inv.home.disk.file? place ∨
      ∃ p, inv.home.FirstWrite p (run source inv).disk := by
  rcases disk_run source h with hsame | hwrite | ⟨p, hfailure⟩
  · exact Or.inl (congrArg (fun d => d.file? place) hsame)
  · exact Or.inr hwrite
  · exact Or.inl (hfailure.file?_eq place)

theorem disk_run_of_firstWrite (source : Source) (h : Reaches inv settings .config ["init"])
    (hwrite : inv.home.FirstWrite place e) : (run source inv).disk = e := by
  obtain ⟨errors, form, hplan⟩ := run_plan source h
  have hread : (Commands.config.readOptions ["init"]).run { errors, form, home := inv.home } =
      (.ok { others := ["init"] }, { errors, form, home := inv.home }) := rfl
  have hinit : (Commands.config ["init"]).run { errors, form, home := inv.home } =
      (Commands.configInit []).run { errors, form, home := inv.home } := by
    rw [Commands.config, run_bind, hread]
    rfl
  have hrun : ((work source inv).run { home := inv.home }).2.home =
      ((Commands.config ["init"]).run { errors, form, home := inv.home }).2.home := by
    rw [work, run_bind, hplan]
    rfl
  have hhome : ((work source inv).run { home := inv.home }).2.home = { inv.home with disk := e } := by
    rw [hrun, hinit]
    exact Commands.home_configInit_nil hwrite
  exact congrArg (fun home => home.disk) hhome

/-- Without force the defaults are written over nothing but what is uncovered on the way, and over that they are.
No other file is made than the one that is written, and a second time nothing is left to do, also where writing has
been given up. -/
theorem defaults_overwrite_iff (source : Source) (inv : Invocation) (h : AsksForDefaults inv.arguments) :
    (∀ place content, inv.home.disk.file? place = some content →
      (run source inv).disk.file? place ≠ some content →
        inv.home.Uncovers place ∧ ∃ directory, inv.home.directory = .ok directory ∧ ".." ∈ directory.names) ∧
    (∀ place, inv.home.disk.file? place = none → (run source inv).disk.file? place ≠ none →
      (run source inv).disk.file? place = some defaultContent ∧ ∃ directory, inv.home.directory = .ok directory ∧
        (run source inv).disk.resolve (directory.child "config.json").text = .ok place) ∧
    (∀ later, (run later { inv with home := { inv.home with disk := (run source inv).disk } }).disk =
      (run source inv).disk) ∧
    ∀ settings, Reaches inv settings .config ["init"] →
      ∀ place content, inv.home.disk.file? place = some content →
        ((run source inv).disk.file? place ≠ some content ↔ inv.home.Uncovers place ∧ content ≠ defaultContent) := by
  refine ⟨?_, ?_, disk_run_again source h, ?_⟩
  · intro place content hfile hchanged
    rcases file?_run source h place with hsame | ⟨p, hwrite⟩
    · exact absurd (hsame.trans hfile) hchanged
    · have huncovers := ((hwrite.changes_iff hfile).mp hchanged).1
      exact ⟨huncovers, huncovers.two_points (hfile ▸ rfl)⟩
  · intro place hnone hmade
    rcases file?_run source h place with hsame | ⟨p, hwrite⟩
    · exact absurd (hsame.trans hnone) hmade
    · exact hwrite.file?_of_made hnone hmade
  · intro settings hreaches place content hfile
    constructor
    · intro hchanged
      rcases file?_run source h place with hsame | ⟨p, hwrite⟩
      · exact absurd (hsame.trans hfile) hchanged
      · exact (hwrite.changes_iff hfile).mp hchanged
    · rintro ⟨huncovers, hother⟩
      have ⟨p, e, hwrite, _⟩ := huncovers
      rw [disk_run_of_firstWrite source hreaches hwrite]
      exact (hwrite.changes_iff hfile).mpr ⟨huncovers, hother⟩

/-- A file for settings and where it is. -/
def ownSettings : Place × Content :=
  (["home", "user", ".gitsim", "config.json"], .text "\x7b\"prompt\": \x7b\"user\": \"ada\"\x7d\x7d")

/-- A call in a home that has this file, and is named by way of a directory which is missing. -/
def detour : Invocation where
  arguments := ["config", "init"]
  home := { disk := { files := [ownSettings] }, environment := [("HOME", "/home/user/missing/..")] }

theorem ownSettings_ne_defaults : ownSettings.2 ≠ defaultContent := by
  decide +kernel

theorem asksForDefaults_detour : AsksForDefaults detour.arguments :=
  ⟨{ others := detour.arguments }, ["init"], by decide +kernel, rfl, { others := ["init"] }, [], by decide +kernel, rfl,
    nofun⟩

theorem firstWrite_detour : ∃ p e, detour.home.FirstWrite p e ∧ e.resolve p.text = .ok ownSettings.1 := by
  let p : Path := ⟨"/", ["home", "user", "missing", "..", ".gitsim", "config.json"]⟩
  have hresolve : ((detour.home.disk.write p defaultContent).map fun e => e.resolve p.text).mapError (·.error) =
      .ok (.ok ownSettings.1) := by
    decide +kernel
  cases hwrite : detour.home.disk.write p defaultContent with
  | error cause =>
    rw [hwrite] at hresolve
    cases hresolve
  | ok e =>
    rw [hwrite] at hresolve
    exact ⟨p, e, ⟨⟨by decide +kernel, by decide +kernel⟩, hwrite⟩, Except.ok.inj hresolve⟩

theorem load_detour : detour.home.load.2 = .ok (Settings.defaults : Settings) := by
  obtain ⟨p, e, hwrite, -⟩ := firstWrite_detour
  rw [Settings.Home.load, Settings.Home.loadFile, hwrite.path]
  dsimp only
  rw [hwrite.unfound]
  rfl

theorem reaches_detour : Reaches detour Settings.defaults .config ["init"] where
  read := ⟨{ others := detour.arguments }, "config", by decide +kernel, rfl, rfl, rfl, rfl⟩
  loaded := load_detour
  reports := ⟨Settings.Level.warning.rank, rfl⟩

theorem defaults_overwrite_of_detour :
    AsksForDefaults detour.arguments ∧ Reaches detour Settings.defaults .config ["init"] ∧
      detour.home.disk.file? ownSettings.1 = some ownSettings.2 ∧
      (run .sample detour).disk.file? ownSettings.1 ≠ some ownSettings.2 := by
  obtain ⟨p, e, hwrite, hplace⟩ := firstWrite_detour
  have huncovers : detour.home.Uncovers ownSettings.1 := ⟨p, e, hwrite, hplace, by decide⟩
  have hfile : detour.home.disk.file? ownSettings.1 = some ownSettings.2 := by decide
  exact ⟨asksForDefaults_detour, reaches_detour, hfile,
    ((defaults_overwrite_iff .sample detour asksForDefaults_detour).2.2.2 _ reaches_detour _ _ hfile).mpr
      ⟨huncovers, ownSettings_ne_defaults⟩⟩

/-- Settings that are there all the time are lost. -/
theorem ownSettings_lost_on_detour : AsksForDefaults detour.arguments ∧
    detour.home.disk.file? ownSettings.1 = some ownSettings.2 ∧
      (run .sample detour).disk.file? ownSettings.1 = some defaultContent ∧ defaultContent ≠ ownSettings.2 := by
  obtain ⟨p, e, hwrite, hplace⟩ := firstWrite_detour
  refine ⟨asksForDefaults_detour, by decide, ?_, ownSettings_ne_defaults.symm⟩
  rw [disk_run_of_firstWrite .sample reaches_detour hwrite]
  exact hwrite.file?_self hplace (by decide)

end Program
end GitPractice
