import GitPractice.Proofs.FileTexts
import GitPractice.Proofs.Layers
import GitPractice.Proofs.Loading
import GitPractice.Proofs.Writing
import Mathlib

/-!
# Saving settings

Settings that are saved are in effect: they are what is loaded on top of the defaults
(`Settings.Home.load_of_save`). That takes three things. The file has been written, which
is only reported when it fails. It keeps what is written to it. And the file that is
looked for the second time is the one that was found the first time, which can go wrong
in three ways (`Settings.Home.Bypassed`).
-/

namespace GitPractice
namespace Settings

/-! ## The first that is found -/

section

variable {α : Type} {f : α → Except Fault Bool} {a : α}

theorem findM?_of_first (before rest : List α) (hbefore : ∀ x ∈ before, f x = .ok false) (ha : f a = .ok true) :
    (before ++ a :: rest).findM? f = .ok (some a) := by
  induction before with
  | nil =>
    rw [List.nil_append, List.findM?, ha]
    rfl
  | cons x before ih =>
    rw [List.forall_mem_cons] at hbefore
    rw [List.cons_append, List.findM?, hbefore.1]
    exact ih hbefore.2

theorem findM?_eq_none_iff {l : List α} : l.findM? f = .ok none ↔ ∀ x ∈ l, f x = .ok false := by
  induction l with
  | nil => exact iff_of_true rfl nofun
  | cons x l ih =>
    rw [List.forall_mem_cons, List.findM?]
    cases hx : f x with
    | error fault => exact iff_of_false nofun fun h => nomatch h.1
    | ok found =>
      cases found with
      | true => exact iff_of_false nofun fun h => nomatch h.1
      | false => exact ih.trans (iff_and_self.mpr fun _ => rfl)

theorem first_of_findM? {l : List α} (h : l.findM? f = .ok (some a)) :
    ∃ before rest, l = before ++ a :: rest ∧ (∀ x ∈ before, f x = .ok false) ∧ f a = .ok true := by
  induction l with
  | nil => cases h
  | cons x l ih =>
    obtain ⟨found, hx, h⟩ := exists_of_bind_ok h
    cases found with
    | true =>
      cases h
      exact ⟨[], l, rfl, nofun, hx⟩
    | false =>
      obtain ⟨before, rest, rfl, hbefore, ha⟩ := ih h
      exact ⟨x :: before, rest, rfl, List.forall_mem_cons.mpr ⟨hx, hbefore⟩, ha⟩

theorem mem_of_findM? {l : List α} (h : l.findM? f = .ok (some a)) : a ∈ l := by
  obtain ⟨before, rest, hlist, -, -⟩ := first_of_findM? h
  rw [hlist]
  exact List.mem_append_right before List.mem_cons_self

end

namespace Home

variable {home : Home} {fields : Fields} {saved : Saved} {p q directory : Path} {name : String} {content : Content}

/-! ## The file in effect -/

theorem isFound_iff : home.isFound p = .ok true ↔ ∃ place, home.disk.resolve p.text = .ok place := by
  rw [isFound, Disk.isFound]
  split
  next place hplace => exact iff_of_true rfl ⟨place, hplace⟩
  next hlong =>
    rw [hlong]
    constructor
    · intro h
      cases h
    · rintro ⟨place, hplace⟩
      cases hplace
  next cause hcause =>
    rw [hcause]
    constructor
    · intro h
      cases h
    · rintro ⟨place, hplace⟩
      cases hplace

theorem namedFile_of_set {text : String} (htext : home.valueOf? fileVariable = some text) (hne : text ≠ "") :
    home.namedFile = (home.isFound (.ofText text)).map fun found => if found then some (.ofText text) else none := by
  rw [namedFile, htext]
  split
  next hnone => cases hnone
  next hempty => exact absurd (Option.some_inj.mp hempty) hne
  next other _ hother =>
    obtain rfl : text = other := Option.some_inj.mp hother
    rfl

theorem namedFile_iff : home.namedFile = .ok (some p) ↔
    ∃ text, home.valueOf? fileVariable = some text ∧ text ≠ "" ∧ p = .ofText text ∧ home.isFound p = .ok true := by
  constructor
  · intro h
    cases htext : home.valueOf? fileVariable with
    | none =>
      rw [namedFile, htext] at h
      cases h
    | some text =>
      by_cases hempty : text = ""
      · rw [namedFile, htext, hempty] at h
        cases h
      · rw [namedFile_of_set htext hempty] at h
        cases hfound : home.isFound (.ofText text) with
        | error fault =>
          rw [hfound] at h
          cases h
        | ok found =>
          rw [hfound] at h
          cases found with
          | false => cases h
          | true =>
            cases h
            exact ⟨text, rfl, hempty, rfl, hfound⟩
  · rintro ⟨text, htext, hne, rfl, hfound⟩
    rw [namedFile_of_set htext hne, hfound]
    rfl

theorem tidy_of_namedFile (h : home.namedFile = .ok (some p)) : p.Tidy := by
  obtain ⟨text, -, -, rfl, -⟩ := namedFile_iff.mp h
  exact Path.tidy_ofText text

theorem tidy_directory (h : home.directory = .ok directory) : directory.Tidy := by
  have hentry : Path.IsName ".gitsim" := ⟨by decide, by decide, by decide⟩
  rw [Home.directory] at h
  split at h
  next text _ =>
    cases hstart : pathOfHome text with
    | error fault =>
      rw [hstart] at h
      cases h
    | ok start =>
      rw [hstart] at h
      rw [← Except.ok.inj h]
      refine Path.Tidy.child ?_ hentry
      rw [pathOfHome] at hstart
      split at hstart
      · rw [← Except.ok.inj hstart]
        exact Path.tidy_ofText _
      · cases hstart
      · rw [← Except.ok.inj hstart]
        exact Path.tidy_ofText _
  · cases h

theorem path_of_named (h : home.namedFile = .ok (some p)) : home.path = .ok p := by
  rw [path, h]
  rfl

theorem path_of_unnamed (h : home.namedFile = .ok none) (hdirectory : home.directory = .ok directory) :
    home.path = ((fileNames.map directory.child).findM? home.isFilled).map fun found =>
      found.getD (directory.child "config.json") := by
  rw [path, h, hdirectory]
  simp only [bind, Except.bind]
  cases (fileNames.map directory.child).findM? home.isFilled <;> rfl

theorem path_cases (h : home.path = .ok p) : home.namedFile = .ok (some p) ∨
    home.namedFile = .ok none ∧ ∃ directory found, home.directory = .ok directory ∧
      (fileNames.map directory.child).findM? home.isFilled = .ok found ∧
        p = found.getD (directory.child "config.json") := by
  obtain ⟨named, hnamed, h⟩ := exists_of_bind_ok h
  cases named with
  | some q =>
    cases h
    exact Or.inl hnamed
  | none =>
    obtain ⟨directory, hdirectory, h⟩ := exists_of_bind_ok h
    obtain ⟨found, hfound, h⟩ := exists_of_bind_ok h
    exact Or.inr ⟨hnamed, directory, found, hdirectory, hfound, (Except.ok.inj h).symm⟩

theorem isEntry_of_mem_fileNames (h : name ∈ fileNames) : Path.IsEntry name := by
  simp only [fileNames, List.mem_cons, List.not_mem_nil, or_false] at h
  rcases h with rfl | rfl | rfl | rfl <;> exact ⟨⟨by decide, by decide, by decide⟩, by decide⟩

/-- The file in effect is named, or is one of those in the directory for settings. -/
theorem tidy_path (h : home.path = .ok p) : p.Tidy := by
  rcases path_cases h with hnamed | ⟨-, directory, found, hdirectory, hfound, rfl⟩
  · exact tidy_of_namedFile hnamed
  · have htidy := tidy_directory hdirectory
    cases found with
    | none => exact htidy.child (isEntry_of_mem_fileNames (by decide)).toIsName
    | some q =>
      obtain ⟨name, hname, rfl⟩ := List.mem_map.mp (mem_of_findM? hfound)
      exact htidy.child (isEntry_of_mem_fileNames hname).toIsName

/-! ## What saving does -/

/-- Where settings are saved that are to be in effect at a path. -/
def destination (p : Path) : Path := if formatOf p = .toml then p.withEnding ".json" else p

theorem tidy_destination (h : p.Tidy) : (destination p).Tidy := by
  rw [destination]
  split
  next htoml =>
    obtain ⟨name, other, -, hother, -, -, heq⟩ := beside_of_toml h htoml
    rw [heq]
    exact h.parent.child hother.toIsName
  next => exact h

/-- The home after saving. -/
def after (home : Home) (saved : Saved) : Home := { home with disk := saved.disk }

/-- What saving leaves once the file in effect is known. -/
theorem save_of_path (hpath : home.path = .ok p) (fields : Fields) : ∃ reports : List Report, home.save fields =
    match home.disk.write (destination p) (.text (fileText (formatOf (destination p)) fields)) with
    | .ok disk => .ok { disk, reports := reports ++ [.saved (destination p)], path := destination p }
    | .error unfinished =>
      .ok { disk := unfinished.disk, reports := reports ++ [.unwritable (destination p) unfinished.error]
            path := destination p } := by
  have hpair : ∃ reports, (if formatOf p = .toml then ([Report.savingAsJson], p.withEnding ".json") else ([], p)) =
      (reports, destination p) := by
    rw [destination]
    split
    · exact ⟨_, rfl⟩
    · exact ⟨_, rfl⟩
  obtain ⟨reports, hpair⟩ := hpair
  refine ⟨reports, ?_⟩
  rw [save, hpath]
  simp only [bind, Except.bind, hpair]
  rfl

/-- Either the file is written, or writing it is given up; which of them is reported. -/
theorem save_cases (h : home.save fields = .ok saved) : ∃ p, home.path = .ok p ∧ saved.path = destination p ∧
    (home.disk.write saved.path (.text (fileText (formatOf saved.path) fields)) = .ok saved.disk ∧
        .saved saved.path ∈ saved.reports ∨
      ∃ unfinished, home.disk.write saved.path (.text (fileText (formatOf saved.path) fields)) = .error unfinished ∧
        saved.disk = unfinished.disk ∧ .unwritable saved.path unfinished.error ∈ saved.reports) := by
  obtain ⟨p, hpath, -⟩ := exists_of_bind_ok h
  obtain ⟨reports, hsave⟩ := save_of_path hpath fields
  rw [hsave] at h
  refine ⟨p, hpath, ?_⟩
  split at h
  next disk hdisk =>
    have hsaved := Except.ok.inj h
    subst hsaved
    dsimp only
    exact ⟨rfl, Or.inl ⟨hdisk, List.mem_append_right reports List.mem_cons_self⟩⟩
  next unfinished hunfinished =>
    have hsaved := Except.ok.inj h
    subst hsaved
    dsimp only
    exact ⟨rfl, Or.inr ⟨unfinished, hunfinished, rfl, List.mem_append_right reports List.mem_cons_self⟩⟩

/-! ## The file in effect afterwards -/

theorem isFilled_of_read (h : home.disk.read p.text = .ok content) :
    home.isFilled p = .ok (decide (2 < content.size)) := by
  rw [isFilled, isFound_of_read h, h]
  rfl

theorem isFound_of_isFilled (h : home.isFilled p = .ok true) : home.isFound p = .ok true := by
  obtain ⟨found, hfound, h⟩ := exists_of_bind_ok h
  have hboth : (found && (home.disk.read p.text).toOption.all (2 < ·.size)) = true := Except.ok.inj h
  rw [hfound, (Bool.and_eq_true_iff.mp hboth).1]

theorem namedFile_after (hextends : home.disk.Extends saved.disk) (h : home.namedFile = .ok (some p)) :
    (home.after saved).namedFile = .ok (some p) := by
  obtain ⟨text, htext, hne, rfl, hfound⟩ := namedFile_iff.mp h
  obtain ⟨place, hplace⟩ := isFound_iff.mp hfound
  have hafter : (home.after saved).isFound (.ofText text) = .ok true :=
    isFound_iff.mpr ⟨place, hextends.resolve hplace⟩
  exact namedFile_iff.mpr ⟨text, htext, hne, rfl, hafter⟩

/-- Why a file that has been written may not be in effect. -/
inductive Bypassed (home : Home) (fields : Fields) (saved : Saved) : Prop
  /-- The variable names a file in TOML. It is still in effect, and not the one that was saved beside it. -/
  | toml {p : Path} (named : home.namedFile = .ok (some p)) (ending : formatOf p = .toml)
  /-- The variable names something that was not there before directories were made. -/
  | surfaced (unnamed : home.namedFile = .ok none) (named : (home.after saved).namedFile ≠ .ok none)
    (other : (home.after saved).namedFile ≠ .ok (some saved.path))
  /-- The empty record in JSON does not count as filled, and there is another file that does. -/
  | empty {directory : Path} {name : String} (unnamed : (home.after saved).namedFile = .ok none) (nothing : fields = [])
    (json : formatOf saved.path = .json) (place : home.directory = .ok directory) (later : name ∈ fileNames.tail)
    (filled : (home.after saved).isFilled (directory.child name) = .ok true)

theorem destination_json (directory : Path) :
    destination (directory.child "config.json") = directory.child "config.json" := by
  rw [destination, formatOf_child, if_neg (by decide +kernel)]

theorem destination_toml (directory : Path) :
    destination (directory.child "config.toml") = directory.child "config.json" := by
  have hname : String.ofList ("config.toml".toList.take
      ("config.toml".toList.length - (Path.endingOf "config.toml".toList).length)) ++ ".json" = "config.json" := by
    decide +kernel
  rw [destination, formatOf_child, if_pos (by decide +kernel), Path.withEnding, Path.lastName_child, hname, Path.child,
    List.dropLast_concat]
  rfl

theorem destination_yaml (h : formatOf p = .yaml) : destination p = p := by
  rw [destination, h, if_neg (by decide)]

theorem directory_of_found (hp : p.Tidy) (hname : Path.IsName name) (h : home.isFound (p.child name) = .ok true) :
    ∃ above, home.disk.resolve p.text = .ok above ∧ home.disk.isDirectory above = true := by
  obtain ⟨place, hplace⟩ := isFound_iff.mp h
  rw [Disk.resolve_child hp hname (Disk.size_of_resolve hplace)] at hplace
  cases habove : home.disk.resolve p.text with
  | error cause =>
    rw [habove] at hplace
    cases hplace
  | ok above =>
    rw [habove] at hplace
    have hstep := (Disk.enter_eq_ok_iff.mp hplace).1
    exact ⟨above, rfl, Disk.directory_of_isThere (Disk.isThere_of_resolve habove) (Disk.file?_of_step hstep)⟩

/-- Where one of the files is, one can tell whether the others are there. -/
theorem exists_isFilled (hdirectory : home.directory = .ok directory) (hname : name ∈ fileNames)
    (h : home.isFound (directory.child "config.json") = .ok true) :
    ∃ filled, home.isFilled (directory.child name) = .ok filled := by
  have htidy := tidy_directory hdirectory
  have hentry := isEntry_of_mem_fileNames hname
  have hjson := isEntry_of_mem_fileNames (show "config.json" ∈ fileNames by decide)
  have hsizes : ∀ other ∈ fileNames, other.utf8ByteSize ≤ "config.json".utf8ByteSize := by decide
  have hshort := hsizes name hname
  obtain ⟨above, habove, -⟩ := directory_of_found htidy hjson.toIsName h
  obtain ⟨place, hplace⟩ := isFound_iff.mp h
  have hsize := Nat.le_trans (Path.size_child_le htidy hentry.toIsName hjson.toIsName hshort)
    (Disk.size_of_resolve hplace)
  have hfound : ∃ found, home.isFound (directory.child name) = .ok found := by
    have hlong : home.disk.enter above name ≠ .error .nameTooLong :=
      Disk.enter_ne_nameTooLong (Nat.le_trans hshort (by decide))
    rw [isFound, Disk.isFound, Disk.resolve_child htidy hentry.toIsName hsize, habove]
    simp only [Except.bind]
    split
    next => exact ⟨true, rfl⟩
    next hcause => exact absurd hcause hlong
    next => exact ⟨false, rfl⟩
  obtain ⟨found, hfound⟩ := hfound
  rw [isFilled, hfound]
  exact ⟨_, rfl⟩

/-- The other files of the directory are filled or not, as before. -/
theorem isFilled_beside {above : Place} {entry : String} (hp : p.Tidy) (hentry : Path.IsEntry entry)
    (hne : entry ≠ name) (habove : home.disk.resolve p.text = .ok above)
    (hplace : home.disk.isDirectory (above ++ [name]) = false)
    (hdisk : saved.disk = home.disk.put (above ++ [name]) content) :
    (home.after saved).isFilled (p.child entry) = home.isFilled (p.child entry) := by
  have hfound : (home.after saved).isFound (p.child entry) = home.isFound (p.child entry) := by
    rw [isFound, isFound, ← Disk.isFound_beside hp hentry hne habove hplace content, ← hdisk]
    rfl
  have hread : (home.after saved).disk.read (p.child entry).text = home.disk.read (p.child entry).text := by
    rw [← Disk.read_beside hp hentry hne habove hplace content, ← hdisk]
    rfl
  rw [isFilled, isFilled, hfound, hread]

section

variable (hunnamed : (home.after saved).namedFile = .ok none) (hdirectory : home.directory = .ok directory)
include hunnamed hdirectory

theorem path_of_json (hfilled : (home.after saved).isFilled (directory.child "config.json") = .ok true) :
    (home.after saved).path = .ok (directory.child "config.json") := by
  have hfirst : (fileNames.map directory.child).findM? (home.after saved).isFilled =
      .ok (some (directory.child "config.json")) :=
    findM?_of_first [] _ nofun hfilled
  rw [path_of_unnamed hunnamed hdirectory, hfirst]
  rfl

theorem path_of_empty (hempty : ∀ name ∈ fileNames, (home.after saved).isFilled (directory.child name) = .ok false) :
    (home.after saved).path = .ok (directory.child "config.json") := by
  have hnone : (fileNames.map directory.child).findM? (home.after saved).isFilled = .ok none :=
    findM?_eq_none_iff.mpr (List.forall_mem_map.mpr hempty)
  rw [path_of_unnamed hunnamed hdirectory, hnone]
  rfl

/-- To write the file that was found first changes nothing for the names before it. -/
theorem path_of_found (hfound : (fileNames.map directory.child).findM? home.isFilled = .ok (some p))
    (hwrite : home.disk.write p content = .ok saved.disk) (hfilled : (home.after saved).isFilled p = .ok true) :
    (home.after saved).path = .ok p := by
  obtain ⟨before, rest, hlist, hbefore, htrue⟩ := first_of_findM? hfound
  obtain ⟨names, others, hnames, rfl, hothers⟩ := List.map_eq_append_iff.mp hlist
  obtain ⟨name, last, rfl, rfl, rfl⟩ := List.map_eq_cons_iff.mp hothers
  have hname : name ∈ fileNames := by
    rw [hnames]
    exact List.mem_append_right names List.mem_cons_self
  have htidy := tidy_directory hdirectory
  obtain ⟨above, habove, hplace⟩ := directory_of_found htidy (isEntry_of_mem_fileNames hname).toIsName
    (isFound_of_isFilled htrue)
  obtain ⟨hdisk, hnew⟩ := Disk.write_beside htidy (isEntry_of_mem_fileNames hname) habove hplace hwrite
  have hunfilled : ∀ q ∈ names.map directory.child, (home.after saved).isFilled q = .ok false := by
    refine List.forall_mem_map.mpr fun entry hentry => ?_
    have hmem : entry ∈ fileNames := by
      rw [hnames]
      exact List.mem_append_left _ hentry
    have hne : entry ≠ name := by
      have hnodup : (names ++ name :: last).Nodup := hnames ▸ (by decide)
      exact (List.nodup_append.mp hnodup).2.2 entry hentry name List.mem_cons_self
    rw [isFilled_beside htidy (isEntry_of_mem_fileNames hmem) hne habove hnew hdisk]
    exact hbefore _ (List.mem_map_of_mem hentry)
  have hfirst : (fileNames.map directory.child).findM? (home.after saved).isFilled =
      .ok (some (directory.child name)) := by
    rw [hlist]
    exact findM?_of_first _ _ hunfilled hfilled
  rw [path_of_unnamed hunnamed hdirectory, hfirst]
  rfl

end

/-- The file of the first name is in effect after it has been written, also if it counts as empty and so
do the others. -/
theorem path_of_written_json (hunnamed : (home.after saved).namedFile = .ok none)
    (hdirectory : home.directory = .ok directory) (hplace : saved.path = directory.child "config.json")
    (hread : (home.after saved).disk.read saved.path.text = .ok (.text (fileText (formatOf saved.path) fields)))
    (hseen : ¬ Bypassed home fields saved) : (home.after saved).path = .ok saved.path := by
  have hjson : formatOf saved.path = .json := by
    rw [hplace, formatOf_child]
    decide +kernel
  have hfilled := isFilled_of_read hread
  rw [hjson] at hread hfilled
  by_cases hnothing : fields = []
  · rw [hnothing, size_of_empty (by decide), hplace] at hfilled
    have hfound : (home.after saved).isFound (directory.child "config.json") = .ok true := by
      rw [← hplace]
      exact isFound_of_read hread
    rw [hplace]
    refine path_of_empty hunnamed hdirectory fun name hname => ?_
    have hdirectory' : (home.after saved).directory = .ok directory := hdirectory
    obtain ⟨filled, hname'⟩ := exists_isFilled hdirectory' hname hfound
    cases filled with
    | false => exact hname'
    | true =>
      rcases List.mem_cons.mp hname with rfl | hlater
      · exact hfilled
      · exact absurd (.empty hunnamed hnothing hjson hdirectory hlater hname') hseen
  · rw [decide_eq_true (two_lt_size (Or.inr hnothing)), hplace] at hfilled
    rw [hplace]
    exact path_of_json hunnamed hdirectory hfilled

theorem not_bypassed_of_path (hpath : home.path = .ok p) (hplace : saved.path = destination p)
    (hextends : home.disk.Extends saved.disk)
    (hread : (home.after saved).disk.read saved.path.text = .ok (.text (fileText (formatOf saved.path) fields)))
    (h : (home.after saved).path = .ok saved.path) : ¬ Bypassed home fields saved := by
  rintro (⟨hnamed, htoml⟩ | ⟨-, hnamed, hother⟩ | ⟨hunnamed, hnothing, hjson, hdirectory, hlater, hfilled⟩)
  · -- the file that is named has another name than the one beside it
    rw [path_of_named hnamed] at hpath
    rw [path_of_named (namedFile_after hextends hnamed), hplace, ← Except.ok.inj hpath, destination,
      if_pos htoml] at h
    obtain ⟨name, other, -, -, hne, heq, hdestination⟩ := beside_of_toml (tidy_of_namedFile hnamed) htoml
    have hsame := Except.ok.inj h
    rw [hdestination, heq, Path.parent_child] at hsame
    exact hne (Path.child_inj hsame)
  · rcases path_cases h with hthis | ⟨hnone, -⟩
    · exact hother hthis
    · exact hnamed hnone
  · -- a file that counts as empty is not the first that is filled, and there is one that is
    rw [hnothing, hjson] at hread
    have hempty := isFilled_of_read hread
    rw [size_of_empty (by decide)] at hempty
    rcases path_cases h with hthis | ⟨-, other, found, hother, hfound, hthis⟩
    · rw [hunnamed] at hthis
      cases hthis
    · obtain rfl : _ = other := Except.ok.inj (hdirectory.symm.trans hother)
      cases found with
      | none =>
        have hnone := findM?_eq_none_iff.mp hfound _ (List.mem_map_of_mem (List.mem_of_mem_tail hlater))
        rw [hfilled] at hnone
        cases hnone
      | some q =>
        obtain ⟨-, -, -, -, htrue⟩ := first_of_findM? hfound
        rw [show q = saved.path from hthis.symm, hempty] at htrue
        cases htrue

/-- A file that has been written is in effect, unless it is bypassed. -/
theorem path_of_save (hpath : home.path = .ok p) (hplace : saved.path = destination p)
    (hwrite : home.disk.write saved.path (.text (fileText (formatOf saved.path) fields)) = .ok saved.disk)
    (hkept : ∀ place ∈ home.disk.sinks, saved.disk.resolve saved.path.text ≠ .ok place)
    (hseen : ¬ Bypassed home fields saved) : (home.after saved).path = .ok saved.path := by
  have htidy : saved.path.Tidy := by
    rw [hplace]
    exact tidy_destination (tidy_path hpath)
  have hextends := (Disk.resolve_of_write htidy hwrite).1
  have hread : (home.after saved).disk.read saved.path.text = .ok (.text (fileText (formatOf saved.path) fields)) :=
    Disk.read_of_write htidy hwrite hkept
  have hfilled := isFilled_of_read hread
  rcases path_cases hpath with hnamed | ⟨hunnamed, directory, found, hdirectory, hfound, hp⟩
  · have hother : formatOf p ≠ .toml := fun htoml => hseen (.toml hnamed htoml)
    rw [hplace, destination, if_neg hother]
    exact path_of_named (namedFile_after hextends hnamed)
  · by_cases hnamed : (home.after saved).namedFile = .ok (some saved.path)
    · exact path_of_named hnamed
    · have hstill : (home.after saved).namedFile = .ok none :=
        Classical.not_not.mp fun hnone => hseen (.surfaced hunnamed hnone hnamed)
      cases found with
      | none =>
        have hjson : saved.path = directory.child "config.json" := by
          rw [hplace, hp]
          exact destination_json directory
        exact path_of_written_json hstill hdirectory hjson hread hseen
      | some q =>
        obtain rfl : p = q := hp
        have hyaml (hformat : formatOf p = .yaml) : (home.after saved).path = .ok saved.path := by
          have hsame : saved.path = p := hplace.trans (destination_yaml hformat)
          rw [hsame, hformat, decide_eq_true (two_lt_size (Or.inl rfl))] at hfilled
          rw [hsame] at hwrite ⊢
          exact path_of_found hstill hdirectory hfound hwrite hfilled
        have hjson (hdestination : destination p = directory.child "config.json") :
            (home.after saved).path = .ok saved.path :=
          path_of_written_json hstill hdirectory (hplace.trans hdestination) hread hseen
        obtain ⟨name, hname, rfl⟩ := List.mem_map.mp (mem_of_findM? hfound)
        simp only [fileNames, List.mem_cons, List.not_mem_nil, or_false] at hname
        rcases hname with rfl | rfl | rfl | rfl
        · exact hjson (destination_json directory)
        · exact hjson (destination_toml directory)
        · exact hyaml ((formatOf_child directory _).trans (by decide +kernel))
        · exact hyaml ((formatOf_child directory _).trans (by decide +kernel))

/-! ## What is loaded afterwards -/

/-- What is written is read back, up to the order of entries. -/
def ReadsBack (format : Format) (fields : Fields) : Prop :=
  ∃ read : Fields, readContent format (.text (fileText format fields)) = .ok { value := .record read } ∧
    Value.IsTree (.record read) ∧ Value.Alike (.record read) (.record fields)

/-- If writing is given up, saving reports that, and all that it leaves are directories that were made on the way: no
file has changed. Otherwise it reports that the settings were saved. If their file keeps them, it is in effect then
exactly if it is not bypassed, and they are loaded from it on top of the defaults. -/
theorem load_of_save (hnone : ∀ v ∈ home.environment, isOverride v = false) (hfields : Value.IsTree (.record fields))
    (h : home.save fields = .ok saved) (hback : ReadsBack (formatOf saved.path) fields) :
    (∃ unfinished more,
        home.disk.write saved.path (.text (fileText (formatOf saved.path) fields)) = .error unfinished ∧
          .unwritable saved.path unfinished.error ∈ saved.reports ∧
            saved.disk = { home.disk with directories := home.disk.directories ++ more }) ∨
      .saved saved.path ∈ saved.reports ∧
        ((∀ place ∈ home.disk.sinks, saved.disk.resolve saved.path.text ≠ .ok place) →
          ((home.after saved).path = .ok saved.path ↔ ¬ Bypassed home fields saved) ∧
            (¬ Bypassed home fields saved → ∃ s, (home.after saved).load = ([], .ok s) ∧
              Value.Alike s.toValue (.record (merge defaults fields)))) := by
  obtain ⟨p, hpath, hplace, ⟨hwrite, hsaved⟩ | hunwritten⟩ := save_cases h
  · refine Or.inr ⟨hsaved, fun hkept => ?_⟩
    have htidy : saved.path.Tidy := by
      rw [hplace]
      exact tidy_destination (tidy_path hpath)
    have hextends := (Disk.resolve_of_write htidy hwrite).1
    have hkeeps := Disk.read_of_write htidy hwrite hkept
    have heffect := path_of_save hpath hplace hwrite hkept
    refine ⟨⟨not_bypassed_of_path hpath hplace hextends hkeeps, heffect⟩, fun hseen => ?_⟩
    obtain ⟨read, hread, htree, halike⟩ := hback
    have hnone' : ∀ v ∈ (home.after saved).environment, isOverride v = false := hnone
    have hload := load_of_record hnone' (heffect hseen) hkeeps hread rfl
    exact ⟨_, hload, alike_ofLayers halike htree hfields defaults⟩
  · obtain ⟨unfinished, hwrite, hdisk, hreported⟩ := hunwritten
    obtain ⟨more, hmore⟩ := Disk.exists_withDirectories_of_write hwrite
    exact Or.inl ⟨unfinished, more, hwrite, hreported, hdisk.trans hmore⟩

def userNamed (name : String) : Fields := [("prompt", .record [("user", .text name)])]

/-- A home with certain files, in which no variable is set but the one for its place. -/
def homeWith (files : List (Place × Content)) : Home :=
  { disk := { files }, environment := [("HOME", "/home/user")] }

/-- Where a file for settings lies in such a home. -/
def settingsFile (name : String) : Path := ⟨"/", ["home", "user", ".gitsim", name]⟩

theorem isTree_userNamed (name : String) : Value.IsTree (.record (userNamed name)) := by
  refine .record (List.pairwise_singleton _ _) fun entry hentry => ?_
  rw [List.mem_singleton.mp hentry]
  refine .record (List.pairwise_singleton _ _) fun setting hsetting => ?_
  rw [List.mem_singleton.mp hsetting]
  exact .atom _

theorem readsBack_userNamed : ReadsBack .json (userNamed "grace") := by
  have htext : fileText .json (userNamed "grace") =
      "\x7b\n  \"prompt\": \x7b\n    \"user\": \"grace\"\n  \x7d\n\x7d" := by
    decide +kernel
  have hlines : (Content.text (fileText .json (userNamed "grace"))).lines? = some
      "\x7b\n  \"prompt\": \x7b\n    \"user\": \"grace\"\n  \x7d\n\x7d" := by
    decide +kernel
  have hshallow : (Json.deepBracket? depthLimit false [] []
      "\x7b\n  \"prompt\": \x7b\n    \"user\": \"grace\"\n  \x7d\n\x7d".toList).isNone = true := by
    decide +kernel
  have hparse : Json.parse? "\x7b\n  \"prompt\": \x7b\n    \"user\": \"grace\"\n  \x7d\n\x7d" =
      some (.record (userNamed "grace")) := by
    cbv
  refine ⟨userNamed "grace", ?_, isTree_userNamed "grace", .refl _⟩
  rw [readContent_json hlines, readJson_of_shallow (Option.isNone_iff_eq_none.mp hshallow) hparse]
  rfl

/-- Saving for the first time makes the directory for settings. -/
theorem load_of_first_save : ∃ saved s, (homeWith []).save (userNamed "grace") = .ok saved ∧
    ((homeWith []).after saved).load = ([], .ok s) ∧
      Value.Alike s.toValue (.record (merge defaults (userNamed "grace"))) := by
  have hpath : (homeWith []).path = .ok (settingsFile "config.json") := by
    decide +kernel
  have hplace : destination (settingsFile "config.json") = settingsFile "config.json" := by
    decide +kernel
  have hformat : formatOf (settingsFile "config.json") = .json := by
    decide +kernel
  have hwrite (content : Content) :
      (homeWith []).disk.write (settingsFile "config.json") content = .ok
        { files := [(["home", "user", ".gitsim", "config.json"], content)],
          directories := [["home"], ["home", "user"], ["home", "user", ".gitsim"]] } := by
    cbv
  obtain ⟨reports, hsave⟩ := save_of_path hpath (userNamed "grace")
  rw [hplace, hwrite] at hsave
  rcases load_of_save (by decide) (isTree_userNamed "grace") hsave (hformat ▸ readsBack_userNamed) with
    ⟨unfinished, more, -, -, hdisk⟩ | ⟨-, heffect⟩
  · cases congrArg Disk.files hdisk
  · obtain ⟨s, hload, halike⟩ := (heffect (List.forall_mem_nil _)).2 (by
      rintro (⟨hnamed, -⟩ | ⟨-, hnamed, -⟩ | ⟨-, hnothing, -⟩)
      · cases hnamed
      · exact hnamed rfl
      · cases hnothing)
    exact ⟨_, s, hsave, hload, halike⟩

/-- A file is in the place of the directory for settings. -/
def blockedHome : Home := homeWith [(["home", "user", ".gitsim"], .text "")]

/-- The settings are in TOML. -/
def tomlHome : Home :=
  homeWith [(["home", "user", ".gitsim", "config.toml"], .text "[prompt]\nuser = 'ada'\n")]

/-- The same with the empty record in JSON beside it. -/
def emptiedHome : Home :=
  homeWith [(["home", "user", ".gitsim", "config.toml"], .text "[prompt]\nuser = 'ada'\n"),
    (["home", "user", ".gitsim", "config.json"], .text "\x7b\x7d")]

/-- Nothing is saved where a file is in the place of the directory, which is only reported. -/
theorem load_of_unwritten : ∃ saved, blockedHome.save (userNamed "grace") = .ok saved ∧
    (blockedHome.after saved).load = ([], .ok defaults) := by
  have hpath : blockedHome.path = .ok (settingsFile "config.json") := by
    decide +kernel
  have hplace : destination (settingsFile "config.json") = settingsFile "config.json" := by
    decide +kernel
  have hwrite : ((blockedHome.disk.write (settingsFile "config.json") (.text (fileText (formatOf
      (settingsFile "config.json")) (userNamed "grace")))).map fun _ => ()).mapError (fun u => u.disk.directories) =
        .error [] := by
    decide +kernel
  have hload : blockedHome.load = ([], .ok defaults) := by
    rfl
  obtain ⟨reports, hsave⟩ := save_of_path hpath (userNamed "grace")
  rw [hplace] at hsave
  split at hsave
  next disk hdisk =>
    rw [hdisk] at hwrite
    cases hwrite
  next unfinished hunfinished =>
    rw [hunfinished] at hwrite
    obtain ⟨more, hmore⟩ := Disk.exists_withDirectories_of_write hunfinished
    have hnothing : blockedHome.disk.directories ++ more = [] :=
      (congrArg Disk.directories hmore).symm.trans (Except.error.inj hwrite)
    obtain rfl : more = [] := (List.append_eq_nil_iff.mp hnothing).2
    rw [Disk.withDirectories_nil] at hmore
    rw [hmore] at hsave
    exact ⟨_, hsave, hload⟩

/-- An empty record in JSON does not take the place of a file in TOML. -/
theorem load_of_emptied : ∃ saved, tomlHome.save [] = .ok saved ∧
    (tomlHome.after saved).load = ([], .ok (ofLayers defaults (userNamed "ada") #[])) := by
  have hpath : tomlHome.path = .ok (settingsFile "config.toml") := by
    decide +kernel
  have hplace : destination (settingsFile "config.toml") = settingsFile "config.json" := by
    decide +kernel
  have hformat : formatOf (settingsFile "config.json") = .json := by
    decide +kernel
  have htext : fileText .json [] = "\x7b\x7d" := by
    decide +kernel
  have hwrite : tomlHome.disk.write (settingsFile "config.json") (.text "\x7b\x7d") = .ok emptiedHome.disk := by
    cbv
  have hafter : emptiedHome.path = .ok (settingsFile "config.toml") := by
    decide +kernel
  have hread : emptiedHome.disk.read (settingsFile "config.toml").text = .ok (.text "[prompt]\nuser = 'ada'\n") := by
    decide +kernel
  have hcontent : readContent (formatOf (settingsFile "config.toml")) (.text "[prompt]\nuser = 'ada'\n") =
      .ok { value := .record (userNamed "ada") } := by
    cbv
  have hload := load_of_record (by decide) hafter hread hcontent rfl
  obtain ⟨reports, hsave⟩ := save_of_path hpath []
  rw [hplace, hformat, htext, hwrite] at hsave
  exact ⟨_, hsave, hload⟩

theorem setting?_of_lost_savings :
    (∃ saved s, blockedHome.save (userNamed "grace") = .ok saved ∧
      (blockedHome.after saved).load = ([], .ok s) ∧
        s.setting? "prompt" "user" = some (.text "user") ∧
        setting? (merge defaults (userNamed "grace")) "prompt" "user" = some (.text "grace")) ∧
    ∃ saved s, tomlHome.save [] = .ok saved ∧
      (tomlHome.after saved).load = ([], .ok s) ∧
        s.setting? "prompt" "user" = some (.text "ada") ∧
        setting? (merge defaults []) "prompt" "user" = some (.text "user") := by
  obtain ⟨first, hfirst, hload⟩ := load_of_unwritten
  obtain ⟨second, hsecond, hload'⟩ := load_of_emptied
  have hada : (ofLayers defaults (userNamed "ada") #[]).setting? "prompt" "user" = some (.text "ada") := by
    rw [ofLayers, openFor_of_whole]
    rfl
  exact ⟨⟨first, defaults, hfirst, hload, rfl, rfl⟩, second, _, hsecond, hload', hada, rfl⟩

/-- While the variable names a file in TOML, saving changes nothing that is loaded. -/
theorem load_of_named_toml (hnamed : home.namedFile = .ok (some p)) (htoml : formatOf p = .toml)
    (h : home.save fields = .ok saved) : (home.after saved).load = home.load := by
  obtain ⟨q, hpath, hplace, hcases⟩ := save_cases h
  have htidy := tidy_of_namedFile hnamed
  obtain rfl : p = q := Except.ok.inj ((path_of_named hnamed).symm.trans hpath)
  obtain ⟨name, other, hname, hother, hne, heq, hdestination⟩ := beside_of_toml htidy htoml
  have hfound : home.isFound (p.parent.child name) = .ok true := by
    obtain ⟨text, -, -, -, hfound⟩ := namedFile_iff.mp hnamed
    rwa [← heq]
  obtain ⟨above, habove, hdirectory⟩ := directory_of_found htidy.parent hname.toIsName hfound
  have hbeside : saved.path = p.parent.child other := by
    rw [hplace, destination, if_pos htoml, hdestination]
  rcases hcases with ⟨hwrite, -⟩ | ⟨unfinished, hwrite, hdisk, -⟩
  · have hextends : home.disk.Extends saved.disk := by
      refine (Disk.resolve_of_write ?_ hwrite).1
      rw [hplace]
      exact tidy_destination htidy
    rw [hbeside] at hwrite
    obtain ⟨hdisk, hnew⟩ := Disk.write_beside htidy.parent hother habove hdirectory hwrite
    have hread : (home.after saved).disk.read p.text = home.disk.read p.text := by
      have hbeside := Disk.read_beside htidy.parent hname hne habove hnew
      rw [heq]
      exact (congrArg (fun d : Disk => d.read (p.parent.child name).text) hdisk).trans (hbeside _)
    have hfile : (home.after saved).readFile p = home.readFile p := by
      rw [readFile, readFile, hread]
    have hnamed' := namedFile_after hextends hnamed
    have hfound' : (home.after saved).isFound p = .ok true := by
      obtain ⟨text, -, -, -, hfound'⟩ := namedFile_iff.mp hnamed'
      exact hfound'
    have hloaded : (home.after saved).loadFile = home.loadFile := by
      rw [loadFile_of_found (path_of_named hnamed') hfound', loadFile_of_found hpath (heq ▸ hfound), hfile]
    rw [load, load, hloaded]
    rfl
  · rw [hbeside] at hwrite
    rw [after, hdisk, Disk.disk_of_error_beside htidy.parent habove hdirectory hwrite]

end Home
end Settings
end GitPractice
