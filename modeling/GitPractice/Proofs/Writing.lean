import GitPractice.Proofs.Paths

/-!
# Writing files

What is there stays there when directories are made and a file is written, and
what a path leads to does not change by that (`Disk.Extends.resolve`). So a path that
is written to leads to the file afterwards, whatever had to be made on the way to it
(`Disk.resolve_of_write`). Of the other files only those come to be reached that
were missing a directory. Writing that is given up leaves directories and nothing
else, and it comes no further the next time (`Disk.write_again`).
-/

namespace GitPractice
namespace Disk

variable {d e f : Disk} {place next other : Place} {name : String} {p : Path} {content : Content}

/-! ## Following names -/

theorem isThere_iff : d.isThere place = true ↔ (d.file? place).isSome = true ∨ d.isDirectory place = true := by
  rw [isThere, Bool.or_eq_true]

theorem isDirectory_root (d : Disk) : d.isDirectory [] = true := rfl

theorem isDirectory_current (d : Disk) : d.isDirectory d.current = true := by
  simp [isDirectory]

/-- Only a directory can be left for a name in it. -/
theorem file?_of_step (h : d.step place name = .ok next) : d.file? place = none := by
  rw [step] at h
  split at h
  · cases h
  next hnone => exact Option.not_isSome_iff_eq_none.mp hnone

theorem step_back (h : d.file? place = none) : d.step place ".." = .ok place.dropLast := by
  rw [step, h]
  rfl

theorem step_entry (hname : Path.IsEntry name) (h : d.step place name = .ok next) : next = place ++ [name] := by
  have hblank : ¬ (name = "" ∨ name = ".") := by
    rintro (rfl | rfl)
    · exact hname.ne_nil rfl
    · exact hname.ne_point rfl
  rw [step, file?_of_step h, if_neg (by decide), if_neg hblank, if_neg hname.ne_parent] at h
  split at h
  · cases h
  · cases h
    rfl

theorem directory_of_isThere (h : d.isThere place = true) (hnone : d.file? place = none) :
    d.isDirectory place = true := by
  rcases isThere_iff.mp h with hfile | hdirectory
  · rw [hnone] at hfile
    cases hfile
  · exact hdirectory

theorem enter_eq_ok_iff : d.enter place name = .ok next ↔ d.step place name = .ok next ∧ d.isThere next = true := by
  rw [enter]
  cases hstep : d.step place name with
  | error cause => exact iff_of_false nofun fun h => nomatch h.1
  | ok found =>
    show (if d.isThere found = true then (.ok found : Except PathError Place) else .error .missing) = .ok next ↔ _
    split
    next hthere =>
      refine ⟨fun h => ⟨h, ?_⟩, fun h => h.1⟩
      cases h
      exact hthere
    next hthere =>
      refine iff_of_false nofun fun h => hthere ?_
      cases h.1
      exact h.2

/-- An empty name and a single point lead nowhere else. -/
theorem enter_of_blank (h : d.isDirectory place = true) (hname : name = "" ∨ name = ".") :
    d.enter place name = if (d.file? place).isSome then .error .notADirectory else .ok place := by
  have hthere : d.isThere place = true := isThere_iff.mpr (Or.inr h)
  rw [enter, step]
  split
  · rfl
  · show (if d.isThere place = true then (.ok place : Except PathError Place) else .error .missing) = _
    rw [if_pos hthere]

/-- To enter a name after one of these is to enter the name. -/
theorem enter_bind_of_blank (h : d.isDirectory place = true) {blank : String} (hblank : blank = "" ∨ blank = ".")
    (name : String) : ((d.enter place blank).bind fun q => d.enter q name) = d.enter place name := by
  rw [enter_of_blank h hblank]
  split
  next hfile =>
    rw [enter, step, if_pos hfile]
    rfl
  next => rfl

theorem resolve_eq {path : String} (hne : path ≠ "") (hsize : path.utf8ByteSize ≤ pathLimit) :
    d.resolve path = (Path.splitSlashes path.toList).foldlM (fun place name => d.enter place (String.ofList name))
      (if Text.startsWith path "/" then [] else d.current) := by
  rw [resolve, if_neg hne, if_neg (Nat.not_lt.mpr hsize)]

theorem size_of_resolve {path : String} (h : d.resolve path = .ok place) : path.utf8ByteSize ≤ pathLimit := by
  rw [resolve] at h
  split at h
  · cases h
  · split at h
    · cases h
    next hsize => exact Nat.not_lt.mp hsize

/-- A name that is not too long can be looked for wherever one can get. -/
theorem enter_ne_nameTooLong (hsize : name.utf8ByteSize ≤ nameLimit) :
    d.enter place name ≠ .error .nameTooLong := by
  have hstep : d.step place name ≠ .error .nameTooLong := by
    rw [step, if_neg (Nat.not_lt.mpr hsize)]
    split
    · nofun
    · split
      · nofun
      · split <;> nofun
  intro h
  rw [enter] at h
  cases hs : d.step place name with
  | error cause =>
    rw [hs] at h
    cases h
    exact hstep hs
  | ok next =>
    rw [hs] at h
    simp only [bind, Except.bind] at h
    split at h <;> cases h

theorem startsWith_iff {path : String} : Text.startsWith path "/" = true ↔ path.toList.head? = some '/' := by
  show ['/'].isPrefixOf path.toList = true ↔ _
  cases path.toList with
  | nil => exact iff_of_false nofun nofun
  | cons c cs =>
    rw [List.isPrefixOf_cons_cons, Bool.and_eq_true, beq_iff_eq, List.head?_cons, Option.some_inj]
    exact ⟨fun h => h.1.symm, fun h => ⟨h.symm, rfl⟩⟩

theorem resolve_of_slash {path : String} (h : path.toList.head? = some '/') (hsize : path.utf8ByteSize ≤ pathLimit) :
    d.resolve path =
      (Path.splitSlashes path.toList).foldlM (fun place name => d.enter place (String.ofList name)) [] := by
  have hne : path ≠ "" := by
    rintro rfl
    cases h
  rw [resolve_eq hne hsize, if_pos (startsWith_iff.mpr h)]

theorem enter_root (d : Disk) : d.enter [] "" = .ok [] ∨ ∃ cause, d.enter [] "" = .error cause := by
  rw [enter_of_blank (isDirectory_root d) (Or.inl rfl)]
  split
  · exact Or.inr ⟨_, rfl⟩
  · exact Or.inl rfl

theorem enter_root_twice (d : Disk) : ((d.enter [] "").bind fun q => d.enter q "") = d.enter [] "" :=
  enter_bind_of_blank (isDirectory_root d) (Or.inl rfl) ""

theorem resolve_of_nil (hp : p.Tidy) (hnil : p.names = []) :
    d.resolve p.text = if p.root = "" then d.enter d.current "." else d.enter [] "" := by
  obtain ⟨root, names⟩ := p
  cases hnil
  rcases hp.root with rfl | rfl | rfl
  · rw [resolve_eq (by decide) (by decide)]
    exact bind_pure _
  · rw [resolve_of_slash rfl (by decide)]
    refine Eq.trans ?_ (enter_root_twice d)
    show List.foldlM _ [] [[], []] = _
    simp only [List.foldlM_cons, List.foldlM_nil, bind_pure]
    rfl
  · rw [resolve_of_slash rfl (by decide)]
    show List.foldlM _ [] [[], [], []] = d.enter [] ""
    simp only [List.foldlM_cons, List.foldlM_nil, bind_pure, String.ofList_nil]
    rcases enter_root d with h | ⟨cause, h⟩
    · simp only [h, bind, Except.bind]
    · simp only [h, bind, Except.bind]

theorem resolve_child_of_nil (hp : p.Tidy) (hname : Path.IsName name) (hnil : p.names = [])
    (hsize : (p.child name).text.utf8ByteSize ≤ pathLimit) :
    d.resolve (p.child name).text = (d.resolve p.text).bind fun place => d.enter place name := by
  have hlast : Path.splitSlashes name.toList = [name.toList] := Path.splitSlashes_of_no_slash hname.no_slash
  have hslash (cs : List Char) : Path.splitSlashes ('/' :: cs) = [] :: Path.splitSlashes cs :=
    Path.splitSlashes_append [] cs
  rw [resolve_of_nil hp hnil]
  rw [Path.text_child_of_nil hp hname hnil] at hsize ⊢
  obtain ⟨root, names⟩ := p
  cases hnil
  rcases hp.root with rfl | rfl | rfl
  · have hrelative : Text.startsWith name "/" = false := by
      rw [Bool.eq_false_iff, Ne, startsWith_iff]
      exact fun h => hname.no_slash (List.mem_of_mem_head? h)
    have hne : name ≠ "" := fun h => hname.ne_nil (String.toList_eq_nil_iff.mpr h)
    rw [String.empty_append] at hsize ⊢
    rw [resolve_eq hne hsize, hrelative, hlast, if_pos rfl, enter_bind_of_blank (isDirectory_current d) (Or.inr rfl)]
    simp only [List.foldlM_cons, List.foldlM_nil, bind_pure, String.ofList_toList]
    rfl
  · have hlist : ("/" ++ name).toList = '/' :: name.toList := String.toList_append
    rw [resolve_of_slash (by rw [hlist]; rfl) hsize, hlist, hslash, hlast]
    simp only [List.foldlM_cons, List.foldlM_nil, bind_pure, String.ofList_nil, String.ofList_toList]
    rfl
  · have hlist : ("//" ++ name).toList = '/' :: '/' :: name.toList := String.toList_append
    rw [resolve_of_slash (by rw [hlist]; rfl) hsize, hlist, hslash, hslash, hlast, if_neg (by decide)]
    simp only [List.foldlM_cons, List.foldlM_nil, bind_pure, String.ofList_nil, String.ofList_toList]
    rcases enter_root d with h | ⟨cause, h⟩
    · simp only [h, bind, Except.bind]
    · simp only [h, bind, Except.bind]

/-- The text of a child is followed by following that of the parent and then entering the name. -/
theorem resolve_child (hp : p.Tidy) (hname : Path.IsName name)
    (hsize : (p.child name).text.utf8ByteSize ≤ pathLimit) :
    d.resolve (p.child name).text = (d.resolve p.text).bind fun place => d.enter place name := by
  by_cases hnil : p.names = []
  · exact resolve_child_of_nil hp hname hnil hsize
  · have htext := Path.text_child hp hname hnil
    have hne : p.text ≠ "" := Path.text_ne_empty p
    have hchild : (p.child name).text ≠ "" := Path.text_ne_empty _
    have hlast : Path.splitSlashes name.toList = [name.toList] := Path.splitSlashes_of_no_slash hname.no_slash
    have hlist : (p.child name).text.toList = p.text.toList ++ '/' :: name.toList := by
      rw [htext, String.toList_append, String.toList_append, List.append_assoc]
      rfl
    have hstart : Text.startsWith (p.child name).text "/" = Text.startsWith p.text "/" := by
      rw [Bool.eq_iff_iff, startsWith_iff, startsWith_iff, hlist,
        List.head?_append_of_ne_nil _ fun h => hne (String.toList_eq_nil_iff.mp h)]
    have hparent : p.text.utf8ByteSize ≤ pathLimit := by
      rw [htext, String.utf8ByteSize_append, String.utf8ByteSize_append] at hsize
      omega
    rw [resolve_eq hchild hsize, hlist, Path.splitSlashes_append, hlast, hstart, List.foldlM_append,
      resolve_eq hne hparent]
    simp only [List.foldlM_cons, List.foldlM_nil, bind_pure, String.ofList_toList]
    rfl

/-! ## What is there stays there -/

/-- Files and directories of one disk are files and directories of the other one. -/
structure Extends (d e : Disk) : Prop where
  current : e.current = d.current
  sinks : e.sinks = d.sinks
  isDirectory : ∀ place, d.isDirectory place = true → e.isDirectory place = true
  isFile : ∀ place, (d.file? place).isSome = true → (e.file? place).isSome = true
  noFile : ∀ place, d.isDirectory place = true → d.file? place = none → e.file? place = none

theorem step_congr (h : e.file? place = d.file? place) : e.step place name = d.step place name := by
  rw [step, step, h]

namespace Extends

theorem refl (d : Disk) : d.Extends d where
  current := rfl
  sinks := rfl
  isDirectory := fun _ h => h
  isFile := fun _ h => h
  noFile := fun _ _ h => h

theorem trans (h : d.Extends e) (h' : e.Extends f) : d.Extends f where
  current := h'.current.trans h.current
  sinks := h'.sinks.trans h.sinks
  isDirectory := fun place hd => h'.isDirectory place (h.isDirectory place hd)
  isFile := fun place hf => h'.isFile place (h.isFile place hf)
  noFile := fun place hd hn => h'.noFile place (h.isDirectory place hd) (h.noFile place hd hn)

variable (h : d.Extends e)
include h

theorem isThere (hthere : d.isThere place = true) : e.isThere place = true :=
  isThere_iff.mpr ((isThere_iff.mp hthere).imp (h.isFile place) (h.isDirectory place))

theorem enter (hthere : d.isThere place = true) (henter : d.enter place name = .ok next) :
    e.enter place name = .ok next := by
  obtain ⟨hstep, hnext⟩ := enter_eq_ok_iff.mp henter
  have hd : d.file? place = none := file?_of_step hstep
  have he : e.file? place = none := h.noFile place (directory_of_isThere hthere hd) hd
  exact enter_eq_ok_iff.mpr ⟨(step_congr (he.trans hd.symm)).trans hstep, h.isThere hnext⟩

theorem follow {names : List (List Char)} (hthere : d.isThere place = true)
    (hok : names.foldlM (fun place name => d.enter place (String.ofList name)) place = .ok next) :
    names.foldlM (fun place name => e.enter place (String.ofList name)) place = .ok next ∧
      d.isThere next = true := by
  -- what is reached by each of the names is there, so that one can go on from it on the other disk
  induction names generalizing place with
  | nil =>
    cases hok
    exact ⟨rfl, hthere⟩
  | cons name names ih =>
    rw [List.foldlM_cons] at hok ⊢
    obtain ⟨found, henter, hok⟩ := exists_of_bind_ok hok
    rw [h.enter hthere henter]
    exact ih (enter_eq_ok_iff.mp henter).2 hok

theorem resolve_isThere {path : String} (hok : d.resolve path = .ok place) :
    e.resolve path = .ok place ∧ d.isThere place = true := by
  have hsize := size_of_resolve hok
  have hne : path ≠ "" := by
    rintro rfl
    cases hok
  have hstart : d.isDirectory (if Text.startsWith path "/" = true then [] else d.current) = true := by
    split
    · exact isDirectory_root d
    · exact isDirectory_current d
  rw [resolve_eq hne hsize] at hok ⊢
  rw [h.current]
  exact h.follow (isThere_iff.mpr (Or.inr hstart)) hok

theorem resolve {path : String} (hok : d.resolve path = .ok place) : e.resolve path = .ok place :=
  (h.resolve_isThere hok).1

end Extends

theorem isThere_of_resolve {path : String} (h : d.resolve path = .ok place) : d.isThere place = true :=
  ((Extends.refl d).resolve_isThere h).2

/-! ## Making directories -/

/-- The disk with more directories. -/
def withDirectories (d : Disk) (more : List Place) : Disk := { d with directories := d.directories ++ more }

theorem extends_withDirectories (d : Disk) (more : List Place) : d.Extends (d.withDirectories more) := by
  refine ⟨rfl, rfl, fun other hother => ?_, fun _ hfile => hfile, fun _ _ hnone => hnone⟩
  rw [isDirectory, Bool.or_eq_true, Bool.or_eq_true] at hother ⊢
  rw [withDirectories, List.any_append, Bool.or_eq_true]
  exact hother.imp_left fun h => h.imp_right Or.inl

theorem makeDirectory_ok (h : d.makeDirectory p = .ok e) : ∃ place, e = d.withDirectories [place] := by
  obtain ⟨place, -, h⟩ := exists_of_bind_ok h
  have hmade : (if d.isThere place = true then .error .taken
      else (.ok (d.withDirectories [place]) : Except PathError Disk)) = .ok e := h
  split at hmade
  · cases hmade
  · exact ⟨place, (Except.ok.inj hmade).symm⟩

/-- The directory at the first names of the path. -/
def firstNames (p : Path) (n : Nat) : Path := { p with names := p.names.take n }

theorem makeDirectories_ok {n : Nat} (h : d.makeDirectories p n = .ok e) :
    e = d ∧ d.leadsToDirectory (firstNames p n) = true ∨ d.makeDirectory (firstNames p n) = .ok e ∨
      ∃ m f, n = m + 1 ∧ d.makeDirectories p m = .ok f ∧
        (e = f ∧ f.leadsToDirectory (firstNames p n) = true ∨ f.makeDirectory (firstNames p n) = .ok e) := by
  rw [makeDirectories.eq_def] at h
  dsimp only at h
  split at h
  next made hmade =>
    cases h
    exact Or.inr (Or.inl hmade)
  next m hmissing =>
    refine Or.inr (Or.inr ⟨m, ?_⟩)
    split at h
    · cases h
    next f hf =>
      refine ⟨f, rfl, hf, ?_⟩
      split at h
      next made hmade =>
        cases h
        exact Or.inr hmade
      · cases h
      · split at h
        next hleads =>
          cases h
          exact Or.inl ⟨rfl, hleads⟩
        · cases h
  · split at h
    next hleads =>
      cases h
      exact Or.inl ⟨rfl, hleads⟩
    · cases h

/-- Making directories that is given up has come to an end at one of the directories on the way. -/
theorem makeDirectories_error {n : Nat} {u : Unfinished} (h : d.makeDirectories p n = .error u) :
    u.disk = d ∨ ∃ m, n = m + 1 ∧ (d.makeDirectories p m = .error u ∨
      d.makeDirectories p m = .ok u.disk ∧ ∃ cause, u.disk.makeDirectory (firstNames p n) = .error cause ∧
        (cause ≠ .missing → u.disk.leadsToDirectory (firstNames p n) = false)) := by
  rw [makeDirectories.eq_def] at h
  dsimp only at h
  split at h
  · cases h
  next m hmissing =>
    refine Or.inr ⟨m, rfl, ?_⟩
    split at h
    next v hv =>
      cases h
      exact Or.inl hv
    next f hf =>
      split at h
      · cases h
      next hmade =>
        cases h
        exact Or.inr ⟨hf, _, hmade, fun hne => absurd rfl hne⟩
      next cause _ hmade =>
        split at h
        · cases h
        next hleads =>
          cases h
          exact Or.inr ⟨hf, cause, hmade, fun _ => Bool.eq_false_iff.mpr hleads⟩
  · split at h
    · cases h
    · cases h
      exact Or.inl rfl

theorem withDirectories_nil (d : Disk) : d.withDirectories [] = d := by
  rw [withDirectories, List.append_nil]

theorem withDirectories_append (d : Disk) (more others : List Place) :
    d.withDirectories (more ++ others) = (d.withDirectories more).withDirectories others := by
  rw [withDirectories, withDirectories, withDirectories, List.append_assoc]

/-- Making directories changes nothing else. -/
theorem exists_withDirectories {n : Nat} (h : d.makeDirectories p n = .ok e) : ∃ more, e = d.withDirectories more := by
  induction n generalizing e with
  | zero =>
    rcases makeDirectories_ok h with ⟨rfl, -⟩ | hmade | ⟨m, f, hm, -⟩
    · exact ⟨[], (withDirectories_nil e).symm⟩
    · obtain ⟨place, rfl⟩ := makeDirectory_ok hmade
      exact ⟨[place], rfl⟩
    · cases hm
  | succ n ih =>
    rcases makeDirectories_ok h with ⟨rfl, -⟩ | hmade | ⟨m, f, hm, hf, hlast⟩
    · exact ⟨[], (withDirectories_nil e).symm⟩
    · obtain ⟨place, rfl⟩ := makeDirectory_ok hmade
      exact ⟨[place], rfl⟩
    · cases hm
      obtain ⟨more, rfl⟩ := ih hf
      rcases hlast with ⟨rfl, -⟩ | hmade
      · exact ⟨more, rfl⟩
      · obtain ⟨place, rfl⟩ := makeDirectory_ok hmade
        exact ⟨more ++ [place], (withDirectories_append d more [place]).symm⟩

/-- Nor does it when it is given up. -/
theorem exists_withDirectories_of_error {n : Nat} {u : Unfinished} (h : d.makeDirectories p n = .error u) :
    ∃ more, u.disk = d.withDirectories more := by
  induction n with
  | zero =>
    rcases makeDirectories_error h with hsame | ⟨m, hm, -⟩
    · exact ⟨[], hsame.trans (withDirectories_nil d).symm⟩
    · cases hm
  | succ n ih =>
    rcases makeDirectories_error h with hsame | ⟨m, hm, hbelow | ⟨hmade, -⟩⟩
    · exact ⟨[], hsame.trans (withDirectories_nil d).symm⟩
    · cases hm
      exact ih hbelow
    · exact exists_withDirectories hmade

theorem extends_of_makeDirectories {n : Nat} (h : d.makeDirectories p n = .ok e) : d.Extends e := by
  obtain ⟨more, rfl⟩ := exists_withDirectories h
  exact extends_withDirectories d more

theorem locate_of_resolve (hp : p.Tidy) (h : d.resolve p.text = .ok place) : d.locate p = .ok place := by
  rw [locate]
  split
  · exact h
  next name hname =>
    have hchild := Path.child_parent hname
    have hsize := size_of_resolve h
    have hisname := hp.names name (List.mem_of_getLast? hname)
    rw [if_neg (Nat.not_lt.mpr hsize)]
    rw [← hchild] at h hsize
    rw [resolve_child hp.parent hisname hsize] at h
    obtain ⟨above, hparent, h⟩ := exists_of_bind_ok h
    rw [hparent]
    exact (enter_eq_ok_iff.mp h).1

/-- Nothing is made where everything is there. -/
theorem makeDirectories_of_directory {n : Nat} (hp : (firstNames p n).Tidy)
    (hok : d.resolve (firstNames p n).text = .ok place) (hplace : d.isDirectory place = true) :
    d.makeDirectories p n = .ok d := by
  have htaken : d.makeDirectory (firstNames p n) = .error .taken := by
    rw [makeDirectory, locate_of_resolve hp hok]
    exact if_pos (isThere_iff.mpr (Or.inr hplace))
  have hleads : d.leadsToDirectory (firstNames p n) = true := by
    rw [leadsToDirectory, hok]
    exact hplace
  rw [makeDirectories.eq_def]
  dsimp only
  split
  next made hmade => cases htaken.symm.trans hmade
  next m hmissing => cases htaken.symm.trans hmissing
  next cause hcause => exact if_pos hleads

theorem leadsToDirectory_iff :
    d.leadsToDirectory p = true ↔ ∃ place, d.resolve p.text = .ok place ∧ d.isDirectory place = true := by
  rw [leadsToDirectory]
  split
  next place hplace => simp [hplace]
  next cause hcause => simp [hcause]

/-- Only in a directory is there a name to go on to. -/
theorem leadsToDirectory_of_step (h : d.resolve p.text = .ok place) (hstep : d.step place name = .ok next) :
    d.leadsToDirectory p = true :=
  leadsToDirectory_iff.mpr ⟨place, h, directory_of_isThere (isThere_of_resolve h) (file?_of_step hstep)⟩

theorem leadsToDirectory_of_child (hp : p.Tidy) (hname : Path.IsName name)
    (h : d.leadsToDirectory (p.child name) = true) : d.leadsToDirectory p = true := by
  obtain ⟨place, hplace, -⟩ := leadsToDirectory_iff.mp h
  rw [resolve_child hp hname (size_of_resolve hplace)] at hplace
  obtain ⟨above, habove, henter⟩ := exists_of_bind_ok hplace
  exact leadsToDirectory_of_step habove (enter_eq_ok_iff.mp henter).1

theorem leadsToDirectory_of_made_child (h : d.makeDirectory (p.child name) = .ok e) :
    d.leadsToDirectory p = true := by
  obtain ⟨place, hplace, -⟩ := exists_of_bind_ok h
  rw [locate, Path.parent_child, Path.child, List.getLast?_concat] at hplace
  dsimp only at hplace
  split at hplace
  · cases hplace
  · obtain ⟨above, habove, hstep⟩ := exists_of_bind_ok hplace
    exact leadsToDirectory_of_step habove hstep

/-- A directory that has been made is there. -/
theorem leadsToDirectory_of_makeDirectory (hp : p.Tidy) (h : d.makeDirectory p = .ok e) :
    e.leadsToDirectory p = true := by
  obtain ⟨place, hplace, h⟩ := exists_of_bind_ok h
  have hmade : (if d.isThere place = true then .error .taken
      else (.ok (d.withDirectories [place]) : Except PathError Disk)) = .ok e := h
  split at hmade
  · cases hmade
  next hnew =>
    cases hmade
    have hdirectory : (d.withDirectories [place]).isDirectory place = true := by
      simp [isDirectory, withDirectories]
    rw [locate] at hplace
    split at hplace
    · exact absurd (isThere_of_resolve hplace) hnew
    next name hlast =>
      split at hplace
      · cases hplace
      next hsize =>
        obtain ⟨above, habove, hstep⟩ := exists_of_bind_ok hplace
        have hchild := Path.child_parent hlast
        have hname := hp.names name (List.mem_of_getLast? hlast)
        have hafter := (extends_withDirectories d [place]).resolve habove
        refine leadsToDirectory_iff.mpr ⟨place, ?_, hdirectory⟩
        rw [← hchild] at hsize ⊢
        rw [resolve_child hp.parent hname (Nat.not_lt.mp hsize), hafter]
        exact enter_eq_ok_iff.mpr ⟨hstep, isThere_iff.mpr (Or.inr hdirectory)⟩

/-! ## Making directories once more -/

section

variable {n : Nat} {u : Unfinished} (hp : p.Tidy)
include hp

theorem tidy_firstNames (n : Nat) : (firstNames p n).Tidy :=
  ⟨hp.root, fun name hname => hp.names name (List.mem_of_mem_take hname)⟩

theorem makeDirectories_of_leadsToDirectory (h : d.leadsToDirectory (firstNames p n) = true) :
    d.makeDirectories p n = .ok d := by
  obtain ⟨place, hok, hplace⟩ := leadsToDirectory_iff.mp h
  exact makeDirectories_of_directory (tidy_firstNames hp n) hok hplace

theorem leadsToDirectory_of_makeDirectories (h : d.makeDirectories p n = .ok e) :
    e.leadsToDirectory (firstNames p n) = true := by
  have htidy := tidy_firstNames hp n
  rcases makeDirectories_ok h with ⟨rfl, hleads⟩ | hmade | ⟨m, f, -, -, ⟨rfl, hleads⟩ | hmade⟩
  · exact hleads
  · exact leadsToDirectory_of_makeDirectory htidy hmade
  · exact hleads
  · exact leadsToDirectory_of_makeDirectory htidy hmade

/-- When all has been made there is nothing left to make. -/
theorem makeDirectories_twice (h : d.makeDirectories p n = .ok e) : e.makeDirectories p n = .ok e :=
  makeDirectories_of_leadsToDirectory hp (leadsToDirectory_of_makeDirectories hp h)

omit hp in
theorem makeDirectories_of_error {cause : PathError} (hmade : d.makeDirectory (firstNames p (n + 1)) = .error cause)
    (hleads : cause ≠ .missing → d.leadsToDirectory (firstNames p (n + 1)) = false)
    (hbelow : d.makeDirectories p n = .ok d ∨ ∃ u, d.makeDirectories p n = .error u ∧ u.disk = d) :
    ∃ u, d.makeDirectories p (n + 1) = .error u ∧ u.disk = d := by
  rw [firstNames] at hmade hleads
  rw [makeDirectories.eq_def]
  by_cases hcause : cause = .missing
  · subst hcause
    rcases hbelow with hbelow | ⟨u, hbelow, hsame⟩
    · simp only [hmade, hbelow]
      exact ⟨_, rfl, rfl⟩
    · simp only [hmade, hbelow]
      exact ⟨u, rfl, hsame⟩
  · cases cause with
    | missing => exact absurd rfl hcause
    | _ =>
      simp only [hmade, hleads hcause]
      exact ⟨_, rfl, rfl⟩

/-- When it has been given up, it comes no further the next time. -/
theorem makeDirectories_again (hn : n ≤ p.names.length) (h : d.makeDirectories p n = .error u) :
    ∃ v, u.disk.makeDirectories p n = .error v ∧ v.disk = u.disk := by
  induction n with
  | zero =>
    rcases makeDirectories_error h with hsame | ⟨m, hm, -⟩
    · rw [hsame]
      exact ⟨u, h, hsame⟩
    · cases hm
  | succ n ih =>
    rcases makeDirectories_error h with hsame | ⟨m, hm, hbelow | ⟨hbelow, cause, hmade, hleads⟩⟩
    · rw [hsame]
      exact ⟨u, h, hsame⟩
    · -- What is missing on the way is still missing, so nothing can be there or be made below it.
      cases hm
      obtain ⟨v, hagain, hsame⟩ := ih (Nat.le_of_succ_le hn) hbelow
      have hparent : u.disk.leadsToDirectory (firstNames p n) ≠ true := by
        intro hleads
        cases (makeDirectories_of_leadsToDirectory hp hleads).symm.trans hagain
      have hchild : firstNames p (n + 1) = (firstNames p n).child p.names[n] := by
        rw [firstNames, firstNames, Path.child, List.take_succ_eq_append_getElem hn]
      have hname : Path.IsName p.names[n] := hp.names _ (List.getElem_mem hn)
      have hnowhere : u.disk.leadsToDirectory (firstNames p (n + 1)) = false := by
        rw [Bool.eq_false_iff, hchild]
        exact fun hleads => hparent (leadsToDirectory_of_child (tidy_firstNames hp n) hname hleads)
      cases hmade : u.disk.makeDirectory (firstNames p (n + 1)) with
      | ok e =>
        rw [hchild] at hmade
        exact absurd (leadsToDirectory_of_made_child hmade) hparent
      | error cause => exact makeDirectories_of_error hmade (fun _ => hnowhere) (Or.inr ⟨v, hagain, hsame⟩)
    · cases hm
      exact makeDirectories_of_error hmade hleads (Or.inl (makeDirectories_twice hp hbelow))

end

/-! ## Putting a file in its place -/

theorem file?_of_no_sink (h : place ∉ d.sinks) :
    d.file? place = (d.files.find? (·.1 = place)).map (·.2) := by
  rw [file?, if_neg (by rwa [List.contains_iff_mem])]

theorem sinks_put (d : Disk) (place : Place) (content : Content) : (d.put place content).sinks = d.sinks := by
  rw [put]
  split
  · rfl
  · split <;> rfl

theorem current_put (d : Disk) (place : Place) (content : Content) : (d.put place content).current = d.current := by
  rw [put]
  split
  · rfl
  · split <;> rfl

theorem put_of_sink (h : place ∈ d.sinks) (content : Content) : d.put place content = d := by
  rw [put, if_pos (by rwa [List.contains_iff_mem])]

theorem put_of_file (h : place ∉ d.sinks) (hfile : (d.file? place).isSome = true) (content : Content) :
    d.put place content = { d with files := d.files.map fun f => if f.1 = place then (place, content) else f } := by
  rw [put, if_neg (by rwa [List.contains_iff_mem]), if_pos hfile]

theorem put_of_new (h : place ∉ d.sinks) (hfile : d.file? place = none) (content : Content) :
    d.put place content = { d with files := d.files ++ [(place, content)] } := by
  rw [put, if_neg (by rwa [List.contains_iff_mem]), hfile]
  rfl

/-- To replace the content at a place changes nothing in the search for another place. -/
theorem find?_replaced (files : List (Place × Content)) (place other : Place) (content : Content) :
    (files.map fun f => if f.1 = place then (place, content) else f).find? (·.1 = other) =
      (files.find? (·.1 = other)).map fun f => if f.1 = place then (place, content) else f := by
  rw [List.find?_map]
  congr 2
  funext f
  show decide ((if f.1 = place then (place, content) else f).1 = other) = decide (f.1 = other)
  split
  next heq => rw [heq]
  next => rfl

theorem file?_put_self (h : place ∉ d.sinks) (content : Content) :
    (d.put place content).file? place = some content := by
  rw [file?_of_no_sink (by rwa [sinks_put])]
  cases hfile : d.file? place with
  | none =>
    have hsearch := hfile
    rw [file?_of_no_sink h, Option.map_eq_none_iff] at hsearch
    rw [put_of_new h hfile, List.find?_append, hsearch]
    simp
  | some before =>
    have hsearch := hfile
    rw [file?_of_no_sink h, Option.map_eq_some_iff] at hsearch
    obtain ⟨f, hf, -⟩ := hsearch
    have hplace : f.1 = place := by simpa using List.find?_some hf
    rw [put_of_file h (by rw [hfile]; rfl)]
    dsimp only
    rw [find?_replaced, hf, Option.map_some, if_pos hplace]
    rfl

theorem file?_put_of_ne (h : other ≠ place) (content : Content) :
    (d.put place content).file? other = d.file? other := by
  by_cases hsink : place ∈ d.sinks
  · rw [put_of_sink hsink]
  by_cases hother : other ∈ d.sinks
  · rw [file?, file?, sinks_put, if_pos (by rwa [List.contains_iff_mem]), if_pos (by rwa [List.contains_iff_mem])]
  rw [file?_of_no_sink (by rwa [sinks_put]), file?_of_no_sink hother]
  congr 1
  cases hfile : d.file? place with
  | none =>
    rw [put_of_new hsink hfile, List.find?_append, List.find?_singleton, if_neg (by simpa using h.symm), Option.or_none]
  | some before =>
    rw [put_of_file hsink (by rw [hfile]; rfl)]
    show List.find? _ (List.map _ d.files) = _
    rw [find?_replaced]
    cases hf : d.files.find? (·.1 = other) with
    | none => rfl
    | some f =>
      have hplace : f.1 = other := by simpa using List.find?_some hf
      rw [Option.map_some, if_neg (hplace ▸ h)]

/-- A new file makes its place a place below those on the way to it. -/
theorem isDirectory_put (d : Disk) (place other : Place) (content : Content) :
    (d.put place content).isDirectory other = (d.isDirectory other ||
      ((d.file? place).isNone && (other.isPrefixOf place && decide (place ≠ other)))) := by
  by_cases hsink : place ∈ d.sinks
  · have hfile : (d.file? place).isNone = false := by
      rw [file?, if_pos (by rwa [List.contains_iff_mem])]
      rfl
    rw [put_of_sink hsink, hfile, Bool.false_and, Bool.or_false]
  cases hfile : d.file? place with
  | none =>
    rw [put_of_new hsink hfile, isDirectory, isDirectory]
    simp only [List.map_append, List.any_append, List.map_cons, List.map_nil, List.any_cons, List.any_nil,
      Bool.or_false, Option.isNone_none, Bool.true_and]
    ac_rfl
  | some before =>
    rw [put_of_file hsink (by rw [hfile]; rfl), isDirectory, isDirectory, List.map_map]
    have hplaces : (fun f : Place × Content => (if f.1 = place then (place, content) else f).1) = (·.1) := by
      funext f
      split
      next heq => exact heq.symm
      next => rfl
    have hmap : List.map ((·.1) ∘ fun f : Place × Content => if f.1 = place then (place, content) else f) d.files =
        d.files.map (·.1) := congrArg (List.map · d.files) hplaces
    rw [hmap, Option.isNone_some, Bool.false_and, Bool.or_false]

theorem extends_put (h : d.isDirectory place = false) (content : Content) : d.Extends (d.put place content) where
  current := current_put d place content
  sinks := sinks_put d place content
  isDirectory := by
    intro other hother
    rw [isDirectory_put, hother, Bool.true_or]
  isFile := by
    intro other hother
    by_cases heq : other = place
    · by_cases hsink : place ∈ d.sinks
      · rwa [put_of_sink hsink]
      · rw [heq, file?_put_self hsink]
        rfl
    · rwa [file?_put_of_ne heq]
  noFile := by
    intro other hother hnone
    have hne : other ≠ place := by
      rintro rfl
      rw [h] at hother
      cases hother
    rwa [file?_put_of_ne hne]

/-! ## Writing -/

theorem write_ok (h : d.write p content = .ok e) : ∃ made place, d.makeDirectories p p.parent.names.length = .ok made ∧
    made.locate p = .ok place ∧ made.isDirectory place = false ∧ e = made.put place content := by
  obtain ⟨made, hmade, h⟩ := exists_of_bind_ok h
  refine ⟨made, ?_⟩
  cases hplace : made.locate p with
  | error cause =>
    rw [hplace] at h
    cases h
  | ok place =>
    rw [hplace] at h
    dsimp only at h
    split at h
    · cases h
    next hdirectory =>
      cases h
      exact ⟨place, hmade, rfl, Bool.eq_false_iff.mpr hdirectory, rfl⟩

/-- Writing is given up when a directory cannot be made, or when the last name of the path cannot be the name of a
file. -/
theorem write_error {u : Unfinished} (h : d.write p content = .error u) :
    d.makeDirectories p p.parent.names.length = .error u ∨
      d.makeDirectories p p.parent.names.length = .ok u.disk ∧
        ∀ place, u.disk.locate p = .ok place → u.disk.isDirectory place = true := by
  rw [write] at h
  cases hmade : d.makeDirectories p p.parent.names.length with
  | error v =>
    rw [hmade] at h
    exact Or.inl h
  | ok made =>
    simp only [hmade, bind, Except.bind] at h
    split at h
    next cause hcause =>
      cases h
      refine Or.inr ⟨rfl, fun place hplace => ?_⟩
      cases hcause.symm.trans hplace
    next place hplace =>
      split at h
      next hdirectory =>
        cases h
        refine Or.inr ⟨rfl, fun other hother => ?_⟩
        cases hplace.symm.trans hother
        exact hdirectory
      · cases h

/-- When writing is given up, all that has changed is that there may be more directories. -/
theorem exists_withDirectories_of_write {u : Unfinished} (h : d.write p content = .error u) :
    ∃ more, u.disk = d.withDirectories more := by
  rcases write_error h with hmade | ⟨hmade, -⟩
  · exact exists_withDirectories_of_error hmade
  · exact exists_withDirectories hmade

/-- What has been given up is given up again, at the same place. -/
theorem write_again (hp : p.Tidy) {u : Unfinished} (h : d.write p content = .error u) :
    ∃ v, u.disk.write p content = .error v ∧ v.disk = u.disk := by
  have hlength : p.parent.names.length ≤ p.names.length := by
    rw [Path.parent, List.length_dropLast]
    exact Nat.sub_le _ _
  rcases write_error h with hmade | ⟨hmade, hlocate⟩
  · obtain ⟨v, hagain, hsame⟩ := makeDirectories_again hp hlength hmade
    rw [write, hagain]
    exact ⟨v, rfl, hsame⟩
  · rw [write, makeDirectories_twice hp hmade]
    simp only [bind, Except.bind]
    split
    · exact ⟨_, rfl, rfl⟩
    next place hplace =>
      rw [if_pos (hlocate place hplace)]
      exact ⟨_, rfl, rfl⟩

theorem isDirectory_of_above (h : other <+: place) (hplace : d.isDirectory place = true) :
    d.isDirectory other = true := by
  simp only [isDirectory, Bool.or_eq_true, List.any_eq_true, List.isPrefixOf_iff_prefix, Bool.and_eq_true,
    decide_eq_true_eq] at hplace ⊢
  rcases hplace with (hcurrent | ⟨directory, hmem, hbelow⟩) | ⟨file, hmem, hbelow, hne⟩
  · exact Or.inl (Or.inl (h.trans hcurrent))
  · exact Or.inl (Or.inr ⟨directory, hmem, h.trans hbelow⟩)
  · refine Or.inr ⟨file, hmem, h.trans hbelow, ?_⟩
    rintro rfl
    exact hne (h.eq_of_length (Nat.le_antisymm h.length_le hbelow.length_le))

theorem isDirectory_of_nil (hp : p.Tidy) (hnil : p.names = []) (h : d.resolve p.text = .ok place) :
    d.isDirectory place = true := by
  have hdirectory {start : Place} {blank : String} (hstart : d.isDirectory start = true)
      (hblank : blank = "" ∨ blank = ".") (henter : d.enter start blank = .ok place) : d.isDirectory place = true := by
    rw [enter_of_blank hstart hblank] at henter
    split at henter
    · cases henter
    · cases henter
      exact hstart
  rw [resolve_of_nil hp hnil] at h
  split at h
  · exact hdirectory (isDirectory_current d) (Or.inr rfl) h
  · exact hdirectory (isDirectory_root d) (Or.inl rfl) h

/-- What is written to is an entry of a directory: the places that are reached by going back are
directories themselves. -/
theorem locate_entry (hp : p.Tidy) (h : d.locate p = .ok place) (hplace : d.isDirectory place = false) :
    ∃ name above, p.names.getLast? = some name ∧ Path.IsEntry name ∧ d.resolve p.parent.text = .ok above ∧
      p.text.utf8ByteSize ≤ pathLimit ∧ d.step above name = .ok place ∧ place = above ++ [name] := by
  rw [locate] at h
  split at h
  next hnone =>
    rw [isDirectory_of_nil hp (List.getLast?_eq_none_iff.mp hnone) h] at hplace
    cases hplace
  next name hname =>
    have hisname := hp.names name (List.mem_of_getLast? hname)
    split at h
    · cases h
    next hsize =>
      obtain ⟨above, hparent, hstep⟩ := exists_of_bind_ok h
      have hdirectory := directory_of_isThere (isThere_of_resolve hparent) (file?_of_step hstep)
      have hback : name ≠ ".." := by
        -- what lies above a directory is a directory itself
        rintro rfl
        rw [step_back (file?_of_step hstep)] at hstep
        cases hstep
        rw [isDirectory_of_above (List.dropLast_prefix above) hdirectory] at hplace
        cases hplace
      exact ⟨name, above, hname, ⟨hisname, hback⟩, hparent, Nat.not_lt.mp hsize, hstep,
        step_entry ⟨hisname, hback⟩ hstep⟩

/-- A file that is put in its place is found there. -/
theorem resolve_put (hp : p.Tidy) (hlocate : d.locate p = .ok place) (hplace : d.isDirectory place = false)
    (content : Content) : (d.put place content).resolve p.text = .ok place := by
  obtain ⟨name, above, hname, hentry, hparent, hsize, hstep, rfl⟩ := locate_entry hp hlocate hplace
  have hne : above ≠ above ++ [name] := by simp
  have hnext : (d.put (above ++ [name]) content).step above name = .ok (above ++ [name]) := by
    rw [step_congr (file?_put_of_ne hne content), hstep]
  have hthere : (d.put (above ++ [name]) content).isThere (above ++ [name]) = true := by
    by_cases hsink : above ++ [name] ∈ d.sinks
    · rw [put_of_sink hsink, isThere, file?, if_pos (by rwa [List.contains_iff_mem])]
      rfl
    · rw [isThere, file?_put_self hsink]
      rfl
  rw [← Path.child_parent hname] at hsize ⊢
  rw [resolve_child hp.parent hentry.toIsName hsize, (extends_put hplace content).resolve hparent]
  exact enter_eq_ok_iff.mpr ⟨hnext, hthere⟩

/-- Where a file is written, and what becomes of the files. -/
theorem file?_of_write (hp : p.Tidy) (h : d.write p content = .ok e) : ∃ place, e.resolve p.text = .ok place ∧
    (place ∉ d.sinks → e.file? place = some content) ∧ (place ∈ d.sinks → e.file? place = d.file? place) ∧
      ∀ other ≠ place, e.file? other = d.file? other := by
  obtain ⟨made, place, hmade, hlocate, hdirectory, rfl⟩ := write_ok h
  obtain ⟨more, rfl⟩ := exists_withDirectories hmade
  refine ⟨place, resolve_put hp hlocate hdirectory content, fun hsink => ?_, fun hsink => ?_, fun other hother => ?_⟩
  · have hmade : place ∉ (d.withDirectories more).sinks := hsink
    exact file?_put_self hmade content
  · have hmade : place ∈ (d.withDirectories more).sinks := hsink
    rw [put_of_sink hmade]
    rfl
  · rw [file?_put_of_ne hother]
    rfl

theorem resolve_of_write (hp : p.Tidy) (h : d.write p content = .ok e) :
    d.Extends e ∧ ∃ place, e.resolve p.text = .ok place ∧ (place ∉ d.sinks → e.file? place = some content) := by
  obtain ⟨made, target, hmade, -, hdirectory, rfl⟩ := write_ok h
  have hextends := (extends_of_makeDirectories hmade).trans (extends_put hdirectory content)
  obtain ⟨place, hplace, hcontent, -⟩ := file?_of_write hp h
  exact ⟨hextends, place, hplace, hcontent⟩

/-- What is written is read, unless the file stays empty whatever is written to it. -/
theorem read_of_write (hp : p.Tidy) (h : d.write p content = .ok e)
    (hkept : ∀ place ∈ d.sinks, e.resolve p.text ≠ .ok place) : e.read p.text = .ok content := by
  obtain ⟨-, place, hplace, hcontent⟩ := resolve_of_write hp h
  have hsink : place ∉ d.sinks := fun hsink => hkept place hsink hplace
  rw [read, hplace]
  simp only [bind, Except.bind, hcontent hsink]
  rfl

/-! ## Other files of the same directory -/

section

variable {above : Place} {entry : String}

/-- In a directory that is there nothing has to be made for a file. -/
theorem makeDirectories_beside (hp : p.Tidy) (name : String) (habove : d.resolve p.text = .ok above)
    (hdirectory : d.isDirectory above = true) :
    d.makeDirectories (p.child name) (p.child name).parent.names.length = .ok d := by
  have hfirst : firstNames (p.child name) (p.child name).parent.names.length = p := by
    rw [Path.parent_child]
    show ({ root := p.root, names := (p.names ++ [name]).take p.names.length } : Path) = p
    rw [List.take_left]
  exact makeDirectories_of_directory (by rwa [hfirst]) (by rw [hfirst]; exact habove) hdirectory

/-- So nothing has changed where it cannot be written. -/
theorem disk_of_error_beside (hp : p.Tidy) (habove : d.resolve p.text = .ok above)
    (hdirectory : d.isDirectory above = true) {u : Unfinished} (h : d.write (p.child name) content = .error u) :
    u.disk = d := by
  have hnothing := makeDirectories_beside hp name habove hdirectory
  rcases write_error h with hmade | ⟨hmade, -⟩
  · cases hnothing.symm.trans hmade
  · exact Except.ok.inj (hmade.symm.trans hnothing)

theorem write_beside (hp : p.Tidy) (hname : Path.IsEntry name) (habove : d.resolve p.text = .ok above)
    (hdirectory : d.isDirectory above = true) (h : d.write (p.child name) content = .ok e) :
    e = d.put (above ++ [name]) content ∧ d.isDirectory (above ++ [name]) = false := by
  obtain ⟨made, place, hmade, hlocate, hplace, rfl⟩ := write_ok h
  cases (makeDirectories_beside hp name habove hdirectory).symm.trans hmade
  obtain ⟨last, parent, hlast, hentry, hparent, -, -, rfl⟩ := locate_entry (hp.child hname.toIsName) hlocate hplace
  rw [Path.parent_child, habove] at hparent
  cases hparent
  have hsame : last = name := by
    rw [Path.child, List.getLast?_concat] at hlast
    exact (Option.some_inj.mp hlast).symm
  rw [hsame] at hplace ⊢
  exact ⟨rfl, hplace⟩

theorem enter_congr (hfile : e.file? place = d.file? place)
    (hthere : ∀ next, d.step place name = .ok next → e.isThere next = d.isThere next) :
    e.enter place name = d.enter place name := by
  rw [enter, enter, step_congr hfile]
  cases hstep : d.step place name with
  | error cause => rfl
  | ok next =>
    simp only [bind, Except.bind, hthere next hstep]

variable (hp : p.Tidy) (hentry : Path.IsEntry entry) (hne : entry ≠ name) (habove : d.resolve p.text = .ok above)
  (hplace : d.isDirectory (above ++ [name]) = false)
include hp hentry hne habove hplace

theorem resolve_beside (content : Content) :
    (d.put (above ++ [name]) content).resolve (p.child entry).text = d.resolve (p.child entry).text := by
  by_cases hsize : (p.child entry).text.utf8ByteSize ≤ pathLimit
  · have hafter := (extends_put hplace content).resolve habove
    have hself : above ≠ above ++ [name] := by simp
    have hother : above ++ [entry] ≠ above ++ [name] := by simpa using hne
    rw [resolve_child hp hentry.toIsName hsize, resolve_child hp hentry.toIsName hsize, habove, hafter]
    refine enter_congr (file?_put_of_ne hself content) fun next hstep => ?_
    cases step_entry hentry hstep
    have hbelow : (above ++ [entry]).isPrefixOf (above ++ [name]) = false := by
      rw [Bool.eq_false_iff, Ne, List.isPrefixOf_iff_prefix]
      exact fun h => hother (h.eq_of_length (by simp))
    rw [isThere, isThere, file?_put_of_ne hother, isDirectory_put, hbelow, Bool.false_and, Bool.and_false,
      Bool.or_false]
  · have hlong : pathLimit < (p.child entry).text.utf8ByteSize := Nat.not_le.mp hsize
    rw [resolve, resolve, if_neg (Path.text_ne_empty _), if_neg (Path.text_ne_empty _), if_pos hlong, if_pos hlong]

theorem isFound_beside (content : Content) :
    (d.put (above ++ [name]) content).isFound (p.child entry) = d.isFound (p.child entry) := by
  rw [isFound, isFound, resolve_beside hp hentry hne habove hplace]

theorem read_beside (content : Content) :
    (d.put (above ++ [name]) content).read (p.child entry).text = d.read (p.child entry).text := by
  rw [read, read, resolve_beside hp hentry hne habove hplace]
  cases hresolve : d.resolve (p.child entry).text with
  | error cause => rfl
  | ok found =>
    have hfound : found = above ++ [entry] := by
      rw [resolve_child hp hentry.toIsName (size_of_resolve hresolve), habove] at hresolve
      exact step_entry hentry (enter_eq_ok_iff.mp hresolve).1
    have hother : found ≠ above ++ [name] := by
      rw [hfound]
      simpa using hne
    simp only [bind, Except.bind, file?_put_of_ne hother]

end

end Disk
end GitPractice
