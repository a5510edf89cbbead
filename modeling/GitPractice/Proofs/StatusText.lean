import GitPractice.Proofs.LogText

/-!
# Reading the answer to `git status`

The answer to `git status` has a line for HEAD and up to three sections, and it quotes nothing. All the same it
can be read back: of all its lines only those that show a file are indented, so a file may bear the name of
a title or of a status and is still no title. The lines of a section are therefore the ones that are indented
below its title (`filesUnder`), and a section that is missing reads like one without a line.

Below the title of the staged files the status stands before the name, and no status begins as another one
does. The files of the working directory show no status of their own: in a repository that comes about by running
lines they are modified, or they are untracked. So equal answers come from repositories that stand alike
(`Session.status_unambiguous`).
-/

namespace GitPractice

namespace Text

def first? (s : String) : Option Char := s.toList.head?

theorem first?_append {a : String} {c : Char} (h : first? a = some c) (b : String) : first? (a ++ b) = some c := by
  rw [first?, String.toList_append, List.head?_append]
  exact congrArg (Option.or · b.toList.head?) h

theorem ne_of_first?_ne {a b : String} (h : first? a ≠ first? b) : a ≠ b := fun he => h (congrArg first? he)

end Text

theorem FileEntry.eq_of {f f' : FileEntry} (hname : f.name = f'.name) (hstatus : f.status = f'.status) : f = f' := by
  cases f
  cases f'
  cases hname
  cases hstatus
  rfl

namespace GitCommand

/-- Of the lines of `git status`, those that show a file. -/
def isIndented (line : String) : Bool := Text.first? line == some ' '

/-! ## Sections -/

/-- The indented lines that follow the title. -/
def filesUnder (title : String) (lines : List String) : List String :=
  (lines.dropWhile (· ≠ title)).tail.takeWhile isIndented

variable {title : String} {lines later files : List String}

theorem filesUnder_append_of_not_mem (h : title ∉ lines) (later : List String) :
    filesUnder title (lines ++ later) = filesUnder title later := by
  rw [filesUnder, List.dropWhile_append_of_pos]
  · rfl
  · intro line hline
    simpa using fun he : line = title => h (he ▸ hline)

theorem filesUnder_of_not_mem (h : title ∉ lines) : filesUnder title lines = [] := by
  have hskip := filesUnder_append_of_not_mem h []
  rwa [List.append_nil] at hskip

theorem filesUnder_statusSection (htitle : title ≠ "") (hfiles : ∀ line ∈ files, isIndented line = true)
    (hmem : title ∉ later) (hstop : ∀ line ∈ later.head?, isIndented line = false) :
    filesUnder title (statusSection title files ++ later) = files := by
  cases hcase : files with
  | nil => exact filesUnder_of_not_mem hmem
  | cons file rest =>
    have hshape : statusSection title (file :: rest) ++ later = [""] ++ title :: (files ++ later) := by
      rw [hcase]
      rfl
    have hlater : later.takeWhile isIndented = [] := by
      cases later with
      | nil => rfl
      | cons line later => rw [List.takeWhile_cons_of_neg (by simp [hstop line rfl])]
    rw [hshape, filesUnder_append_of_not_mem (by simpa using htitle), filesUnder, List.dropWhile_cons_of_neg (by simp),
      List.tail_cons, List.takeWhile_append_of_pos hfiles, hlater, List.append_nil, hcase]

/-- Sections with their titles, and what follows them. -/
def sections (parts : List (String × List String)) (later : List String) : List String :=
  parts.flatMap (fun part => statusSection part.1 part.2) ++ later

/-- The sections can be told apart: the titles are different, and only files are indented. -/
structure Divided (parts : List (String × List String)) (later : List String) : Prop where
  titles : (parts.map (·.1)).Nodup
  title : ∀ part ∈ parts, part.1 ≠ "" ∧ isIndented part.1 = false ∧ part.1 ∉ later
  files : ∀ part ∈ parts, ∀ line ∈ part.2, isIndented line = true
  later : ∀ line ∈ later.head?, isIndented line = false

namespace Divided

variable {part : String × List String} {parts : List (String × List String)}

theorem tail (h : Divided (part :: parts) later) : Divided parts later where
  titles := (List.nodup_cons.mp h.titles).2
  title := fun p hp => h.title p (List.mem_cons_of_mem part hp)
  files := fun p hp => h.files p (List.mem_cons_of_mem part hp)
  later := h.later

theorem head?_sections (h : Divided parts later) : ∀ line ∈ (sections parts later).head?, isIndented line = false := by
  induction parts with
  | nil => exact h.later
  | cons part parts ih =>
    obtain ⟨title, files⟩ := part
    cases files with
    | nil => exact ih h.tail
    | cons file files =>
      intro line hline
      obtain rfl : "" = line := Option.some.inj hline
      rfl

/-- A title that is not that of the section is nowhere in it. -/
theorem not_mem_statusSection (h : Divided parts later) (hpart : part ∈ parts) {title : String}
    (ht : title ≠ "" ∧ isIndented title = false) (hne : title ≠ part.1) : title ∉ statusSection part.1 part.2 := by
  have hfiles := h.files part hpart
  have hindented : title ∉ part.2 := fun hmem => by simp [hfiles title hmem] at ht
  obtain ⟨other, files⟩ := part
  cases files with
  | nil => exact List.not_mem_nil
  | cons file files => simpa [statusSection, ht.1, hne] using hindented

/-- Every section is found under its title. -/
theorem filesUnder_sections (h : Divided parts later) :
    ∀ part ∈ parts, filesUnder part.1 (sections parts later) = part.2 := by
  induction parts with
  | nil => exact fun part hpart => absurd hpart List.not_mem_nil
  | cons first parts ih =>
    have hshape : sections (first :: parts) later = statusSection first.1 first.2 ++ sections parts later := by
      rw [sections, List.flatMap_cons, List.append_assoc]
      rfl
    intro part hpart
    rw [hshape]
    -- Its own title opens the section; in the sections before, the title is found nowhere.
    rcases List.mem_cons.mp hpart with rfl | hrest
    · obtain ⟨hne, hplain, hlater⟩ := h.title part List.mem_cons_self
      refine filesUnder_statusSection hne (h.files part List.mem_cons_self) ?_ h.tail.head?_sections
      rw [sections, List.mem_append, List.mem_flatMap, not_or]
      refine ⟨?_, hlater⟩
      rintro ⟨other, hother, hmem⟩
      have htitle : part.1 ≠ other.1 := fun he =>
        (List.nodup_cons.mp h.titles).1 (List.mem_map.mpr ⟨other, hother, he.symm⟩)
      exact h.tail.not_mem_statusSection hother ⟨hne, hplain⟩ htitle hmem
    · obtain ⟨hne, hplain, -⟩ := h.title part hpart
      have htitle : part.1 ≠ first.1 := fun he =>
        (List.nodup_cons.mp h.titles).1 (List.mem_map.mpr ⟨part, hrest, he⟩)
      rw [filesUnder_append_of_not_mem (h.not_mem_statusSection List.mem_cons_self ⟨hne, hplain⟩ htitle)]
      exact ih h.tail part hrest

end Divided

/-! ## The lines of the answer -/

/-- The first line says where HEAD is. -/
def headLine (s : Snapshot) : String :=
  if s.detached then "HEAD detached at " ++ shortId s.head else "On branch " ++ s.currentBranch

def stagedLine (f : FileEntry) : String := "  " ++ f.status.name ++ ": " ++ f.name

def modifiedLine (f : FileEntry) : String := "  modified: " ++ f.name

def otherLine (f : FileEntry) : String := "  " ++ f.name

def modified (s : Snapshot) : List FileEntry := s.working.filter (·.status = .modified)

def others (s : Snapshot) : List FileEntry := s.working.filter (·.status ≠ .modified)

def statusParts (s : Snapshot) : List (String × List String) :=
  [("Changes to be committed:", s.staged.map stagedLine),
    ("Changes not staged for commit:", (modified s).map modifiedLine),
    ("Untracked files:", (others s).map otherLine)]

def closing (s : Snapshot) : List String := if s.staged.isEmpty && s.working.isEmpty then ["", cleanTree] else []

theorem statusLines_eq (s : Snapshot) : statusLines s = headLine s :: sections (statusParts s) (closing s) := by
  rw [statusLines, sections, statusParts]
  simp only [List.flatMap_cons, List.flatMap_nil, List.append_assoc, List.nil_append, List.singleton_append]
  rfl

theorem isIndented_append {a : String} (h : Text.first? a = some ' ') (b : String) : isIndented (a ++ b) = true := by
  rw [isIndented, Text.first?_append h]
  rfl

theorem divided_statusParts (s : Snapshot) : Divided (statusParts s) (closing s) where
  titles := by
    show ["Changes to be committed:", "Changes not staged for commit:", "Untracked files:"].Nodup
    decide +kernel
  title := by
    have hclosing {title : String} (h : title ∉ ["", cleanTree]) : title ∉ closing s := by
      rw [closing]
      split
      · exact h
      · exact List.not_mem_nil
    simp only [statusParts, List.forall_mem_cons]
    refine ⟨?_, ?_, ?_, fun part hpart => absurd hpart List.not_mem_nil⟩
    · exact ⟨by decide, by decide, hclosing (by decide)⟩
    · exact ⟨by decide, by decide, hclosing (by decide)⟩
    · exact ⟨by decide, by decide, hclosing (by decide)⟩
  files := by
    simp only [statusParts, List.forall_mem_cons, List.forall_mem_map]
    refine ⟨fun f _ => ?_, fun f _ => ?_, fun f _ => ?_, fun part hpart => absurd hpart List.not_mem_nil⟩
    · rw [stagedLine, String.append_assoc, String.append_assoc]
      exact isIndented_append rfl _
    · exact isIndented_append rfl _
    · exact isIndented_append rfl _
  later := by
    rw [closing]
    split
    · intro line hline
      obtain rfl : "" = line := Option.some.inj hline
      rfl
    · exact fun line hline => by cases hline

theorem first?_headLine (s : Snapshot) : Text.first? (headLine s) = some (if s.detached then 'H' else 'O') := by
  rw [headLine]
  split <;> exact Text.first?_append rfl _

theorem filesUnder_statusLines {s : Snapshot} {part : String × List String} (hpart : part ∈ statusParts s) :
    filesUnder part.1 (statusLines s) = part.2 := by
  have hfirst : ∀ p ∈ statusParts s, Text.first? p.1 ≠ some 'H' ∧ Text.first? p.1 ≠ some 'O' := by
    simp only [statusParts, List.forall_mem_cons]
    refine ⟨by decide, by decide, by decide, fun p hp => absurd hp List.not_mem_nil⟩
  have hhead : part.1 ≠ headLine s := by
    refine Text.ne_of_first?_ne ?_
    rw [first?_headLine]
    split
    · exact (hfirst part hpart).1
    · exact (hfirst part hpart).2
  have hskip : filesUnder part.1 ([headLine s] ++ sections (statusParts s) (closing s)) =
      filesUnder part.1 (sections (statusParts s) (closing s)) :=
    filesUnder_append_of_not_mem (by simpa using hhead) _
  rw [statusLines_eq, ← List.singleton_append, hskip]
  exact (divided_statusParts s).filesUnder_sections part hpart

/-! ## What the answer says -/

theorem headLine_eq_iff {s s' : Snapshot} :
    headLine s = headLine s' ↔ s.detached = s'.detached ∧
      (s.detached = false → s.currentBranch = s'.currentBranch) ∧
      (s.detached = true → shortId s.head = shortId s'.head) := by
  constructor
  · intro h
    have hletter := congrArg Text.first? h
    rw [first?_headLine, first?_headLine] at hletter
    have hd : s.detached = s'.detached := by
      cases hd : s.detached <;> cases hd' : s'.detached <;> simp_all
    refine ⟨hd, fun hfalse => ?_, fun htrue => ?_⟩
    · rw [headLine, headLine, ← hd, hfalse] at h
      exact String.append_right_inj _ |>.mp h
    · rw [headLine, headLine, ← hd, htrue] at h
      exact String.append_right_inj _ |>.mp h
  · rintro ⟨hd, hbranch, hhead⟩
    rw [headLine, headLine, ← hd]
    split
    next hcase => rw [hhead hcase]
    next hcase => rw [hbranch (Bool.eq_false_iff.mpr hcase)]

/-- The statuses begin with different letters. -/
theorem stagedLine_injective : Function.Injective stagedLine := by
  rintro ⟨name, status⟩ ⟨name', status'⟩ h
  have hrest : status.name ++ ": " ++ name = status'.name ++ ": " ++ name' := by
    rw [stagedLine, stagedLine] at h
    simpa only [String.append_assoc, String.append_right_inj] using h
  have hstatus : status = status' := by
    have hletter (status : FileStatus) (name : String) : Text.first? (status.name ++ ": " ++ name) =
        Text.first? status.name := by
      cases status <;> exact Text.first?_append rfl _
    have hletters := congrArg Text.first? hrest
    rw [hletter, hletter] at hletters
    cases status <;> cases status' <;> first | rfl | exact absurd hletters (by decide)
  subst hstatus
  rw [String.append_right_inj] at hrest
  rw [hrest]

theorem modifiedLine_injective_name {f f' : FileEntry} (h : modifiedLine f = modifiedLine f') : f.name = f'.name :=
  (String.append_right_inj _).mp h

theorem otherLine_injective_name {f f' : FileEntry} (h : otherLine f = otherLine f') : f.name = f'.name :=
  (String.append_right_inj _).mp h

/-- Lines that show the name alone tell files of one status apart. -/
theorem eq_of_map_line_eq {line : FileEntry → String} (hline : ∀ f f', line f = line f' → f.name = f'.name)
    {status : FileStatus} {fs fs' : List FileEntry} (hs : ∀ f ∈ fs, f.status = status)
    (hs' : ∀ f ∈ fs', f.status = status) (h : fs.map line = fs'.map line) : fs = fs' := by
  induction fs generalizing fs' with
  | nil => exact (List.map_eq_nil_iff.mp h.symm).symm
  | cons f fs ih =>
    cases fs' with
    | nil => cases h
    | cons f' fs' =>
      rw [List.map_cons, List.map_cons, List.cons.injEq] at h
      obtain ⟨hf, hrest⟩ := List.forall_mem_cons.mp hs
      obtain ⟨hf', hrest'⟩ := List.forall_mem_cons.mp hs'
      rw [FileEntry.eq_of (hline f f' h.1) (hf.trans hf'.symm), ih hrest hrest' h.2]

variable {s s' : Snapshot}

/-- What `git status` shows of both is the same. -/
structure ShownAlike (s s' : Snapshot) : Prop where
  detached : s.detached = s'.detached
  branch : s.detached = false → s.currentBranch = s'.currentBranch
  head : s.detached = true → shortId s.head = shortId s'.head
  staged : s.staged = s'.staged
  modified : s.working.filter (·.status = .modified) = s'.working.filter (·.status = .modified)
  others : s.working.filter (·.status ≠ .modified) = s'.working.filter (·.status ≠ .modified)

theorem ShownAlike.working_eq_nil_iff (h : ShownAlike s s') : s.working = [] ↔ s'.working = [] := by
  have hsplit (fs : List FileEntry) :
      fs = [] ↔ fs.filter (·.status = .modified) = [] ∧ fs.filter (·.status ≠ .modified) = [] := by
    simp only [List.filter_eq_nil_iff]
    constructor
    · rintro rfl
      simp
    · rintro ⟨hmodified, hothers⟩
      refine List.eq_nil_iff_forall_not_mem.mpr fun f hf => ?_
      by_cases hs : f.status = .modified
      · exact hmodified f hf (by simpa using hs)
      · exact hothers f hf (by simpa using hs)
  rw [hsplit, hsplit s'.working, h.modified, h.others]

theorem ShownAlike.statusLines_eq (h : ShownAlike s s') : statusLines s = statusLines s' := by
  have hclosing : closing s = closing s' := by
    have hworking : s.working.isEmpty = s'.working.isEmpty := by
      rw [Bool.eq_iff_iff, List.isEmpty_iff, List.isEmpty_iff, h.working_eq_nil_iff]
    rw [closing, closing, h.staged, hworking]
  rw [GitCommand.statusLines_eq, GitCommand.statusLines_eq, statusParts, statusParts, GitCommand.modified,
    GitCommand.modified, GitCommand.others, GitCommand.others, h.staged, h.modified, h.others, hclosing,
    headLine_eq_iff.mpr ⟨h.detached, h.branch, h.head⟩]

theorem sections_eq_of_statusLines_eq (h : statusLines s = statusLines s') :
    s.staged.map stagedLine = s'.staged.map stagedLine ∧
      (modified s).map modifiedLine = (modified s').map modifiedLine ∧
      (others s).map otherLine = (others s').map otherLine := by
  have hread (s : Snapshot) :
      (statusParts s).map (·.2) = ((statusParts s).map (·.1)).map (filesUnder · (statusLines s)) := by
    rw [List.map_map]
    exact List.map_congr_left fun part hpart => (filesUnder_statusLines hpart).symm
  have hparts : (statusParts s).map (·.2) = (statusParts s').map (·.2) := by
    rw [hread, hread s', h]
    rfl
  simpa [statusParts] using hparts

/-- Where working files are untracked if they are not modified, the lines show them all. -/
theorem statusLines_eq_iff (h : s.FilesTidy) (h' : s'.FilesTidy) :
    statusLines s = statusLines s' ↔ ShownAlike s s' := by
  refine ⟨fun he => ?_, ShownAlike.statusLines_eq⟩
  have hhead : headLine s = headLine s' := by
    rw [GitCommand.statusLines_eq, GitCommand.statusLines_eq] at he
    exact (List.cons.inj he).1
  obtain ⟨hd, hbranch, hcommit⟩ := headLine_eq_iff.mp hhead
  obtain ⟨hstaged, hmodified, hothers⟩ := sections_eq_of_statusLines_eq he
  -- The lines of working files show no status, but what is not modified has only one left.
  have hstatus {s : Snapshot} : ∀ f ∈ modified s, f.status = .modified := fun f hf => by
    simpa using (List.mem_filter.mp hf).2
  have huntracked {s : Snapshot} (h : s.FilesTidy) : ∀ f ∈ others s, f.status = .untracked := by
    intro f hf
    obtain ⟨hmem, hne⟩ := List.mem_filter.mp hf
    exact (h.working f hmem).resolve_right (by simpa using hne)
  exact
    { detached := hd
      branch := hbranch
      head := hcommit
      staged := stagedLine_injective.list_map hstaged
      modified := eq_of_map_line_eq (fun _ _ => modifiedLine_injective_name) hstatus hstatus hmodified
      others := eq_of_map_line_eq (fun _ _ => otherLine_injective_name) (huntracked h) (huntracked h') hothers }

/-! ## Lines that are not broken -/

theorem no_break_headLine (h : s.Sound) (hids : ∀ id ∈ s.commitIds, '\n' ∉ id.toList) :
    '\n' ∉ (headLine s).toList := by
  have hhead : '\n' ∉ s.head.toList := by
    rcases h.linked.head with hnone | hmem
    · rw [hnone]
      exact List.not_mem_nil
    · exact hids s.head hmem
  have hshort : '\n' ∉ (shortId s.head).toList := by
    rw [shortId, Text.take, String.toList_ofList]
    exact fun hmem => hhead (List.mem_of_mem_take hmem)
  rw [headLine]
  split
  · simp [hshort]
  · simp [h.spaced_currentBranch.no_break]

theorem isFileLine_of_mem_statusParts {part : String × List String} (hpart : part ∈ statusParts s) :
    ∀ line ∈ part.2, IsFileLine s line := by
  have hworking {p : FileEntry → Bool} {f : FileEntry} (hf : f ∈ s.working.filter p) : f ∈ s.staged ++ s.working :=
    List.mem_append_right _ (List.mem_of_mem_filter hf)
  revert part
  simp only [statusParts, List.forall_mem_cons, List.forall_mem_map]
  refine ⟨fun f hf => ?_, fun f hf => ?_, fun f hf => ?_, fun part hpart => absurd hpart List.not_mem_nil⟩
  · exact ⟨f, List.mem_append_left _ hf, f.status.name ++ ": ", by simp, by simp only [stagedLine, String.append_assoc]⟩
  · exact ⟨f, hworking hf, "modified: ", by simp, rfl⟩
  · exact ⟨f, hworking hf, "", by simp, by rw [String.append_empty]; rfl⟩

theorem no_break_statusLines (h : s.Sound) (hids : ∀ id ∈ s.commitIds, '\n' ∉ id.toList)
    (hnames : ∀ name ∈ s.fileNames, Text.IsWord name) : ∀ line ∈ statusLines s, '\n' ∉ line.toList := by
  have hsection {part : String × List String} (hpart : part ∈ statusParts s) :
      ∀ line ∈ statusSection part.1 part.2, '\n' ∉ line.toList := by
    have htitles : ∀ part ∈ statusParts s, '\n' ∉ part.1.toList := by
      simp only [statusParts, List.forall_mem_cons]
      exact ⟨by decide, by decide, by decide, fun part hpart => absurd hpart List.not_mem_nil⟩
    have hfiles := isFileLine_of_mem_statusParts hpart
    have htitle := htitles part hpart
    obtain ⟨title, files⟩ := part
    cases files with
    | nil => exact fun line hline => absurd hline List.not_mem_nil
    | cons file files =>
      show ∀ line ∈ "" :: title :: file :: files, '\n' ∉ line.toList
      rw [List.forall_mem_cons, List.forall_mem_cons]
      exact ⟨by decide, htitle, fun line hline => (hfiles line hline).no_break hnames⟩
  have hclosing : ∀ line ∈ closing s, '\n' ∉ line.toList := by
    have hboth : ∀ line ∈ ["", cleanTree], '\n' ∉ line.toList := by
      simp only [List.forall_mem_cons]
      exact ⟨by decide, by decide, fun line hline => absurd hline List.not_mem_nil⟩
    rw [closing]
    split
    · exact hboth
    · exact fun line hline => absurd hline List.not_mem_nil
  rw [GitCommand.statusLines_eq, sections, List.forall_mem_cons, List.forall_mem_append]
  refine ⟨no_break_headLine h hids, fun line hline => ?_, hclosing⟩
  obtain ⟨part, hpart, hmem⟩ := List.mem_flatMap.mp hline
  exact hsection hpart line hmem

end GitCommand

namespace Session

theorem interpret_status {t : Session} (hi : t.snapshot.initialized = true) :
    t.interpret "git status" = .success (Text.join "\n" (GitCommand.statusLines t.snapshot)) := by
  have hparse : Command.parse "git status" = .git .status := by decide +kernel
  exact interpret_inside hi hparse

/-- The lines of the answer are those that it was put together from. -/
theorem lines_status (source : Source) (hids : ∀ n, '\n' ∉ (source.ids.nth n).toList) (lines : List String)
    (hi : (runAll source {} lines).snapshot.initialized = true) :
    Text.lines ((runAll source {} lines).interpret "git status").output =
      GitCommand.statusLines (runAll source {} lines).snapshot := by
  have hknown : ∀ id ∈ (runAll source {} lines).snapshot.commitIds, '\n' ∉ id.toList :=
    forall_commitIds_runAll hids lines
  have hbreaks := GitCommand.no_break_statusLines (sound_runAll source lines) hknown
    (linked_tidy_runAll source lines).2.words
  rw [interpret_status hi]
  exact Text.lines_join_of_no_break (List.cons_ne_nil _ _) hbreaks

/-- Two repositories, each after lines of its own, with times and ids of its own: `git status` gives the same
answer exactly if HEAD is detached in both at commits that are shown alike, or in none and on branches of one
name, and if the same files are staged, modified and otherwise not staged, with their statuses and in
their order. -/
theorem status_unambiguous (source source' : Source) (hids : ∀ n, '\n' ∉ (source.ids.nth n).toList)
    (hids' : ∀ n, '\n' ∉ (source'.ids.nth n).toList) (lines lines' : List String)
    (hi : (runAll source {} lines).snapshot.initialized = true)
    (hi' : (runAll source' {} lines').snapshot.initialized = true) :
    ((runAll source {} lines).interpret "git status").output =
        ((runAll source' {} lines').interpret "git status").output ↔
      GitCommand.ShownAlike (runAll source {} lines).snapshot (runAll source' {} lines').snapshot := by
  have htidy := (linked_tidy_runAll source lines).2
  have htidy' := (linked_tidy_runAll source' lines').2
  rw [← GitCommand.statusLines_eq_iff htidy htidy']
  constructor
  · intro he
    rw [← lines_status source hids lines hi, ← lines_status source' hids' lines' hi', he]
  · intro he
    rw [interpret_status hi, interpret_status hi', he]

/-- Files that are named as if they were statuses and titles, in two repositories with different commits. -/
theorem status_unambiguous_of_lookalikes :
    let lines := ["git init", "touch files:", "git add .", "git commit -m one", "touch modified:", "git add .",
      "touch Untracked", "echo x > Untracked", "touch files:", "git checkout c000001"]
    let lines' := ["git init", "git add .", "git commit -m two", "git branch files:", "touch files:",
      "touch Untracked", "echo x > Untracked", "touch modified:", "git add modified:", "git checkout c0"]
    (∀ n, '\n' ∉ (Source.sample.ids.nth n).toList) ∧
      (runAll .sample {} lines).snapshot.initialized = true ∧
      (runAll .sample {} lines').snapshot.initialized = true ∧
      ((runAll .sample {} lines).interpret "git status").output =
        Text.join "\n" ["HEAD detached at c000001", "", "Changes to be committed:", "  added: modified:", "",
          "Changes not staged for commit:", "  modified: Untracked", "", "Untracked files:", "  files:"] ∧
      ((runAll .sample {} lines).interpret "git status").output =
        ((runAll .sample {} lines').interpret "git status").output ∧
      (runAll .sample {} lines).snapshot.commits ≠ (runAll .sample {} lines').snapshot.commits ∧
      GitCommand.ShownAlike (runAll .sample {} lines).snapshot (runAll .sample {} lines').snapshot := by
  intro lines lines'
  have hids : ∀ n, '\n' ∉ (Source.sample.ids.nth n).toList := by
    intro n hmem
    rcases IdSource.mem_numbered hmem with hletter | hdigit
    · exact absurd hletter (by decide)
    · exact absurd hdigit (by decide)
  have hi : (runAll .sample {} lines).snapshot.initialized = true := by decide +kernel
  have hi' : (runAll .sample {} lines').snapshot.initialized = true := by decide +kernel
  have hsame : ((runAll .sample {} lines).interpret "git status").output =
      ((runAll .sample {} lines').interpret "git status").output := by decide +kernel
  have halike := (status_unambiguous .sample .sample hids hids lines lines' hi hi').mp hsame
  exact ⟨hids, hi, hi', by decide +kernel, hsame, by decide +kernel, halike⟩

end Session
end GitPractice
