import GitPractice.Proofs.Files
import GitPractice.View.Panel
import Mathlib.Tactic.TFAE

/-!
# Whether there is something to commit

The status panel and `git status` both say when all is committed, and they look at
different things: the panel asks for a commit besides, since a repository without
one is new and not clean. They agree because a new repository has a file until
its first commit, which `FilesTidy` knows of.

What `git status` says stands on its last line. The names of files are words, so
that no file can be mistaken for that line.
-/

namespace GitPractice

namespace Text

/-- The lines of a text, which has a line feed between neighbours. -/
def lines (s : String) : List String := (s.toList.splitOn '\n').map String.ofList

theorem lines_of_no_break {s : String} (h : '\n' ∉ s.toList) : lines s = [s] := by
  rw [lines, List.splitOn_eq_singleton h, List.map_singleton, String.ofList_toList]

theorem lines_append_break (a b : String) : lines (a ++ "\n" ++ b) = lines a ++ lines b := by
  have hsplit : (a ++ "\n" ++ b).toList = a.toList ++ '\n' :: b.toList := by
    simp [String.toList_append]
  rw [lines, hsplit, List.splitOn_append_cons_self, List.map_append]
  rfl

/-- The last of the texts is the last line when it is a single one. -/
theorem getLast?_lines_join {ss : List String} {last : String} (hlast : ss.getLast? = some last)
    (h : '\n' ∉ last.toList) : (lines (join "\n" ss)).getLast? = some last := by
  induction ss with
  | nil => cases hlast
  | cons first ss ih =>
    cases ss with
    | nil =>
      obtain rfl : first = last := Option.some.inj hlast
      show (lines first).getLast? = some first
      rw [lines_of_no_break h]
      rfl
    | cons second ss =>
      rw [List.getLast?_cons_cons] at hlast
      rw [join_cons_cons, lines_append_break, List.getLast?_append, ih hlast]
      rfl

end Text

namespace GitCommand

variable {s : Snapshot}

/-- The line shows a file: its name stands behind a mark, or behind none. -/
def IsFileLine (s : Snapshot) (line : String) : Prop :=
  ∃ f ∈ s.staged ++ s.working, ∃ mark ∈ ["", "modified: ", f.status.name ++ ": "],
    line = "  " ++ mark ++ f.name

theorem no_break_name (status : FileStatus) : '\n' ∉ (status.name ++ ": ").toList := by
  cases status <;> decide

/-- No file can pass for the line that says that all is committed. -/
theorem IsFileLine.ne_cleanTree {line : String} (h : IsFileLine s line) : line ≠ cleanTree := by
  obtain ⟨f, -, mark, -, rfl⟩ := h
  intro he
  have hfirst : (cleanTree.toList).head? = some ' ' := by
    rw [← he, String.toList_append, String.toList_append]
    rfl
  cases hfirst

theorem IsFileLine.no_break {line : String} (h : IsFileLine s line)
    (hnames : ∀ name ∈ s.fileNames, Text.IsWord name) : '\n' ∉ line.toList := by
  obtain ⟨f, hf, mark, hmark, rfl⟩ := h
  have hname : '\n' ∉ f.name.toList := by
    intro hmem
    have hword : Text.IsWord f.name := by
      refine hnames f.name ?_
      rw [Snapshot.fileNames, ← List.map_append]
      exact List.mem_map_of_mem hf
    have hblank : Text.isBlank '\n' = false := hword.2 _ hmem
    cases hblank
  have hmark : '\n' ∉ mark.toList := by
    simp only [List.mem_cons, List.not_mem_nil, or_false] at hmark
    rcases hmark with rfl | rfl | rfl
    · decide
    · decide
    · exact no_break_name f.status
  rw [String.toList_append, String.toList_append]
  simp [hname, hmark]

theorem getLast?_statusSection (title : String) (files : List String) :
    (statusSection title files).getLast? = files.getLast? := by
  cases files with
  | nil => rfl
  | cons file files => rfl

/-- The last line shows a file if there is one. -/
theorem getLast?_statusLines (h : ¬ (s.staged = [] ∧ s.working = [])) :
    ∃ line, (statusLines s).getLast? = some line ∧ IsFileLine s line := by
  have hclean : (s.staged.isEmpty && s.working.isEmpty) = false := by
    rw [← Bool.not_eq_true]
    simpa using h
  simp only [statusLines, hclean, Bool.false_eq_true, if_false, List.append_nil,
    List.getLast?_append, getLast?_statusSection, List.getLast?_map]
  -- The section that comes last and is not empty has the last line.
  cases hothers : (s.working.filter (·.status ≠ .modified)).getLast? with
  | some f =>
    have hf : f ∈ s.working := List.mem_of_mem_filter (List.mem_of_getLast? hothers)
    exact ⟨_, rfl, f, List.mem_append_right _ hf, "", by simp, by rw [String.append_empty]⟩
  | none =>
    cases hmodified : (s.working.filter (·.status = .modified)).getLast? with
    | some f =>
      have hf : f ∈ s.working := List.mem_of_mem_filter (List.mem_of_getLast? hmodified)
      exact ⟨_, rfl, f, List.mem_append_right _ hf, "modified: ", by simp, rfl⟩
    | none =>
      cases hstaged : s.staged.getLast? with
      | some f =>
        have hf : f ∈ s.staged := List.mem_of_getLast? hstaged
        refine ⟨_, rfl, f, List.mem_append_left _ hf, f.status.name ++ ": ", by simp, ?_⟩
        simp only [String.append_assoc]
      | none =>
        rw [List.getLast?_eq_none_iff] at hothers hmodified hstaged
        refine absurd ⟨hstaged, List.eq_nil_iff_forall_not_mem.mpr fun f hf => ?_⟩ h
        by_cases hst : f.status = .modified
        · exact List.filter_eq_nil_iff.mp hmodified f hf (by simpa using hst)
        · exact List.filter_eq_nil_iff.mp hothers f hf (by simpa using hst)

theorem getLast?_statusLines_of_clean (h : s.staged = [] ∧ s.working = []) :
    (statusLines s).getLast? = some cleanTree := by
  simp only [statusLines, h.1, h.2, List.isEmpty_nil, Bool.and_self, if_true, List.getLast?_append]
  rfl

/-- Whether all is committed can be read off the last line of the answer. -/
theorem getLast?_lines_status_iff (hnames : ∀ name ∈ s.fileNames, Text.IsWord name) :
    (Text.lines (Text.join "\n" (statusLines s))).getLast? = some cleanTree ↔
      s.staged = [] ∧ s.working = [] := by
  by_cases h : s.staged = [] ∧ s.working = []
  · have hbreak : '\n' ∉ cleanTree.toList := by decide
    exact iff_of_true (Text.getLast?_lines_join (getLast?_statusLines_of_clean h) hbreak) h
  · obtain ⟨line, hlast, hfile⟩ := getLast?_statusLines h
    rw [Text.getLast?_lines_join hlast (hfile.no_break hnames), Option.some_inj]
    exact iff_of_false hfile.ne_cleanTree h

end GitCommand

namespace StatusPanel

theorem clean_iff {s : Snapshot} (hi : s.initialized = true) (recent : Int) :
    (ofSnapshot s recent).clean = true ↔ (s.staged = [] ∧ s.working = []) ∧ s.commits ≠ [] := by
  simp [ofSnapshot, hi]

end StatusPanel

namespace Session

/-- Whatever lines are run from the beginning, whatever ids and times the source shows: once the
repository is set up, the panel calls it clean exactly if the last line of `git status` does, and
that is when no file is left in either area. -/
theorem clean_tfae (source : Source) (lines : List String) (recent : Int)
    (hi : (runAll source {} lines).snapshot.initialized = true) :
    [(StatusPanel.ofSnapshot (runAll source {} lines).snapshot recent).clean = true,
      (Text.lines ((runAll source {} lines).interpret "git status").output).getLast? =
        some GitCommand.cleanTree,
      (runAll source {} lines).snapshot.staged = [] ∧
        (runAll source {} lines).snapshot.working = []].TFAE := by
  have hfiles := (linked_tidy_runAll source lines).2
  -- Without a commit there would still be a file.
  have hcommits (h : (runAll source {} lines).snapshot.staged = [] ∧
      (runAll source {} lines).snapshot.working = []) :
      (runAll source {} lines).snapshot.commits ≠ [] := by
    intro hnone
    refine hfiles.started hi hnone ?_
    rw [Snapshot.fileNames, h.1, h.2]
    rfl
  have hanswer : ((runAll source {} lines).interpret "git status").output =
      Text.join "\n" (GitCommand.statusLines (runAll source {} lines).snapshot) := by
    have hparse : Command.parse "git status" = .git .status := by decide +kernel
    rw [interpret, GitPractice.interpret, hparse, Command.outcome, GitCommand.outcome, if_pos hi]
    rfl
  tfae_have 1 ↔ 3 := by
    rw [StatusPanel.clean_iff hi]
    exact ⟨fun h => h.1, fun h => ⟨h, hcommits h⟩⟩
  tfae_have 2 ↔ 3 := by
    rw [hanswer]
    exact GitCommand.getLast?_lines_status_iff hfiles.words
  tfae_finish

/-- A reset leaves no file behind, and there is still a commit. -/
theorem clean_of_reset :
    let lines := ["git init", "git add .", "git commit -m one", "touch a", "git add a",
      "git commit -m two", "echo x > b", "git reset --hard HEAD~1"]
    (runAll .sample {} lines).snapshot.initialized = true ∧
      ((runAll .sample {} lines).snapshot.staged = [] ∧
        (runAll .sample {} lines).snapshot.working = []) ∧
      (StatusPanel.ofSnapshot (runAll .sample {} lines).snapshot).clean = true ∧
      (Text.lines ((runAll .sample {} lines).interpret "git status").output).getLast? =
        some "nothing to commit, working tree clean" := by
  intro lines
  have hi : (runAll .sample {} lines).snapshot.initialized = true := by decide +kernel
  have hempty : (runAll .sample {} lines).snapshot.staged = [] ∧
      (runAll .sample {} lines).snapshot.working = [] := by decide +kernel
  have h := clean_tfae .sample lines 3 hi
  exact ⟨hi, hempty, (h.out 0 2).mpr hempty, (h.out 1 2).mpr hempty⟩

end Session
end GitPractice
