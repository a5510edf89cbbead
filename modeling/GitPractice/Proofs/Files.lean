import GitPractice.Proofs.CommitGraph

/-!
# Files in two areas

A file of a practice repository is in the working directory or in the staging
area, and it changes places by name only. That no name is listed twice therefore
holds of both areas together or not at all: moving a file relies on its being
unique where it comes from and unknown where it goes to.

Files may be made before the repository is set up, and setting it up starts the
working directory over. This keeps the names apart because nothing is staged by
then, which the commit graph knows of.
-/

namespace GitPractice
namespace Snapshot

/-- What holds of the files of both areas, the staged ones first. -/
structure FilesTidy (s : Snapshot) : Prop where
  /-- No file is in both areas, and none is listed twice. -/
  names : s.fileNames.Nodup
  words : ∀ name ∈ s.fileNames, Text.IsWord name
  staged : ∀ f ∈ s.staged, f.status = .added ∨ f.status = .modified
  working : ∀ f ∈ s.working, f.status = .untracked ∨ f.status = .modified
  /-- There is something to begin with until the first commit. -/
  started : s.initialized = true → s.commits = [] → s.fileNames ≠ []

theorem isWord_placeholderFile : Text.IsWord placeholderFile := by decide +kernel

namespace FilesTidy

variable {s s' : Snapshot}

/-! ## Steps

Files are left alone, dropped, or moved; only `git init` and `createFile` bring in a name. -/

theorem of_same_files (h : s.FilesTidy) (hs : s'.staged = s.staged) (hw : s'.working = s.working)
    (hstart : s'.initialized = true → s'.commits = [] → s.initialized = true ∧ s.commits = []) :
    s'.FilesTidy := by
  have hnames : s'.fileNames = s.fileNames := by rw [fileNames, hs, hw, fileNames]
  constructor
  case names => rw [hnames]; exact h.names
  case words => rw [hnames]; exact h.words
  case staged => rw [hs]; exact h.staged
  case working => rw [hw]; exact h.working
  case started =>
    intro hi hc
    rw [hnames]
    exact h.started (hstart hi hc).1 (hstart hi hc).2

/-- Dropping what is staged, and possibly all the rest, is safe once there is a commit. -/
theorem of_dropped (h : s.FilesTidy) (hs : s'.staged = [])
    (hw : s'.working = s.working ∨ s'.working = []) (hc : s'.commits ≠ []) : s'.FilesTidy := by
  have hsub : s'.working.Sublist s.working := by
    rcases hw with hw | hw
    · rw [hw]
    · rw [hw]; exact List.nil_sublist _
  have hnames : s'.fileNames.Sublist s.fileNames := by
    rw [fileNames, hs, fileNames]
    exact (List.nil_sublist _).append (hsub.map _)
  constructor
  case names => exact h.names.sublist hnames
  case words => exact fun n hn => h.words n (hnames.subset hn)
  case staged => rw [hs]; exact fun f hf => by cases hf
  case working => exact fun f hf => h.working f (hsub.subset hf)
  case started => exact fun _ hnil => absurd hnil hc

theorem empty : Snapshot.empty.FilesTidy where
  names := List.nodup_nil
  words := fun _ hn => by cases hn
  staged := fun _ hf => by cases hf
  working := fun _ hf => by cases hf
  started := fun hi => by cases hi

/-- Only the new file is there afterwards. -/
theorem create (hs : s.staged = []) : s.create.FilesTidy := by
  have hnames : s.create.fileNames = [placeholderFile] := by
    rw [fileNames, show s.create.staged = s.staged from rfl, hs]
    rfl
  constructor
  case names => rw [hnames]; exact List.nodup_singleton _
  case words =>
    intro n hn
    rw [hnames, List.mem_singleton] at hn
    rw [hn]
    exact isWord_placeholderFile
  case staged =>
    rw [show s.create.staged = s.staged from rfl, hs]
    exact fun f hf => by cases hf
  case working =>
    intro f hf
    rw [List.mem_singleton.mp hf]
    exact Or.inl rfl
  case started => rw [hnames]; exact fun _ _ => List.cons_ne_nil _ _

theorem createFile (h : s.FilesTidy) {name : String} (hw : Text.IsWord name) :
    (s.createFile name).FilesTidy := by
  by_cases hk : s.hasFile name = true
  · rw [createFile_of_known hk]
    exact h
  · have hnew : name ∉ s.fileNames := by rwa [hasFile_iff] at hk
    have hnames : (s.createFile name).fileNames = s.fileNames ++ [name] := by
      rw [createFile_of_new (by simpa using hk), fileNames, fileNames, List.map_append,
        List.append_assoc]
      rfl
    rw [createFile_of_new (by simpa using hk)] at hnames ⊢
    constructor
    case names =>
      rw [hnames, ← List.concat_eq_append, List.nodup_concat]
      exact ⟨hnew, h.names⟩
    case words =>
      intro n hn
      rw [hnames, List.mem_append, List.mem_singleton] at hn
      rcases hn with hn | rfl
      · exact h.words n hn
      · exact hw
    case staged => exact h.staged
    case working =>
      intro f hf
      rcases List.mem_append.mp hf with hf | hf
      · exact h.working f hf
      · rw [List.mem_singleton.mp hf]
        exact Or.inl rfl
    case started =>
      rw [hnames]
      exact fun _ _ => List.append_ne_nil_of_right_ne_nil _ (List.cons_ne_nil _ _)

theorem modifyFile (h : s.FilesTidy) (name : String) : (s.modifyFile name).FilesTidy := by
  have hnames := fileNames_modifyFile s name
  constructor
  case names => rw [hnames]; exact h.names
  case words => rw [hnames]; exact h.words
  case staged => exact h.staged
  case working =>
    intro f hf
    obtain ⟨g, hg, rfl⟩ := List.mem_map.mp hf
    split
    · exact Or.inr rfl
    · exact h.working g hg
  case started => rw [hnames]; exact h.started

/-- What is staged was untracked and is now added, or it was modified and still is. -/
theorem stage (h : s.FilesTidy) (names : List String) : (s.stage names).FilesTidy := by
  have hmem : ∀ n, n ∈ (s.stage names).fileNames ↔ n ∈ s.fileNames := fun n => mem_fileNames_stage_iff
  constructor
  case names => exact nodup_fileNames_stage h.names
  case words => exact fun n hn => h.words n ((hmem n).mp hn)
  case staged =>
    intro f hf
    rcases List.mem_append.mp hf with hf | hf
    · exact h.staged f (List.mem_of_mem_filter hf)
    · obtain ⟨g, hg, rfl⟩ := List.mem_map.mp hf
      obtain ⟨n, -, hfound⟩ := List.mem_filterMap.mp hg
      rw [status_stagedForm]
      rcases h.working g (List.mem_of_find?_eq_some hfound) with hst | hst
      · exact Or.inl (if_pos hst)
      · exact Or.inr (by rw [hst]; rfl)
  case working => exact fun f hf => h.working f (List.mem_of_mem_filter hf)
  case started =>
    intro hi hc
    obtain ⟨n, hn⟩ := List.exists_mem_of_ne_nil _ (h.started hi hc)
    exact List.ne_nil_of_mem ((hmem n).mpr hn)

theorem step (h : s.FilesTidy) (hl : s.WellLinked) {ids : IdSource} (hs : Step ids s s') :
    s'.FilesTidy := by
  cases hs with
  | create hu =>
    obtain ⟨-, -, hstaged, -⟩ := hl.unborn hu
    exact create hstaged
  | createFile hw => exact h.createFile hw
  | modifyFile => exact h.modifyFile _
  | stage => exact h.stage _
  | commit =>
    refine h.of_dropped rfl (Or.inl rfl) ?_
    exact List.append_ne_nil_of_right_ne_nil _ (List.cons_ne_nil _ _)
  | merge =>
    refine h.of_same_files rfl rfl fun _ hc => ?_
    exact absurd hc (List.append_ne_nil_of_right_ne_nil _ (List.cons_ne_nil _ _))
  | checkout | checkoutCommit | createBranch | createAndCheckoutBranch | record =>
    exact h.of_same_files rfl rfl fun hi hc => ⟨hi, hc⟩
  | reset hi hp =>
    obtain ⟨⟨c, hc, -⟩, -⟩ := resetParent_eq_some_iff.mp hp
    have hmem : c ∈ s.commits := headCommit_mem hc
    exact h.of_dropped rfl (Or.inr rfl) (List.ne_nil_of_mem hmem)
  | resetAll => exact empty

end FilesTidy
end Snapshot

/-- The files rely on the commit graph, so both are kept together. -/
theorem Session.linked_tidy_runAll (source : Source) (lines : List String) :
    (runAll source {} lines).snapshot.WellLinked ∧ (runAll source {} lines).snapshot.FilesTidy :=
  runAll_keeps (P := fun s => s.WellLinked ∧ s.FilesTidy) ⟨.empty, .empty⟩
    (fun hs h => ⟨h.1.step hs, h.2.step h.1 hs⟩) lines

/-- Whatever lines are run from the beginning, whatever ids and times the source shows: every
file is in one area and there once, under a name that is a word and with a status of its area. -/
theorem Session.filesTidy_runAll (source : Source) (lines : List String) :
    (runAll source {} lines).snapshot.FilesTidy :=
  (linked_tidy_runAll source lines).2

end GitPractice
