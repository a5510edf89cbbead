import GitPractice.Proofs.Staging

/-!
# Staging more than once

Names may be staged at once or in several requests: what an earlier request has moved is no longer in the
working directory, so a later one passes it over, and the entries stand in the order in which they were
named. Only a later request for all files is different, as it moves the rest in the order of the working
directory.

This holds of every snapshot, also where a name is listed twice or stands in both areas. A request
then takes the first working entry of the name and drops the others, together with the entry that was staged
before. What it does not mean stays as it is (`staging_composes`).
-/

namespace GitPractice
namespace Snapshot

variable {s : Snapshot} {names more moving : List String} {name : String}

/-! ## Moving names -/

/-- The first working entry of each name is staged, in the order of the names. -/
def moveToStaged (s : Snapshot) (moving : List String) : Snapshot :=
  { s with
    staged := s.staged.filter (fun f => f.name ∉ moving) ++ (moving.filterMap s.workingFile).map stagedForm
    working := s.working.filter (fun f => f.name ∉ moving) }

theorem stage_eq_moveToStaged (s : Snapshot) (names : List String) :
    s.stage names = s.moveToStaged (s.namesToStage names) := rfl

theorem filter_not_mem_append (files : List FileEntry) (moving more : List String) :
    files.filter (fun f => f.name ∉ moving ++ more) =
      (files.filter fun f => f.name ∉ moving).filter fun f => f.name ∉ more := by
  rw [List.filter_filter]
  refine List.filter_congr fun f _ => ?_
  simp [Bool.and_comm]

/-- What was moved is not found any more, and all else is found as before. -/
theorem workingFile_moveToStaged (s : Snapshot) (moving : List String) (name : String) :
    (s.moveToStaged moving).workingFile name = if name ∈ moving then none else s.workingFile name := by
  show (s.working.filter fun f => f.name ∉ moving).find? (·.name = name) = _
  rw [List.find?_filter]
  by_cases hmoved : name ∈ moving
  · rw [if_pos hmoved, List.find?_eq_none]
    intro f _ hf
    obtain ⟨hkept, rfl⟩ : f.name ∉ moving ∧ f.name = name := by simpa using hf
    exact hkept hmoved
  · rw [if_neg hmoved, workingFile]
    congr 1
    funext f
    by_cases hname : f.name = name
    · simp [hname, hmoved]
    · simp [hname]

theorem moveToStaged_append (hfound : ∀ n ∈ moving, (s.workingFile n).isSome) (hmore : ∀ n ∈ more, n ∉ moving) :
    (s.moveToStaged moving).moveToStaged more = s.moveToStaged (moving ++ more) := by
  -- The entries that were moved first have other names, so they stay where they are.
  have hkept : (((moving.filterMap s.workingFile).map stagedForm).filter fun f => f.name ∉ more) =
      (moving.filterMap s.workingFile).map stagedForm := by
    refine List.filter_eq_self.mpr fun f hf => ?_
    have hname := List.mem_map_of_mem (f := (·.name)) hf
    rw [map_name_moved hfound] at hname
    simpa using fun hmem => hmore f.name hmem hname
  have hsame : more.filterMap (s.moveToStaged moving).workingFile = more.filterMap s.workingFile :=
    List.filterMap_congr fun n hn => by rw [workingFile_moveToStaged, if_neg (hmore n hn)]
  rw [moveToStaged, hsame, moveToStaged, moveToStaged]
  simp only [List.filter_append, hkept, filter_not_mem_append, List.filterMap_append, List.map_append,
    List.append_assoc]

/-! ## Two requests -/

theorem mem_working_stage_iff :
    name ∈ (s.stage names).working.map (·.name) ↔
      name ∈ s.working.map (·.name) ∧ name ∉ s.namesToStage names := by
  rw [map_name_working_stage, List.mem_filter, decide_eq_true_iff]

/-- A request leaves nothing for a second one that means no other files. -/
theorem namesToStage_stage_of_covered (h : stageAll ∈ names ∨ (stageAll ∉ more ∧ more ⊆ names)) :
    (s.stage names).namesToStage more = [] := by
  refine List.eq_nil_iff_forall_not_mem.mpr fun name hname => ?_
  rw [mem_namesToStage_iff, mem_working_stage_iff, mem_namesToStage_iff] at hname
  obtain ⟨⟨hworking, hleft⟩, hmore⟩ := hname
  refine hleft ⟨hworking, ?_⟩
  rcases h with hall | ⟨hsome, hsub⟩
  · exact Or.inl hall
  · exact Or.inr (hsub (hmore.resolve_left hsome))

/-- Both together mean what the first one means, and then what the second one finds after it. -/
theorem namesToStage_append (hmore : stageAll ∉ more) :
    s.namesToStage (names ++ more) = s.namesToStage names ++ (s.stage names).namesToStage more := by
  by_cases hall : stageAll ∈ names
  · rw [namesToStage_stage_of_covered (Or.inl hall), List.append_nil, namesToStage, namesToStage, if_pos hall,
      if_pos (List.mem_append_left _ hall)]
  · have hsome : stageAll ∉ names ++ more := by simp [hall, hmore]
    have hleft : (more.filter fun n => (s.workingFile n).isSome).removeAll
        (names.filter fun n => (s.workingFile n).isSome) =
        more.filter fun n => ((s.stage names).workingFile n).isSome := by
      rw [List.removeAll, List.filter_filter]
      refine List.filter_congr fun n _ => ?_
      rw [stage_eq_moveToStaged, workingFile_moveToStaged, namesToStage, if_neg hall]
      by_cases hn : n ∈ names
      · cases hfound : s.workingFile n <;> simp [hn, hfound]
      · simp [hn]
    rw [namesToStage, if_neg hsome, List.filter_append, List.eraseDups_append, hleft, namesToStage, if_neg hall,
      namesToStage, if_neg hmore]

theorem stage_stage (hmore : stageAll ∉ more) : (s.stage names).stage more = s.stage (names ++ more) := by
  have hfound : ∀ n ∈ s.namesToStage names, (s.workingFile n).isSome := fun n hn =>
    workingFile_isSome_iff.mpr (mem_namesToStage_iff.mp hn).1
  have hleft : ∀ n ∈ (s.stage names).namesToStage more, n ∉ s.namesToStage names := fun n hn =>
    (mem_working_stage_iff.mp (mem_namesToStage_iff.mp hn).1).2
  calc (s.stage names).stage more
      = (s.moveToStaged (s.namesToStage names)).moveToStaged ((s.stage names).namesToStage more) := rfl
    _ = s.moveToStaged (s.namesToStage names ++ (s.stage names).namesToStage more) := moveToStaged_append hfound hleft
    _ = s.stage (names ++ more) := by rw [← namesToStage_append hmore, stage_eq_moveToStaged]

theorem stage_again (s : Snapshot) (names : List String) : (s.stage names).stage names = s.stage names := by
  refine stage_of_nothing (namesToStage_stage_of_covered ?_)
  by_cases hall : stageAll ∈ names
  · exact Or.inl hall
  · exact Or.inr ⟨hall, List.Subset.refl _⟩

/-! ## What a request leaves alone -/

/-- A request to stage `names` means this name. -/
def Means (s : Snapshot) (names : List String) (name : String) : Prop :=
  name ∈ s.working.map (·.name) ∧ (stageAll ∈ names ∨ name ∈ names)

instance (s : Snapshot) (names : List String) (name : String) : Decidable (s.Means names name) :=
  inferInstanceAs (Decidable (_ ∧ _))

/-- In `s'` the files that are meant have been moved, and all else is as it was. -/
structure MovedTo (s : Snapshot) (names : List String) (s' : Snapshot) : Prop where
  once : ∀ name, s.Means names name →
    (s'.staged.map (·.name)).count name = 1 ∧ name ∉ s'.working.map (·.name)
  /-- It is the first entry of the name that is staged, and one that was untracked is added. -/
  entry : ∀ name, s.Means names name → ∀ f, s.workingFile name = some f → stagedForm f ∈ s'.staged
  staged : (s'.staged.filter fun f => ¬ s.Means names f.name) = s.staged.filter fun f => ¬ s.Means names f.name
  working : s'.working = s.working.filter fun f => ¬ s.Means names f.name
  rest : s' = { s with staged := s'.staged, working := s'.working }

theorem movedTo_stage (s : Snapshot) (names : List String) : s.MovedTo names (s.stage names) := by
  have hmeans {n : String} : s.Means names n ↔ n ∈ s.namesToStage names := mem_namesToStage_iff.symm
  have hmoved : ∀ n ∈ s.namesToStage names, (s.workingFile n).isSome := fun n hn =>
    workingFile_isSome_iff.mpr (mem_namesToStage_iff.mp hn).1
  constructor
  case once =>
    intro n hn
    rw [hmeans] at hn
    exact ⟨count_staged_stage hn, fun hleft => (mem_working_stage_iff.mp hleft).2 hn⟩
  case entry =>
    intro n hn f hf
    have hmem : f ∈ (s.namesToStage names).filterMap s.workingFile :=
      List.mem_filterMap.mpr ⟨n, hmeans.mp hn, hf⟩
    exact List.mem_append_right _ (List.mem_map_of_mem hmem)
  case staged =>
    have hnone : (((s.namesToStage names).filterMap s.workingFile).map stagedForm).filter
        (fun f => f.name ∉ s.namesToStage names) = [] := by
      refine List.filter_eq_nil_iff.mpr fun f hf => ?_
      have hname := List.mem_map_of_mem (f := (·.name)) hf
      rw [map_name_moved hmoved] at hname
      simpa using hname
    simp only [hmeans]
    rw [stage, List.filter_append, hnone, List.append_nil, List.filter_filter]
    simp only [Bool.and_self]
  case working =>
    simp only [hmeans]
    rfl
  case rest => rfl

/-- Staging, in every snapshot. To name files in two requests is to name them in one, in this order, and to
repeat a request does nothing. No name comes or goes. A request moves each name that it means, so that it is
staged once and nowhere else, and leaves all other entries as they are; when it means all files,
none is left in the working directory. -/
theorem staging_composes (s : Snapshot) :
    (∀ names more, stageAll ∉ more → (s.stage names).stage more = s.stage (names ++ more)) ∧
      (∀ names, (s.stage names).stage names = s.stage names) ∧
      (∀ names name, name ∈ (s.stage names).fileNames ↔ name ∈ s.fileNames) ∧
      (∀ names, s.MovedTo names (s.stage names)) ∧
      (∀ names, stageAll ∈ names → (s.stage names).working = [] ∧
        ∀ name ∈ s.working.map (·.name), ((s.stage names).staged.map (·.name)).count name = 1) := by
  refine ⟨fun _ _ hmore => stage_stage hmore, stage_again s, fun _ _ => mem_fileNames_stage_iff, movedTo_stage s,
    fun names hall => ?_⟩
  have hmoved := movedTo_stage s names
  have hmeans : ∀ name ∈ s.working.map (·.name), s.Means names name := fun name hname => ⟨hname, Or.inl hall⟩
  refine ⟨?_, fun name hname => (hmoved.once name (hmeans name hname)).1⟩
  rw [hmoved.working, List.filter_eq_nil_iff]
  intro f hf
  simpa using hmeans f.name (List.mem_map_of_mem hf)

/-- Names that are listed twice and in both areas, named twice and beside one that is not known. -/
theorem staging_composes_of_repeated :
    let s : Snapshot :=
      { staged := [{ name := "a", status := .deleted }, { name := "c", status := .added }]
        working := [{ name := "a", status := .modified }, { name := "b" }, { name := "a" }, { name := "d" }] }
    stageAll ∉ ["b", "a", "x"] ∧
      (s.stage ["b", "b", "x"]).stage ["b", "a", "x"] = s.stage ["b", "b", "x", "b", "a", "x"] ∧
      ((s.stage ["b", "b", "x"]).stage ["b", "a", "x"]).staged =
        [{ name := "c", status := .added }, { name := "b", status := .added },
          { name := "a", status := .modified }] ∧
      stageAll ∈ ["x", "."] ∧ (s.stage ["x", "."]).working = [] := by
  intro s
  obtain ⟨hcomposes, -, -, -, hall⟩ := staging_composes s
  have hmore : stageAll ∉ ["b", "a", "x"] := by decide +kernel
  have hdot : stageAll ∈ ["x", "."] := by decide +kernel
  exact ⟨hmore, hcomposes ["b", "b", "x"] _ hmore, by decide +kernel, hdot, (hall _ hdot).1⟩

end Snapshot
end GitPractice
