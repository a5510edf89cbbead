import GitPractice.Proofs.Lookup
import Mathlib.Data.List.Nodup

/-!
# Staging

What `stage` does to names. The names that are meant by a request are moved to
the end of the staging area, each once, however often it stands in the working
directory or was staged before.
-/

namespace GitPractice
namespace Snapshot

/-- Each text of the list is left once. -/
theorem nodup_eraseDups (names : List String) : names.eraseDups.Nodup := by
  match names with
  | [] => exact List.nodup_nil
  | name :: names =>
    rw [List.eraseDups_cons, List.nodup_cons]
    refine ⟨?_, nodup_eraseDups _⟩
    rw [List.mem_eraseDups, List.mem_filter]
    simp
termination_by names.length
decreasing_by exact Nat.lt_succ_of_le (List.length_filter_le _ _)

theorem eraseDups_of_nodup {names : List String} (h : names.Nodup) : names.eraseDups = names := by
  induction names with
  | nil => rfl
  | cons name names ih =>
    obtain ⟨hnew, hrest⟩ := List.nodup_cons.mp h
    have hkept : names.filter (fun n => !n == name) = names := by
      rw [List.filter_eq_self]
      intro n hn
      simpa using fun he : n = name => hnew (he ▸ hn)
    rw [List.eraseDups_cons, hkept, ih hrest]

variable {s : Snapshot} {names : List String} {name : String}

theorem workingFile_isSome_iff :
    (s.workingFile name).isSome ↔ name ∈ s.working.map (·.name) := by
  simp [workingFile, List.find?_isSome]

theorem workingFile_name {f : FileEntry} (h : s.workingFile name = some f) : f.name = name := by
  simpa using List.find?_some h

theorem nodup_namesToStage (s : Snapshot) (names : List String) :
    (s.namesToStage names).Nodup := by
  rw [namesToStage]
  split <;> exact nodup_eraseDups _

theorem mem_namesToStage_iff :
    name ∈ s.namesToStage names ↔
      name ∈ s.working.map (·.name) ∧ (stageAll ∈ names ∨ name ∈ names) := by
  rw [namesToStage]
  split
  · next hall => simp [hall]
  · next hall =>
    rw [List.mem_eraseDups, List.mem_filter, workingFile_isSome_iff]
    simp [hall, and_comm]

theorem name_stagedForm (f : FileEntry) : (stagedForm f).name = f.name := by
  rw [stagedForm]
  split <;> rfl

/-- What is moved bears the names that were meant, in their order. -/
theorem map_name_moved (h : ∀ n ∈ names, (s.workingFile n).isSome) :
    ((names.filterMap s.workingFile).map stagedForm).map (·.name) = names := by
  induction names with
  | nil => rfl
  | cons n names ih =>
    obtain ⟨f, hf⟩ := Option.isSome_iff_exists.mp (h n List.mem_cons_self)
    rw [List.filterMap_cons_some hf, List.map_cons, List.map_cons,
      ih fun m hm => h m (List.mem_cons_of_mem n hm)]
    rw [name_stagedForm, workingFile_name hf]

theorem map_name_staged_stage (s : Snapshot) (names : List String) :
    (s.stage names).staged.map (·.name) =
      (s.staged.filter fun f => f.name ∉ s.namesToStage names).map (·.name) ++
        s.namesToStage names := by
  have hmoved : ∀ n ∈ s.namesToStage names, (s.workingFile n).isSome :=
    fun n hn => workingFile_isSome_iff.mpr (mem_namesToStage_iff.mp hn).1
  rw [stage, List.map_append, map_name_moved hmoved]

/-- A name that is meant is staged exactly once. -/
theorem count_staged_stage (h : name ∈ s.namesToStage names) :
    ((s.stage names).staged.map (·.name)).count name = 1 := by
  have hkept : name ∉ (s.staged.filter fun f => f.name ∉ s.namesToStage names).map (·.name) := by
    intro hmem
    obtain ⟨f, hf, rfl⟩ := List.mem_map.mp hmem
    have := (List.mem_filter.mp hf).2
    simp [h] at this
  rw [map_name_staged_stage, List.count_append, List.count_eq_zero_of_not_mem hkept,
    List.count_eq_one_of_mem (nodup_namesToStage s names) h]

theorem stage_of_nothing (h : s.namesToStage names = []) : s.stage names = s := by
  have hall (fs : List FileEntry) : fs.filter (fun f => f.name ∉ s.namesToStage names) = fs := by
    rw [List.filter_eq_self, h]
    simp
  simp only [stage]
  rw [hall, hall, h]
  simp

/-! ## Files of both areas -/

/-- The names of all files, those of the staged ones first. -/
def fileNames (s : Snapshot) : List String := s.staged.map (·.name) ++ s.working.map (·.name)

theorem hasFile_iff : s.hasFile name = true ↔ name ∈ s.fileNames := by
  simp [hasFile, fileNames, workingFile, stagedFile, List.find?_isSome, or_comm]

theorem createFile_of_known (h : s.hasFile name = true) : s.createFile name = s := by
  rw [createFile, if_pos h]

theorem createFile_of_new (h : s.hasFile name = false) :
    s.createFile name = { s with working := s.working ++ [{ name }] } := by
  rw [createFile, if_neg (by simp [h])]

theorem fileNames_modifyFile (s : Snapshot) (name : String) :
    (s.modifyFile name).fileNames = s.fileNames := by
  have hworking : (s.modifyFile name).working.map (·.name) = s.working.map (·.name) := by
    rw [modifyFile, List.map_map]
    refine List.map_congr_left fun f _ => ?_
    show (if f.name = name then { f with status := .modified } else f : FileEntry).name = f.name
    split <;> rfl
  rw [fileNames, hworking]
  rfl

theorem status_stagedForm (f : FileEntry) :
    (stagedForm f).status = if f.status = .untracked then .added else f.status := by
  rw [stagedForm]
  split <;> rfl

theorem map_name_working_stage (s : Snapshot) (names : List String) :
    (s.stage names).working.map (·.name) =
      (s.working.map (·.name)).filter (· ∉ s.namesToStage names) := by
  rw [List.filter_map]
  rfl

/-- Staging moves files and neither makes nor drops one. -/
theorem mem_fileNames_stage_iff :
    name ∈ (s.stage names).fileNames ↔ name ∈ s.fileNames := by
  have hworking : name ∈ s.namesToStage names → name ∈ s.working.map (·.name) :=
    fun h => (mem_namesToStage_iff.mp h).1
  rw [fileNames, fileNames, map_name_staged_stage, map_name_working_stage, List.mem_append,
    List.mem_append, List.mem_append, List.mem_filter, decide_eq_true_iff]
  by_cases hmoving : name ∈ s.namesToStage names
  · simp [hmoving, hworking hmoving]
  · have hkept : name ∈ (s.staged.filter fun f => f.name ∉ s.namesToStage names).map (·.name) ↔
        name ∈ s.staged.map (·.name) := by
      rw [List.mem_map, List.mem_map]
      constructor
      · rintro ⟨f, hf, rfl⟩
        exact ⟨f, List.mem_of_mem_filter hf, rfl⟩
      · rintro ⟨f, hf, rfl⟩
        exact ⟨f, List.mem_filter.mpr ⟨hf, by simpa using hmoving⟩, rfl⟩
    simp only [hkept, hmoving, or_false, not_false_eq_true, and_true]

theorem nodup_fileNames_stage (h : s.fileNames.Nodup) : (s.stage names).fileNames.Nodup := by
  obtain ⟨hstaged, hworking, hapart⟩ := List.nodup_append.mp h
  rw [fileNames, map_name_staged_stage, map_name_working_stage, List.nodup_append, List.nodup_append]
  refine ⟨⟨hstaged.sublist (List.filter_sublist.map _), nodup_namesToStage s names, ?_⟩,
    hworking.filter _, ?_⟩
  · rintro n hkept _ hmoving rfl
    obtain ⟨f, hf, rfl⟩ := List.mem_map.mp hkept
    have := (List.mem_filter.mp hf).2
    simp [hmoving] at this
  · rintro n hn _ hm rfl
    obtain ⟨hm, hnot⟩ := List.mem_filter.mp hm
    rcases List.mem_append.mp hn with hkept | hmoving
    · obtain ⟨f, hf, rfl⟩ := List.mem_map.mp hkept
      exact hapart f.name (List.mem_map_of_mem (List.mem_of_mem_filter hf)) f.name hm rfl
    · simp [hmoving] at hnot

end Snapshot
end GitPractice
