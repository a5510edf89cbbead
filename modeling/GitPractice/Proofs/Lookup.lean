import GitPractice.Repo.Transition

/-!
# Look-ups, and what transitions make of them

What a look-up finds, and what a transition makes of the state when its look-up
has found something and when it has not. A transition that looks something up is
opened here and nowhere else; elsewhere it is replaced by its result.
-/

namespace GitPractice
namespace Snapshot

variable {s : Snapshot} {name : String}

/-! ## Branches -/

theorem findBranch_name {b : Branch} (h : s.findBranch name = some b) : b.name = name := by
  simpa using List.find?_some h

theorem findBranch_mem {b : Branch} (h : s.findBranch name = some b) : b ∈ s.branches :=
  List.mem_of_find?_eq_some h

theorem findBranch_eq_none_iff : s.findBranch name = none ↔ ∀ b ∈ s.branches, b.name ≠ name := by
  simp [findBranch]

theorem mergeSource_eq_some_iff {b : Branch} :
    s.mergeSource name = some b ↔
      s.findBranch name = some b ∧ b.name ≠ s.currentBranch ∧ b.commit ≠ "" ∧ s.head ≠ "" := by
  simp [mergeSource, Option.filter_eq_some_iff, and_assoc]

/-- The branch that is made at HEAD under a new name. -/
def branchAtHead (s : Snapshot) (name : String) : Branch :=
  { name, commit := s.head, color := branchColor s.branches.length }

/-- The branch that is made under a new name at `source`, or at HEAD when no commit is given. -/
def branchAt (s : Snapshot) (name : String) (source : Option String) : Branch :=
  { name, commit := if source.getD "" = "" then s.head else source.getD ""
    color := branchColor s.branches.length }

theorem createBranch_eq (h : s.findBranch name = none) (source : Option String) :
    s.createBranch name source = { s with branches := s.branches ++ [s.branchAt name source] } := by
  rw [createBranch, h]
  rfl

theorem createBranch_of_new (h : s.findBranch name = none) :
    s.createBranch name none = { s with branches := s.branches ++ [s.branchAtHead name] } :=
  createBranch_eq h none

theorem createBranch_of_known (h : (s.findBranch name).isSome) (source : Option String) :
    s.createBranch name source = s := by
  obtain ⟨b, hb⟩ := Option.isSome_iff_exists.mp h
  rw [createBranch, hb]

/-- The new branch is the one that is found under its name. -/
theorem createAndCheckoutBranch_of_new (h : s.findBranch name = none) :
    s.createAndCheckoutBranch name =
      { s with
        branches := s.branches ++ [s.branchAtHead name]
        currentBranch := name
        detached := false } := by
  have hfound : (s.createBranch name none).findBranch name = some (s.branchAtHead name) := by
    rw [createBranch_of_new h, findBranch, List.find?_append]
    have hold : s.branches.find? (·.name = name) = none := h
    rw [hold]
    simp [branchAtHead]
  rw [createAndCheckoutBranch, h]
  simp only
  rw [checkout, hfound, createBranch_of_new h]
  rfl

theorem createAndCheckoutBranch_of_known (h : (s.findBranch name).isSome) :
    s.createAndCheckoutBranch name = s := by
  obtain ⟨b, hb⟩ := Option.isSome_iff_exists.mp h
  rw [createAndCheckoutBranch, hb]

theorem checkout_of_found {b : Branch} (h : s.findBranch name = some b) :
    s.checkout name = { s with currentBranch := name, head := b.commit, detached := false } := by
  rw [checkout, h]
  simp only
  rw [findBranch_name h]

theorem checkout_of_none (h : s.findBranch name = none) : s.checkout name = s := by
  rw [checkout, h]

/-! ## Moving the current branch -/

theorem mem_moveCurrent_iff {id : String} {b : Branch} :
    b ∈ s.moveCurrent id ↔
      (b ∈ s.branches ∧ b.name ≠ s.currentBranch) ∨
        ∃ b' ∈ s.branches, b'.name = s.currentBranch ∧ b = { b' with commit := id } := by
  rw [moveCurrent, List.mem_map]
  constructor
  · rintro ⟨b', hb', rfl⟩
    by_cases hn : b'.name = s.currentBranch
    · rw [if_pos hn]
      exact Or.inr ⟨b', hb', hn, rfl⟩
    · rw [if_neg hn]
      exact Or.inl ⟨hb', hn⟩
  · rintro (⟨hb, hn⟩ | ⟨b', hb', hn, rfl⟩)
    · exact ⟨b, hb, if_neg hn⟩
    · exact ⟨b', hb', if_pos hn⟩

theorem map_name_moveCurrent (s : Snapshot) (id : String) :
    (s.moveCurrent id).map (·.name) = s.branches.map (·.name) := by
  rw [moveCurrent, List.map_map]
  refine List.map_congr_left fun b _ => ?_
  show (if b.name = s.currentBranch then { b with commit := id } else b).name = b.name
  split <;> rfl

/-! ## Commits -/

theorem resolve_mem {start : String} {c : Commit} (h : s.resolve start = some c) :
    c ∈ s.commits := by
  rw [resolve] at h
  split at h
  · simp at h
  · exact List.mem_of_find?_eq_some h

theorem checkoutCommit_of_found {start : String} {c : Commit} (h : s.resolve start = some c) :
    s.checkoutCommit start = { s with head := c.id, detached := true, currentBranch := "" } := by
  rw [checkoutCommit, h]

theorem checkoutCommit_of_none {start : String} (h : s.resolve start = none) :
    s.checkoutCommit start = s := by
  rw [checkoutCommit, h]

/-- The commit that is made from the staged files. -/
def commitAtHead (s : Snapshot) (id : String) (now : Timestamp) (message : String) : Commit :=
  { id, message, author := defaultAuthor, timestamp := now, branch := s.currentBranch
    parent := if s.head = "" then none else some s.head }

theorem createsCommit_commit (h : s.staged ≠ []) (message : String) :
    s.createsCommit (.commit message) = true := by
  simp [createsCommit, h]

theorem commit_of_staged (h : s.staged ≠ []) (id : String) (now : Timestamp) (message : String) :
    s.commit id now message =
      { s with
        commits := s.commits ++ [s.commitAtHead id now message]
        head := id
        staged := []
        detached := false
        branches := s.moveCurrent id } := by
  rw [commit, if_neg h]
  rfl

theorem commit_of_nothing_staged (h : s.staged = []) (id : String) (now : Timestamp)
    (message : String) : s.commit id now message = s := by
  rw [commit, if_pos h]

/-- The commit that joins `source` to HEAD. -/
def mergeAtHead (s : Snapshot) (id : String) (now : Timestamp) (source : Branch) : Commit :=
  { id, message := "Merge branch '" ++ source.name ++ "' into " ++ s.currentBranch
    author := defaultAuthor, timestamp := now, branch := s.currentBranch
    parent := some s.head, parents := some [s.head, source.commit], isMerge := true }

theorem merge_of_found {source : Branch} (h : s.mergeSource name = some source) (id : String)
    (now : Timestamp) :
    s.merge id now name =
      { s with
        commits := s.commits ++ [s.mergeAtHead id now source]
        head := id
        branches := s.moveCurrent id } := by
  rw [merge, h]
  rfl

theorem merge_of_none (h : s.mergeSource name = none) (id : String) (now : Timestamp) :
    s.merge id now name = s := by
  rw [merge, h]

theorem reset_of_parent {parent : String} (h : s.resetParent = some parent) (mode : ResetMode) :
    s.reset mode resetTarget =
      { s with
        head := parent
        branches := s.moveCurrent parent
        staged := if mode = .hard then [] else s.staged
        working := if mode = .hard then [] else s.working } := by
  rw [reset, if_neg (absurd rfl), h]

/-- A hard reset either finds nothing to go back to, or goes back to the parent and discards
all files. -/
theorem reset_hard_of_parent {parent : String} (h : s.resetParent = some parent) :
    s.reset .hard resetTarget =
      { s with
        head := parent
        branches := s.moveCurrent parent
        staged := []
        working := [] } :=
  reset_of_parent h .hard

theorem reset_of_no_parent (h : s.resetParent = none) (mode : ResetMode) (target : String) :
    s.reset mode target = s := by
  simp [reset, h]

theorem reset_of_other_target {target : String} (h : target ≠ resetTarget) (mode : ResetMode) :
    s.reset mode target = s := if_pos h

theorem resetParent_eq_some_iff {parent : String} :
    s.resetParent = some parent ↔
      (∃ c, s.headCommit = some c ∧ c.parent = some parent) ∧ parent ≠ "" := by
  simp [resetParent, Option.filter_eq_some_iff, Option.bind_eq_some_iff]

theorem headCommit_mem {c : Commit} (h : s.headCommit = some c) : c ∈ s.commits := by
  rw [headCommit] at h
  split at h
  · simp at h
  · exact List.mem_of_find?_eq_some h

theorem headCommit_id {c : Commit} (h : s.headCommit = some c) : c.id = s.head := by
  rw [headCommit] at h
  split at h
  · cases h
  · simpa using List.find?_some h

/-! ## Files -/

/-- A new file changes the working directory at most. -/
theorem createFile_eq (s : Snapshot) (name : String) :
    s.createFile name = { s with working := (s.createFile name).working } := by
  rw [createFile]
  split <;> rfl

end Snapshot
end GitPractice
