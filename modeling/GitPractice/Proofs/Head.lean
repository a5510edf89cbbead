import GitPractice.Proofs.CommitGraph

/-!
# HEAD and the branches

Where HEAD stands is kept in four places at once: the name of the current
branch, the commit under HEAD, the mark that HEAD is detached, and the pointer
of the current branch. After every run they agree. A commit made while HEAD is
detached takes the mark away without putting HEAD on a branch, so "not
detached" does not say that there is a current branch; what does hold then is
that HEAD stands on a commit.

The invariant needs the one of the commit graph for the names of the branches
and for the repository that is not set up yet, and it needs branch names that
are not empty, since the empty name is that of no branch.
-/

namespace GitPractice
namespace Snapshot

structure HeadCoherent (s : Snapshot) : Prop where
  /-- Exactly one branch is the current one, and it points where HEAD does. -/
  attached : s.currentBranch ≠ "" → s.detached = false ∧
    ∃ b, s.branches.filter (·.name = s.currentBranch) = [b] ∧ b.commit = s.head
  detached : s.detached = true → s.currentBranch = "" ∧ s.head ∈ s.commitIds
  unattached : s.initialized = true → s.currentBranch = "" → s.head ∈ s.commitIds
  commits : ∀ c ∈ s.commits, c.branch = "" ∨ c.branch ∈ s.branches.map (·.name)

/-! ## Names of branches -/

/-- Every branch is named by a word. -/
def WellNamed (s : Snapshot) : Prop := ∀ name ∈ s.branches.map (·.name), Text.IsWord name

theorem isWord_defaultBranch : Text.IsWord defaultBranch := by decide +kernel

namespace WellNamed

variable {s s' : Snapshot}

theorem of_mem (h : s.WellNamed) {b : Branch} (hb : b ∈ s.branches) : Text.IsWord b.name :=
  h b.name (List.mem_map_of_mem hb)

theorem branchAtHead (h : s.WellNamed) {name : String} (hw : Text.IsWord name) :
    ∀ n ∈ (s.branches ++ [s.branchAtHead name]).map (·.name), Text.IsWord n := by
  intro n hn
  rw [List.map_append, List.mem_append] at hn
  rcases hn with hn | hn
  · exact h n hn
  · rw [List.map_singleton, List.mem_singleton] at hn
    rw [hn]
    exact hw

theorem step (h : s.WellNamed) {ids : IdSource} (hs : Step ids s s') : s'.WellNamed := by
  cases hs with
  | create =>
    intro n hn
    rw [List.mem_singleton.mp hn]
    exact isWord_defaultBranch
  | createFile =>
    rw [createFile_eq]
    exact h
  | modifyFile | stage | checkout | checkoutCommit | record => exact h
  | commit | merge | reset =>
    rw [WellNamed, map_name_moveCurrent]
    exact h
  | createBranch _ hw | createAndCheckoutBranch _ hw => exact h.branchAtHead hw
  | resetAll =>
    intro n hn
    cases hn

end WellNamed

/-! ## Standing on a branch, and standing on a commit -/

/-- With different keys, an entry is the only one with its key. -/
theorem filter_eq_singleton {α : Type} {f : α → String} {xs : List α} (hn : (xs.map f).Nodup)
    {x : α} (hx : x ∈ xs) : xs.filter (f · = f x) = [x] := by
  obtain ⟨before, after, rfl⟩ := List.append_of_mem hx
  rw [List.map_append, List.map_cons, List.nodup_middle, List.nodup_cons, ← List.map_append] at hn
  have hother : ∀ y ∈ before ++ after, f y ≠ f x :=
    fun y hy he => hn.1 (he ▸ List.mem_map_of_mem hy)
  have hbefore : before.filter (f · = f x) = [] := by
    rw [List.filter_eq_nil_iff]
    exact fun y hy => by simpa using hother y (List.mem_append_left _ hy)
  have hafter : after.filter (f · = f x) = [] := by
    rw [List.filter_eq_nil_iff]
    exact fun y hy => by simpa using hother y (List.mem_append_right _ hy)
  rw [List.filter_append, hbefore, List.filter_cons_of_pos (by simp), hafter]
  rfl

theorem find?_of_nodup {α : Type} {f : α → String} {xs : List α} (hn : (xs.map f).Nodup) {x : α} (hx : x ∈ xs) :
    xs.find? (f · = f x) = some x := by
  rw [← List.head?_filter, filter_eq_singleton hn hx]
  rfl

namespace HeadCoherent

variable {s s' : Snapshot}

theorem of_onBranch (hl : s.WellLinked) {b : Branch} (hb : b ∈ s.branches)
    (hn : b.name = s.currentBranch) (hne : s.currentBranch ≠ "") (hp : b.commit = s.head)
    (hd : s.detached = false)
    (hc : ∀ c ∈ s.commits, c.branch = "" ∨ c.branch ∈ s.branches.map (·.name)) :
    s.HeadCoherent where
  attached := fun _ => ⟨hd, b, hn ▸ filter_eq_singleton (f := (·.name)) hl.names hb, hp⟩
  detached := by
    intro h
    rw [hd] at h
    cases h
  unattached := fun _ he => absurd he hne
  commits := hc

theorem of_onCommit (he : s.currentBranch = "") (hh : s.head ∈ s.commitIds)
    (hc : ∀ c ∈ s.commits, c.branch = "" ∨ c.branch ∈ s.branches.map (·.name)) :
    s.HeadCoherent where
  attached := fun hne => absurd he hne
  detached := fun _ => ⟨he, hh⟩
  unattached := fun _ _ => hh
  commits := hc

theorem exists_current (h : s.HeadCoherent) (hne : s.currentBranch ≠ "") :
    s.detached = false ∧ ∃ b ∈ s.branches, b.name = s.currentBranch ∧ b.commit = s.head := by
  obtain ⟨hd, b, hb, hp⟩ := h.attached hne
  have hmem : b ∈ s.branches.filter (·.name = s.currentBranch) := by
    rw [hb]
    exact List.mem_singleton_self b
  rw [List.mem_filter] at hmem
  exact ⟨hd, b, hmem.1, by simpa using hmem.2, hp⟩

/-- The branch that a new commit is put down for is a known one. -/
theorem current_known (h : s.HeadCoherent) :
    s.currentBranch = "" ∨ s.currentBranch ∈ s.branches.map (·.name) := by
  by_cases hne : s.currentBranch = ""
  · exact Or.inl hne
  · obtain ⟨-, b, hb, hn, -⟩ := h.exists_current hne
    exact Or.inr (hn ▸ List.mem_map_of_mem hb)

/-! ## Steps -/

/-- A new branch leaves no commit without the one it was made on. -/
theorem commits_branchAtHead (h : s.HeadCoherent) (name : String) :
    ∀ c ∈ s.commits, c.branch = "" ∨
      c.branch ∈ (s.branches ++ [s.branchAtHead name]).map (·.name) := by
  intro c hc
  rw [List.map_append]
  exact (h.commits c hc).imp_right (List.mem_append_left _)

theorem empty : Snapshot.empty.HeadCoherent where
  attached := fun h => absurd rfl h
  detached := by simp [Snapshot.empty]
  unattached := by simp [Snapshot.empty]
  commits := by simp [Snapshot.empty]

/-- Commits, merges and resets move HEAD and the current branch together, so that whether HEAD is
on a branch stays as it was. -/
theorem of_moved (h : s.HeadCoherent) (hl' : s'.WellLinked)
    (hcurrent : s'.currentBranch = s.currentBranch)
    (hd : s'.detached = true → s.detached = true) (hb : s'.branches = s.moveCurrent s'.head)
    (hh : s'.head ∈ s'.commitIds)
    (hc : ∀ c ∈ s'.commits, c ∈ s.commits ∨ c.branch = s.currentBranch) : s'.HeadCoherent := by
  have hnames : s'.branches.map (·.name) = s.branches.map (·.name) := by
    rw [hb, map_name_moveCurrent]
  have hcommits : ∀ c ∈ s'.commits, c.branch = "" ∨ c.branch ∈ s'.branches.map (·.name) := by
    intro c hmem
    rw [hnames]
    rcases hc c hmem with hold | hnew
    · exact h.commits c hold
    · rw [hnew]
      exact h.current_known
  by_cases hne : s.currentBranch = ""
  · exact of_onCommit (hcurrent.trans hne) hh hcommits
  · obtain ⟨hattached, b, hmem, hn, -⟩ := h.exists_current hne
    have hmoved : { b with commit := s'.head } ∈ s'.branches := by
      rw [hb, mem_moveCurrent_iff]
      exact Or.inr ⟨b, hmem, hn, rfl⟩
    refine of_onBranch hl' hmoved (hn.trans hcurrent.symm) (hcurrent ▸ hne) rfl ?_ hcommits
    cases hs' : s'.detached with
    | false => rfl
    | true => rw [hd hs'] at hattached; cases hattached

/-- A commit or a merge puts its commit down for the current branch. -/
theorem of_pushed (h : s.HeadCoherent) (hl' : s'.WellLinked)
    (hcurrent : s'.currentBranch = s.currentBranch)
    (hd : s'.detached = true → s.detached = true) {new : Commit}
    (hc : s'.commits = s.commits ++ [new]) (hh : s'.head = new.id)
    (hb : s'.branches = s.moveCurrent new.id) (hnew : new.branch = s.currentBranch) :
    s'.HeadCoherent := by
  refine h.of_moved hl' hcurrent hd (hh ▸ hb) ?_ ?_
  · rw [hh, commitIds, hc]
    exact List.mem_map_of_mem List.mem_concat_self
  · intro c hmem
    rw [hc, List.mem_append, List.mem_singleton] at hmem
    rcases hmem with hold | rfl
    · exact Or.inl hold
    · exact Or.inr hnew

theorem step (h : s.HeadCoherent) (hl : s.WellLinked) (hw : s.WellNamed) {ids : IdSource}
    (hs : Step ids s s') : s'.HeadCoherent := by
  have hl' := hl.step hs
  cases hs with
  | create hu =>
    obtain ⟨hcommits, -, -, hhead⟩ := hl.unborn hu
    refine of_onBranch hl' List.mem_cons_self rfl isWord_defaultBranch.1 hhead.symm rfl ?_
    intro c hc
    rw [show s.create.commits = s.commits from rfl, hcommits] at hc
    cases hc
  | createFile =>
    rw [createFile_eq]
    exact ⟨h.attached, h.detached, h.unattached, h.commits⟩
  | modifyFile | stage | record => exact ⟨h.attached, h.detached, h.unattached, h.commits⟩
  | commit => exact h.of_pushed hl' rfl (fun hd => by cases hd) rfl rfl rfl rfl
  | checkout hi hb =>
    have hmem := findBranch_mem hb
    exact of_onBranch hl' hmem rfl (hw.of_mem hmem).1 rfl rfl h.commits
  | checkoutCommit hi hc =>
    exact of_onCommit rfl (List.mem_map_of_mem (resolve_mem hc)) h.commits
  | createBranch hi =>
    by_cases hne : s.currentBranch = ""
    · exact of_onCommit hne (h.unattached hi hne) (h.commits_branchAtHead _)
    · obtain ⟨hd, b, hmem, hn, hp⟩ := h.exists_current hne
      exact of_onBranch hl' (List.mem_append_left _ hmem) hn hne hp hd (h.commits_branchAtHead _)
  | createAndCheckoutBranch hi hword =>
    exact of_onBranch hl' List.mem_concat_self rfl hword.1 rfl rfl (h.commits_branchAtHead _)
  | merge => exact h.of_pushed hl' rfl id rfl rfl rfl rfl
  | reset hi hp => exact h.of_moved hl' rfl id rfl (hl.mem_of_resetParent hp) fun c hc => Or.inl hc
  | resetAll => exact empty

end HeadCoherent

/-- What every repository has that comes about by running lines. -/
structure Sound (s : Snapshot) : Prop where
  linked : s.WellLinked
  named : s.WellNamed
  coherent : s.HeadCoherent

namespace Sound

theorem empty : Snapshot.empty.Sound where
  linked := .empty
  named := fun _ h => by cases h
  coherent := .empty

theorem step {s s' : Snapshot} (h : s.Sound) {ids : IdSource} (hs : Step ids s s') : s'.Sound where
  linked := h.linked.step hs
  named := h.named.step hs
  coherent := h.coherent.step h.linked h.named hs

end Sound
end Snapshot

namespace Session

theorem sound_runAll (source : Source) (lines : List String) :
    (runAll source {} lines).snapshot.Sound :=
  runAll_keeps .empty (fun hs h => h.step hs) lines

/-- Whatever lines are run from the beginning, whatever ids and times the source shows: the four
places that say where HEAD stands agree. -/
theorem headCoherent_runAll (source : Source) (lines : List String) :
    (runAll source {} lines).snapshot.HeadCoherent :=
  (sound_runAll source lines).coherent

end Session
end GitPractice
