import GitPractice.Proofs.Run
import Mathlib.Data.List.Nodup

/-!
# The commit graph

In every repository that comes about by running lines, commits have different
ids and refer to earlier commits only, and so do HEAD and the branches. The
position of a commit in the list of commits is therefore a measure that falls
along every parent, and no commit is among its own ancestors.

`WellLinked` is kept by each step as it stands. The part about a repository that
is not set up yet is needed for `git init`, which would otherwise put a branch
without a commit beside a HEAD that has one.
-/

namespace GitPractice

/-- A commit refers to nothing but `earlier` ids. Both parents are known of a merge and of no
other commit, and the first of them is the parent. -/
structure Commit.LinkedTo (earlier : List String) (c : Commit) : Prop where
  parent : ∀ p, c.parent = some p → p ∈ earlier
  isMerge : c.isMerge = true ↔ c.parents ≠ none
  parents : ∀ ps, c.parents = some ps →
    ∃ p q, ps = [p, q] ∧ c.parent = some p ∧ p ∈ earlier ∧ q ∈ earlier

theorem Commit.LinkedTo.mono {earlier known : List String} {c : Commit} (h : c.LinkedTo earlier)
    (hsub : earlier ⊆ known) : c.LinkedTo known where
  parent := fun p hp => hsub (h.parent p hp)
  isMerge := h.isMerge
  parents := by
    intro ps hps
    obtain ⟨p, q, hlist, hparent, hp, hq⟩ := h.parents ps hps
    exact ⟨p, q, hlist, hparent, hsub hp, hsub hq⟩

namespace Snapshot

/-- The pointer is that of an existing commit, or it points nowhere yet. -/
def Points (s : Snapshot) (id : String) : Prop := id = "" ∨ id ∈ s.commitIds

structure WellLinked (s : Snapshot) : Prop where
  ids : s.commitIds.Nodup
  linked : ∀ before c after, s.commits = before ++ c :: after →
    c.LinkedTo (before.map (·.id))
  head : s.Points s.head
  branches : ∀ b ∈ s.branches, s.Points b.commit
  names : (s.branches.map (·.name)).Nodup
  unborn : s.initialized = false →
    s.commits = [] ∧ s.branches = [] ∧ s.staged = [] ∧ s.head = ""

/-- One commit names the other as its parent or as one of its parents. -/
def HasParent (s : Snapshot) (child parent : String) : Prop :=
  ∃ c ∈ s.commits, c.id = child ∧ (c.parent = some parent ∨ ∃ ps ∈ c.parents, parent ∈ ps)

namespace WellLinked

variable {s s' : Snapshot}

theorem head_mem (h : s.WellLinked) (hhead : s.head ≠ "") : s.head ∈ s.commitIds :=
  h.head.resolve_left hhead

theorem initialized_of_head (h : s.WellLinked) (hhead : s.head ≠ "") : s.initialized = true := by
  cases hi : s.initialized with
  | true => rfl
  | false => exact absurd (h.unborn hi).2.2.2 hhead

theorem initialized_of_branch (h : s.WellLinked) {b : Branch} (hb : b ∈ s.branches) : s.initialized = true := by
  cases hi : s.initialized with
  | true => rfl
  | false =>
    rw [(h.unborn hi).2.1] at hb
    cases hb

theorem initialized_of_commit (h : s.WellLinked) {c : Commit} (hc : c ∈ s.commits) : s.initialized = true := by
  cases hi : s.initialized with
  | true => rfl
  | false =>
    rw [(h.unborn hi).1] at hc
    cases hc

/-! ## Ancestors -/

theorem linkedTo_commitIds (h : s.WellLinked) {c : Commit} (hc : c ∈ s.commits) :
    c.LinkedTo s.commitIds := by
  obtain ⟨before, after, hsplit⟩ := List.append_of_mem hc
  refine (h.linked before c after hsplit).mono ?_
  rw [commitIds, hsplit, List.map_append]
  exact List.subset_append_left _ _

theorem idxOf_lt_of_hasParent (h : s.WellLinked) {child parent : String}
    (hp : s.HasParent child parent) :
    s.commitIds.idxOf parent < s.commitIds.idxOf child := by
  obtain ⟨c, hc, rfl, hp⟩ := hp
  obtain ⟨before, after, hsplit⟩ := List.append_of_mem hc
  have hids : s.commitIds = before.map (·.id) ++ c.id :: after.map (·.id) := by
    rw [commitIds, hsplit, List.map_append, List.map_cons]
  have hlink := h.linked before c after hsplit
  have hearlier : parent ∈ before.map (·.id) := by
    rcases hp with hp | ⟨ps, hps, hmem⟩
    · exact hlink.parent parent hp
    · obtain ⟨p, q, rfl, -, hp, hq⟩ := hlink.parents ps hps
      rcases List.mem_pair.mp hmem with rfl | rfl
      · exact hp
      · exact hq
  have hnew : c.id ∉ before.map (·.id) := by
    intro hmem
    have hnodup := h.ids
    rw [hids] at hnodup
    exact List.disjoint_of_nodup_append hnodup hmem List.mem_cons_self
  calc s.commitIds.idxOf parent
      = (before.map (·.id)).idxOf parent := by rw [hids, List.idxOf_append_of_mem hearlier]
    _ < (before.map (·.id)).length := List.idxOf_lt_length_iff.mpr hearlier
    _ ≤ s.commitIds.idxOf c.id := by
        rw [hids, List.idxOf_append_of_notMem hnew]
        exact Nat.le_add_right _ _

theorem idxOf_lt_of_ancestor (h : s.WellLinked) {id ancestor : String}
    (ha : Relation.TransGen s.HasParent id ancestor) :
    s.commitIds.idxOf ancestor < s.commitIds.idxOf id := by
  induction ha with
  | single hp => exact h.idxOf_lt_of_hasParent hp
  | tail _ hp ih => exact Nat.lt_trans (h.idxOf_lt_of_hasParent hp) ih

/-- No commit is an ancestor of itself. -/
theorem acyclic (h : s.WellLinked) (id : String) : ¬ Relation.TransGen s.HasParent id id :=
  fun ha => Nat.lt_irrefl _ (h.idxOf_lt_of_ancestor ha)

/-! ## Steps

There are three kinds of change: what touches no commit and no pointer, what
moves pointers among the commits there are, and what adds a commit. -/

theorem points_of_commits_eq (hc : s'.commits = s.commits) {id : String} (h : s.Points id) :
    s'.Points id := by
  rw [Points, commitIds, hc]
  exact h

/-- Files and the log are no part of the graph. -/
theorem of_same_graph (h : s.WellLinked) (hi : s'.initialized = s.initialized)
    (hc : s'.commits = s.commits) (hb : s'.branches = s.branches) (hh : s'.head = s.head)
    (hs : s.initialized = false → s.staged = [] → s'.staged = []) : s'.WellLinked where
  ids := by rw [commitIds, hc]; exact h.ids
  linked := by rw [hc]; exact h.linked
  head := by rw [hh]; exact points_of_commits_eq hc h.head
  branches := by
    rw [hb]
    exact fun b hb => points_of_commits_eq hc (h.branches b hb)
  names := by rw [hb]; exact h.names
  unborn := by
    intro hu
    rw [hi] at hu
    obtain ⟨hcommits, hbranches, hstaged, hhead⟩ := h.unborn hu
    rw [hc, hb, hh]
    exact ⟨hcommits, hbranches, hs hu hstaged, hhead⟩

theorem of_repointed (h : s.WellLinked) (hi : s'.initialized = true)
    (hc : s'.commits = s.commits) (hh : s.Points s'.head)
    (hb : ∀ b ∈ s'.branches, s.Points b.commit) (hn : (s'.branches.map (·.name)).Nodup) :
    s'.WellLinked where
  ids := by rw [commitIds, hc]; exact h.ids
  linked := by rw [hc]; exact h.linked
  head := points_of_commits_eq hc hh
  branches := fun b hmem => points_of_commits_eq hc (hb b hmem)
  names := hn
  unborn := by
    intro hu
    rw [hi] at hu
    cases hu

/-- A commit of the longer list is the new one, with all others before it, or it stood in the
list already and has the same commits before it. -/
theorem split_concat {commits before after : List Commit} {new c : Commit}
    (h : commits ++ [new] = before ++ c :: after) :
    (before = commits ∧ c = new) ∨ ∃ rest, commits = before ++ c :: rest := by
  rcases List.eq_nil_or_concat after with rfl | ⟨rest, last, rfl⟩
  · obtain ⟨hbefore, hc⟩ := List.append_inj' h rfl
    exact Or.inl ⟨hbefore.symm, (List.singleton_inj.mp hc).symm⟩
  · right
    refine ⟨rest, ?_⟩
    rw [List.concat_eq_append, ← List.cons_append, ← List.append_assoc] at h
    exact (List.append_inj' h rfl).1

theorem of_pushed (h : s.WellLinked) {new : Commit} (hi : s'.initialized = true)
    (hc : s'.commits = s.commits ++ [new]) (hh : s'.head = new.id)
    (hb : s'.branches = s.moveCurrent new.id) (hid : new.id ∉ s.commitIds)
    (hl : new.LinkedTo s.commitIds) : s'.WellLinked := by
  have hids : s'.commitIds = s.commitIds ++ [new.id] := by
    rw [commitIds, hc, List.map_append]
    rfl
  have hnew : s'.Points new.id := Or.inr (by rw [hids]; simp)
  have hold {id : String} (hp : s.Points id) : s'.Points id := by
    rcases hp with he | hm
    · exact Or.inl he
    · exact Or.inr (by rw [hids]; exact List.mem_append_left _ hm)
  constructor
  case ids =>
    rw [hids, List.nodup_append]
    refine ⟨h.ids, List.nodup_singleton _, ?_⟩
    rintro id hmem _ hn rfl
    rw [List.mem_singleton] at hn
    exact hid (hn ▸ hmem)
  case linked =>
    intro before c after hsplit
    rw [hc] at hsplit
    rcases split_concat hsplit with ⟨rfl, rfl⟩ | ⟨rest, hrest⟩
    · exact hl
    · exact h.linked before c rest hrest
  case head =>
    rw [hh]
    exact hnew
  case branches =>
    intro b hmem
    rw [hb, mem_moveCurrent_iff] at hmem
    rcases hmem with ⟨hmem, -⟩ | ⟨b', -, -, rfl⟩
    · exact hold (h.branches b hmem)
    · exact hnew
  case names =>
    rw [hb, map_name_moveCurrent]
    exact h.names
  case unborn =>
    intro hu
    rw [hi] at hu
    cases hu

theorem empty : Snapshot.empty.WellLinked where
  ids := List.nodup_nil
  linked := by
    intro before c after hsplit
    simp [Snapshot.empty] at hsplit
  head := Or.inl rfl
  branches := by simp [Snapshot.empty]
  names := List.nodup_nil
  unborn := fun _ => ⟨rfl, rfl, rfl, rfl⟩

/-! A new branch points where HEAD does. -/

theorem points_of_mem_branchAtHead (h : s.WellLinked) (name : String) :
    ∀ b ∈ s.branches ++ [s.branchAtHead name], s.Points b.commit := by
  intro b hb
  rcases List.mem_append.mp hb with hb | hb
  · exact h.branches b hb
  · rw [List.mem_singleton.mp hb]
    exact h.head

theorem names_branchAtHead (h : s.WellLinked) {name : String} (hn : s.findBranch name = none) :
    ((s.branches ++ [s.branchAtHead name]).map (·.name)).Nodup := by
  rw [List.map_append, List.nodup_append]
  refine ⟨h.names, List.nodup_singleton _, ?_⟩
  rintro _ hold _ hnew rfl
  obtain ⟨b, hb, he⟩ := List.mem_map.mp hold
  rw [List.map_singleton, List.mem_singleton] at hnew
  exact findBranch_eq_none_iff.mp hn b hb (he.trans hnew)

/-! Of a new commit only the parents matter, and these are HEAD and a branch. -/

theorem linkedTo_commitAtHead (h : s.WellLinked) (id : String) (now : Timestamp)
    (message : String) : (s.commitAtHead id now message).LinkedTo s.commitIds where
  parent := by
    intro p hp
    by_cases he : s.head = ""
    · simp [commitAtHead, he] at hp
    · have hp : s.head = p := by simpa [commitAtHead, he] using hp
      rw [← hp]
      exact h.head.resolve_left he
  isMerge := by simp [commitAtHead]
  parents := by simp [commitAtHead]

theorem linkedTo_mergeAtHead (h : s.WellLinked) {name : String} {source : Branch}
    (hs : s.mergeSource name = some source) (id : String) (now : Timestamp) :
    (s.mergeAtHead id now source).LinkedTo s.commitIds := by
  obtain ⟨hfound, -, hne, hhead⟩ := mergeSource_eq_some_iff.mp hs
  have hp : s.head ∈ s.commitIds := h.head.resolve_left hhead
  have hq : source.commit ∈ s.commitIds :=
    (h.branches source (findBranch_mem hfound)).resolve_left hne
  constructor
  case parent =>
    intro p he
    cases he
    exact hp
  case isMerge => simp [mergeAtHead]
  case parents =>
    intro ps he
    cases he
    exact ⟨s.head, source.commit, rfl, rfl, hp, hq⟩

/-- A reset goes back to a parent, which is a commit. -/
theorem mem_of_resetParent (h : s.WellLinked) {parent : String}
    (hp : s.resetParent = some parent) : parent ∈ s.commitIds := by
  obtain ⟨⟨c, hc, hparent⟩, -⟩ := resetParent_eq_some_iff.mp hp
  obtain ⟨before, after, hsplit⟩ := List.append_of_mem (headCommit_mem hc)
  have hmem := (h.linked before c after hsplit).parent parent hparent
  rw [commitIds, hsplit, List.map_append]
  exact List.mem_append_left _ hmem

theorem step (h : s.WellLinked) {ids : IdSource} (hs : Step ids s s') : s'.WellLinked := by
  cases hs with
  | create =>
    refine h.of_repointed rfl rfl h.head ?_ (List.nodup_singleton _)
    intro b hb
    rw [List.mem_singleton.mp hb]
    exact Or.inl rfl
  | createFile =>
    rw [createFile_eq]
    exact h.of_same_graph rfl rfl rfl rfl fun _ hs => hs
  | modifyFile | record => exact h.of_same_graph rfl rfl rfl rfl fun _ hs => hs
  | stage hi =>
    refine h.of_same_graph rfl rfl rfl rfl fun hu => ?_
    rw [hi] at hu
    cases hu
  | commit now hi _ _ _ _ hnew =>
    exact h.of_pushed hi rfl rfl rfl hnew (h.linkedTo_commitAtHead _ now _)
  | checkout hi hb =>
    exact h.of_repointed hi rfl (h.branches _ (findBranch_mem hb)) h.branches h.names
  | checkoutCommit hi hc =>
    refine h.of_repointed hi rfl (Or.inr ?_) h.branches h.names
    exact List.mem_map_of_mem (resolve_mem hc)
  | createBranch hi _ hn | createAndCheckoutBranch hi _ hn =>
    exact h.of_repointed hi rfl h.head (h.points_of_mem_branchAtHead _) (h.names_branchAtHead hn)
  | merge now hi hs _ hnew =>
    exact h.of_pushed hi rfl rfl rfl hnew (h.linkedTo_mergeAtHead hs _ now)
  | @reset parent hi hp =>
    have hparent : s.Points parent := Or.inr (h.mem_of_resetParent hp)
    refine h.of_repointed hi rfl hparent ?_ (by rw [map_name_moveCurrent]; exact h.names)
    intro b hb
    rcases mem_moveCurrent_iff.mp hb with ⟨hb, -⟩ | ⟨b', -, -, rfl⟩
    · exact h.branches b hb
    · exact hparent
  | resetAll => exact empty

end WellLinked
end Snapshot

/-- Whatever lines are run from the beginning, whatever ids and times the source shows: the
commits refer to earlier commits only, and none is its own ancestor. -/
theorem Session.wellLinked_runAll (source : Source) (lines : List String) :
    (runAll source {} lines).snapshot.WellLinked ∧
      ∀ id, ¬ Relation.TransGen (runAll source {} lines).snapshot.HasParent id id := by
  have h : (runAll source {} lines).snapshot.WellLinked :=
    runAll_keeps .empty (fun hs h => h.step hs) lines
  exact ⟨h, h.acyclic⟩

end GitPractice
