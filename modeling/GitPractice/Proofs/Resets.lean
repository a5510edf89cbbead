import GitPractice.Proofs.Head
import GitPractice.Proofs.Log

/-!
# Going back

A hard reset to `HEAD~1` moves HEAD to the first parent, and the current branch with it.
So it takes back the commit or the merge that was made last: HEAD and all branches are
where they were (`Session.reset_undoes`). The commit itself stays among the commits, and
the files are gone, those that were there before among them.

Run again and again it walks along first parents down to a commit without one, where it
does nothing at all (`Session.resets_walk_back`).

Both need that the current branch points where HEAD does, and that ids are not empty: an
empty pointer is no commit to come from or to go back to.
-/

namespace GitPractice

/-- The line that goes back by one commit. -/
def resetLine : String := "git reset --hard " ++ resetTarget

theorem parse_resetLine : Command.parse resetLine = .git (.reset true) := by decide +kernel

namespace Snapshot

variable {s s' : Snapshot}

/-- The branches follow the last move only. -/
theorem moveCurrent_of_moved {id : String} (hb : s'.branches = s.moveCurrent id)
    (hcurrent : s'.currentBranch = s.currentBranch) (other : String) :
    s'.moveCurrent other = s.moveCurrent other := by
  rw [moveCurrent, hb, hcurrent, moveCurrent, moveCurrent, List.map_map]
  refine List.map_congr_left fun b _ => ?_
  by_cases hname : b.name = s.currentBranch
  · simp [hname]
  · simp [hname]

/-- The current branch points to HEAD, so it does not move there. -/
theorem Sound.moveCurrent_head (h : s.Sound) : s.moveCurrent s.head = s.branches := by
  have hsame : ∀ b ∈ s.branches, b.name = s.currentBranch → b.commit = s.head := by
    intro b hb hname
    have hne : s.currentBranch ≠ "" := hname ▸ (h.named.of_mem hb).1
    obtain ⟨-, current, honly, hcommit⟩ := h.coherent.attached hne
    have hmem : b ∈ s.branches.filter (·.name = s.currentBranch) :=
      List.mem_filter.mpr ⟨hb, by simpa using hname⟩
    rw [honly, List.mem_singleton] at hmem
    rw [hmem, hcommit]
  rw [moveCurrent]
  refine (List.map_congr_left fun b hb => ?_).trans (List.map_id _)
  split
  next hname =>
    rw [← hsame b hb hname]
    rfl
  next => rfl

/-- The ids from the given one up to that of a commit without a parent, each followed by its first parent. -/
inductive Lineage (s : Snapshot) : String → List String → Prop
  | root {c : Commit} (hc : c ∈ s.commits) (hp : c.parent = none) : Lineage s c.id [c.id]
  | child {c : Commit} {parent : String} {ids : List String} (hc : c ∈ s.commits) (hp : c.parent = some parent)
      (rest : Lineage s parent ids) : Lineage s c.id (c.id :: ids)

/-- With different ids, a commit is found under its own. -/
theorem findCommit_of_mem (hids : s.commitIds.Nodup) {c : Commit} (hc : c ∈ s.commits) :
    s.findCommit c.id = some c :=
  find?_of_nodup (f := Commit.id) hids hc

theorem resetParent_of_mem (hids : s.commitIds.Nodup) {c : Commit} (hc : c ∈ s.commits)
    (hhead : s.head = c.id) (hne : c.id ≠ "") : s.resetParent = c.parent.filter (· ≠ "") := by
  rw [resetParent, headCommit, hhead, if_neg hne, findCommit_of_mem hids hc]
  rfl

/-! ## One step back -/

/-- HEAD goes back from a commit on top of it to where it was, and so does the current branch. -/
theorem Sound.reset_of_pushed (h : s.Sound) (hhead : s.head ≠ "") {c : Commit} (hnew : c.id ∉ s.commitIds)
    (hne : c.id ≠ "") (hparent : c.parent = some s.head) {staged : List FileEntry} {detached : Bool}
    {history : List HistoryEntry}
    (hs' : s' = { s with
      commits := s.commits ++ [c], head := c.id, branches := s.moveCurrent c.id, staged, detached, history }) :
    s'.reset .hard resetTarget =
      { s with commits := s.commits ++ [c], detached, staged := [], working := [], history } := by
  have hids : s'.commitIds.Nodup := by
    rw [hs', commitIds, List.map_append, List.nodup_append]
    refine ⟨h.linked.ids, List.nodup_singleton _, ?_⟩
    rintro id hid _ hc rfl
    rw [List.map_singleton, List.mem_singleton] at hc
    exact hnew (hc ▸ hid)
  have hmem : c ∈ s'.commits := by simp [hs']
  have hback : s'.resetParent = some s.head := by
    rw [resetParent_of_mem hids hmem (by rw [hs']) hne, hparent]
    simp [hhead]
  have hb : s'.branches = s.moveCurrent c.id := by rw [hs']
  have hmoved : s'.moveCurrent s.head = s.branches := by
    rw [moveCurrent_of_moved hb (by rw [hs']), h.moveCurrent_head]
  rw [reset_hard_of_parent hback, hmoved, hs']

/-- Commits and merges put a commit on top of HEAD. -/
theorem Offers.apply_pushes {a : Action} (ho : s.Offers a) (hc : s.createsCommit a = true) (hhead : s.head ≠ "")
    (id : String) (now : Timestamp) :
    ∃ (c : Commit) (staged : List FileEntry) (detached : Bool), c.id = id ∧ c.parent = some s.head ∧
      s.apply id now a =
        { s with commits := s.commits ++ [c], head := id, branches := s.moveCurrent id, staged, detached } := by
  cases ho with
  | @commit ws _ hs =>
    refine ⟨s.commitAtHead id now (cleanMessage ws), [], false, rfl, if_neg hhead, ?_⟩
    rw [apply, commit_of_staged hs]
  | merge _ hs =>
    obtain ⟨source, hsource⟩ := Option.isSome_iff_exists.mp hs
    refine ⟨s.mergeAtHead id now source, s.staged, s.detached, rfl, rfl, ?_⟩
    rw [apply, merge_of_found hsource]
  | _ => cases hc

theorem Offers.initialized {a : Action} (ho : s.Offers a) (hc : s.createsCommit a = true) :
    s.initialized = true := by
  cases ho with
  | commit hi | merge hi => exact hi
  | _ => cases hc

end Snapshot

namespace Session

open Snapshot (Sound)

variable {source : Source} {t : Session} {line : String}

theorem act_of_reset (hi : t.snapshot.initialized = true) (hparse : Command.parse line = .git (.reset true)) :
    (t.act source (t.interpret line)).snapshot = t.snapshot.reset .hard resetTarget := by
  have hanswer : t.interpret line = GitCommand.resetOutcome t.snapshot true := interpret_inside hi hparse
  rw [hanswer, GitCommand.resetOutcome]
  cases hcommits : t.snapshot.commits with
  | nil =>
    have hnone : t.snapshot.resetParent = none := by
      simp [Snapshot.resetParent, Snapshot.headCommit, Snapshot.findCommit, hcommits]
    rw [Snapshot.reset_of_no_parent hnone]
    rfl
  | cons c rest => rfl

/-- The line does what it says and is logged, also where there is nothing to go back to. -/
theorem run_resetLine (hi : t.snapshot.initialized = true) :
    ∃ entry, (t.run source resetLine).snapshot =
      { t.snapshot.reset .hard resetTarget with history := t.snapshot.history ++ [entry] } := by
  have hblank : Command.parse resetLine ≠ .blank := by simp [parse_resetLine]
  have hclear : Command.parse resetLine ≠ .clear := by simp [parse_resetLine]
  have hhistory := @history_act source t resetLine hclear
  have hact := @act_of_reset source t resetLine hi parse_resetLine
  rw [run_of_isReply (isReply_interpret hblank hclear), dispatch_record]
  rw [hact] at hhistory
  simp only [Snapshot.record, hact, hhistory]
  exact ⟨_, rfl⟩

/-- The line commits or merges, and there is a new id for it. -/
def Commits (source : Source) (t : Session) (line : String) : Prop :=
  t.snapshot.makesCommit line = true ∧ (source.ids.unused? t.snapshot.commitIds t.idsTaken).isSome = true

theorem run_of_commits (h : t.Commits source line) (hhead : t.snapshot.head ≠ "") :
    t.snapshot.initialized = true ∧
      ∃ (c : Commit) (staged : List FileEntry) (detached : Bool) (history : List HistoryEntry),
        source.ids.Shows c.id ∧ c.id ∉ t.snapshot.commitIds ∧ c.parent = some t.snapshot.head ∧
        (t.run source line).snapshot =
          { t.snapshot with
            commits := t.snapshot.commits ++ [c], head := c.id, branches := t.snapshot.moveCurrent c.id
            staged, detached, history } := by
  obtain ⟨hmakes, hfound⟩ := h
  obtain ⟨a, ha, hc⟩ := (Option.any_eq_true _ _).mp hmakes
  obtain ⟨⟨id, taken⟩, hid⟩ := Option.isSome_iff_exists.mp hfound
  have hclear : Command.parse line ≠ .clear := by
    intro hclear
    rw [interpret_of_clear hclear] at ha
    cases ha
    cases hc
  have ho := interpret_offers hclear ha
  obtain ⟨c, staged, detached, rfl, hparent, happly⟩ :=
    ho.apply_pushes hc hhead id (source.clock t.clockReads)
  obtain ⟨log, hrun⟩ := @run_snapshot source t line
  refine ⟨ho.initialized hc, c, staged, detached, log, IdSource.shows_of_search hid,
    IdSource.unused?_not_mem hid, hparent, ?_⟩
  rw [hrun, act, interpret, ha]
  simp only
  rw [dispatch_of_createsCommit hc hid, happly]

/-- Whatever line commits or merges after whatever lines, as long as HEAD was on a commit before: with
one step back the repository is as it was, but for the commit that is left over, the files, the log
and the mark of a detached HEAD, which a commit takes away. -/
theorem reset_undoes (source : Source) (hids : ∀ n, source.ids.nth n ≠ "") (lines : List String) (line : String)
    (hhead : (runAll source {} lines).snapshot.head ≠ "") (hline : Commits source (runAll source {} lines) line) :
    let s := (runAll source {} lines).snapshot
    let s' := (runAll source {} (lines ++ [line, resetLine])).snapshot
    ∃ c, c.id ∉ s.commitIds ∧ (runAll source {} (lines ++ [line])).snapshot.commits = s.commits ++ [c] ∧
      s' = { s with
        commits := s.commits ++ [c], detached := s'.detached, staged := [], working := []
        history := s'.history } := by
  intro s s'
  obtain ⟨hi, c, staged, detached, log, ⟨n, hn⟩, hnew, hparent, hrun⟩ := run_of_commits hline hhead
  have hne : c.id ≠ "" := hn ▸ hids n
  have hmade : (runAll source {} (lines ++ [line])).snapshot.commits = s.commits ++ [c] := by
    rw [runAll_append]
    exact congrArg Snapshot.commits hrun
  have hback := (sound_runAll source lines).reset_of_pushed hhead hnew hne hparent hrun
  have hinside : ((runAll source {} lines).run source line).snapshot.initialized = true := by
    rw [hrun]
    exact hi
  obtain ⟨entry, hreset⟩ := @run_resetLine source _ hinside
  have hs' : s' = (((runAll source {} lines).run source line).run source resetLine).snapshot := by
    show (runAll source {} (lines ++ [line, resetLine])).snapshot = _
    rw [runAll_append]
    rfl
  refine ⟨c, hnew, hmade, ?_⟩
  rw [hs', hreset, hback]

/-- A merge that is made while HEAD is detached. -/
theorem reset_undoes_of_detachedMerge :
    let lines := ["git init", "git add .", "git commit -m one", "git checkout -b side", "touch a", "git add a",
      "git commit -m two", "git checkout c000001", "touch b"]
    let s := (runAll .sample {} lines).snapshot
    let s' := (runAll .sample {} (lines ++ ["git merge side", resetLine])).snapshot
    (∀ n, Source.sample.ids.nth n ≠ "") ∧ s.head ≠ "" ∧
      Commits .sample (runAll .sample {} lines) "git merge side" ∧
      (s'.head = "c000001" ∧ s'.detached = true) ∧
      ∃ c, c.id ∉ s.commitIds ∧
        (runAll .sample {} (lines ++ ["git merge side"])).snapshot.commits = s.commits ++ [c] ∧
        s' = { s with
          commits := s.commits ++ [c], detached := s'.detached, staged := [], working := []
          history := s'.history } := by
  intro lines s s'
  have hids : ∀ n, Source.sample.ids.nth n ≠ "" := IdSource.numbered_ne_empty
  have hhead : s.head ≠ "" := by decide +kernel
  have hline : Commits .sample (runAll .sample {} lines) "git merge side" := by
    unfold Commits
    decide +kernel
  exact ⟨hids, hhead, hline, by decide +kernel,
    reset_undoes .sample hids lines "git merge side" hhead hline⟩

end Session

namespace Snapshot

/-! ## All the way back -/

variable {s s' : Snapshot} {id : String} {ids : List String} {d k n : Nat}

theorem WellLinked.exists_lineage (h : s.WellLinked) (hid : id ∈ s.commitIds) : ∃ ids, s.Lineage id ids := by
  -- parents stand before their children
  induction hplace : s.commitIds.idxOf id using Nat.strongRecOn generalizing id with
  | ind place ih =>
    obtain ⟨c, hc, rfl⟩ := List.mem_map.mp hid
    cases hp : c.parent with
    | none => exact ⟨[c.id], .root hc hp⟩
    | some parent =>
      have hearlier : s.commitIds.idxOf parent < place :=
        hplace ▸ h.idxOf_lt_of_hasParent ⟨c, hc, rfl, Or.inl hp⟩
      obtain ⟨ids, hids⟩ := ih _ hearlier ((h.linkedTo_commitIds hc).parent parent hp) rfl
      exact ⟨c.id :: ids, .child hc hp hids⟩

namespace Lineage

theorem length_le_idxOf (hl : s.Lineage id ids) (h : s.WellLinked) : ids.length ≤ s.commitIds.idxOf id + 1 := by
  induction hl with
  | root => simp
  | @child c parent ids hc hp _ ih =>
    have hearlier := h.idxOf_lt_of_hasParent ⟨c, hc, rfl, Or.inl hp⟩
    rw [List.length_cons]
    omega

theorem length_le (hl : s.Lineage id ids) (h : s.WellLinked) (hid : id ∈ s.commitIds) :
    ids.length ≤ s.commits.length := by
  have hplace := List.idxOf_lt_length_iff.mpr hid
  have hlength := hl.length_le_idxOf h
  rw [commitIds, List.length_map] at hplace
  exact Nat.le_trans hlength hplace

theorem getElem?_zero (hl : s.Lineage id ids) : ids[0]? = some id := by
  cases hl <;> rfl

/-- The parent of a commit on the way is the next one. -/
theorem exists_commit (hl : s.Lineage id ids) {other : String} (hn : ids[n]? = some other) :
    ∃ c ∈ s.commits, c.id = other ∧ c.parent = ids[n + 1]? := by
  induction hl generalizing n with
  | @root c hc hp =>
    cases n with
    | zero => exact ⟨c, hc, Option.some.inj hn, hp⟩
    | succ n => simp at hn
  | @child c parent ids hc hp hrest ih =>
    cases n with
    | zero => exact ⟨c, hc, Option.some.inj hn, hp.trans hrest.getElem?_zero.symm⟩
    | succ n => exact ih hn

/-- From a commit on the way a reset goes to the next one, if there is one. -/
theorem resetParent_eq (hl : s.Lineage id ids) (h : s.WellLinked) (hids : ∀ id ∈ s.commitIds, id ≠ "")
    (hcommits : s'.commits = s.commits) (hn : ids[n]? = some s'.head) : s'.resetParent = ids[n + 1]? := by
  obtain ⟨c, hc, hid, hparent⟩ := hl.exists_commit hn
  have hnodup : s'.commitIds.Nodup := by
    rw [commitIds, hcommits]
    exact h.ids
  rw [resetParent_of_mem hnodup (hcommits ▸ hc) hid.symm (hids c.id (List.mem_map_of_mem hc)), ← hparent]
  cases hp : c.parent with
  | none => rfl
  | some parent =>
    have hne := hids parent ((h.linkedTo_commitIds hc).parent parent hp)
    simp [hne]

end Lineage

/-- The snapshot `s'` is `s` after `k` steps back along `ids`, of which the last is `ids[d]`. -/
structure WentBack (s : Snapshot) (ids : List String) (d k : Nat) (s' : Snapshot) : Prop where
  head : ids[min k d]? = some s'.head
  attached : s.currentBranch ≠ "" → ∃ b ∈ s'.branches, b.name = s.currentBranch ∧ b.commit = s'.head
  branches : s'.branches = s.branches.map fun b =>
    if b.name = s.currentBranch then { b with commit := s'.head } else b
  initialized : s'.initialized = s.initialized
  commits : s'.commits = s.commits
  currentBranch : s'.currentBranch = s.currentBranch
  detached : s'.detached = s.detached
  dropped : 0 < k → 0 < d → s'.staged = [] ∧ s'.working = []
  untouched : k = 0 ∨ d = 0 → s'.staged = s.staged ∧ s'.working = s.working
  history : ∃ entries, s'.history = s.history ++ entries ∧ entries.length = k

theorem Sound.exists_moved (h : s.Sound) (hne : s.currentBranch ≠ "") (id : String) :
    ∃ b ∈ s.moveCurrent id, b.name = s.currentBranch ∧ b.commit = id := by
  obtain ⟨-, b, hb, hname, -⟩ := h.coherent.exists_current hne
  exact ⟨{ b with commit := id }, mem_moveCurrent_iff.mpr (Or.inr ⟨b, hb, hname, rfl⟩), hname, rfl⟩

theorem Sound.wentBack_zero (h : s.Sound) (hl : s.Lineage s.head ids) : s.WentBack ids d 0 s where
  head := by
    rw [Nat.zero_min]
    exact hl.getElem?_zero
  attached := fun hne => (h.coherent.exists_current hne).2
  branches := h.moveCurrent_head.symm
  initialized := rfl
  commits := rfl
  currentBranch := rfl
  detached := rfl
  dropped := fun hk => absurd hk (Nat.lt_irrefl 0)
  untouched := fun _ => ⟨rfl, rfl⟩
  history := ⟨[], (List.append_nil _).symm, rfl⟩

theorem WentBack.reset (hw : s.WentBack ids d k s') (h : s.Sound) (hids : ∀ id ∈ s.commitIds, id ≠ "")
    (hl : s.Lineage s.head ids) (hd : ids.length = d + 1) (entry : HistoryEntry) :
    s.WentBack ids d (k + 1)
      { s'.reset .hard resetTarget with history := s'.history ++ [entry] } := by
  have hparent := hl.resetParent_eq h.linked hids hw.commits hw.head
  obtain ⟨entries, hhistory, hlength⟩ := hw.history
  have hlog : ∃ entries, s'.history ++ [entry] = s.history ++ entries ∧ entries.length = k + 1 :=
    ⟨entries ++ [entry], by rw [hhistory, List.append_assoc], by rw [List.length_append, hlength]; rfl⟩
  by_cases hk : k < d
  · have hnext : ids[k + 1]? = some ids[k + 1] := List.getElem?_eq_getElem (by omega)
    rw [Nat.min_eq_left (Nat.le_of_lt hk), hnext] at hparent
    have hmoved := moveCurrent_of_moved hw.branches hw.currentBranch ids[k + 1]
    rw [reset_hard_of_parent hparent, hmoved]
    exact {
      head := by rw [Nat.min_eq_left (Nat.succ_le_of_lt hk), hnext]
      attached := fun hne => h.exists_moved hne _
      branches := rfl
      initialized := hw.initialized
      commits := hw.commits
      currentBranch := hw.currentBranch
      detached := hw.detached
      dropped := fun _ _ => ⟨rfl, rfl⟩
      untouched := fun hor => by omega
      history := hlog }
  · have hend : ids[d + 1]? = none := List.getElem?_eq_none (by omega)
    rw [Nat.min_eq_right (Nat.not_lt.mp hk), hend] at hparent
    rw [reset_of_no_parent hparent]
    exact {
      head := by
        have hhead := hw.head
        rw [Nat.min_eq_right (Nat.not_lt.mp hk)] at hhead
        rw [Nat.min_eq_right (by omega)]
        exact hhead
      attached := hw.attached
      branches := hw.branches
      initialized := hw.initialized
      commits := hw.commits
      currentBranch := hw.currentBranch
      detached := hw.detached
      dropped := fun _ hpos => hw.dropped (by omega) hpos
      untouched := fun hor => hw.untouched (by omega)
      history := hlog }

end Snapshot

namespace Session

variable {source : Source} {t : Session}

theorem wentBack_runAll (h : t.snapshot.Sound) (hids : ∀ id ∈ t.snapshot.commitIds, id ≠ "")
    (hi : t.snapshot.initialized = true) {ids : List String} (hl : t.snapshot.Lineage t.snapshot.head ids) {d : Nat}
    (hd : ids.length = d + 1) (k : Nat) :
    t.snapshot.WentBack ids d k (t.runAll source (List.replicate k resetLine)).snapshot := by
  induction k with
  | zero => exact h.wentBack_zero hl
  | succ k ih =>
    obtain ⟨entry, hrun⟩ := @run_resetLine source _ (ih.initialized.trans hi)
    rw [List.replicate_succ', runAll_append]
    show t.snapshot.WentBack ids d (k + 1)
      ((t.runAll source (List.replicate k resetLine)).run source resetLine).snapshot
    rw [hrun]
    exact ih.reset h hids hl hd entry

/-- Whatever lines were run, as long as HEAD is on a commit: `k` steps back lead along its first
parents to the `k`-th of them, or to the last one when there are fewer. Steps beyond that are only
logged. -/
theorem resets_walk_back (source : Source) (hids : ∀ n, source.ids.nth n ≠ "") (lines : List String)
    (hhead : (runAll source {} lines).snapshot.head ≠ "") :
    let t := runAll source {} lines
    ∃ d ids, ids.length = d + 1 ∧ d < t.snapshot.commits.length ∧ t.snapshot.Lineage t.snapshot.head ids ∧
      ∀ k, t.snapshot.WentBack ids d k (t.runAll source (List.replicate k resetLine)).snapshot := by
  intro t
  have h : t.snapshot.Sound := sound_runAll source lines
  have hi := h.linked.initialized_of_head hhead
  have hmem := h.linked.head_mem hhead
  have hne : ∀ id ∈ t.snapshot.commitIds, id ≠ "" := forall_commitIds_runAll hids lines
  obtain ⟨ids, hl⟩ := h.linked.exists_lineage hmem
  have hlength := hl.length_le h.linked hmem
  obtain ⟨hpos, -⟩ := List.getElem?_eq_some_iff.mp hl.getElem?_zero
  obtain ⟨d, hd⟩ : ∃ d, ids.length = d + 1 := ⟨ids.length - 1, by omega⟩
  exact ⟨d, ids, hd, by omega, hl, wentBack_runAll h hne hi hl hd⟩

/-- Three steps back from a merge, where the second one comes to the end. -/
theorem resets_walk_back_of_merge :
    let lines := ["git init", "git add .", "git commit -m one", "git checkout -b side", "touch a", "git add a",
      "git commit -m two", "git checkout main", "git merge side", "touch b"]
    let t := runAll .sample {} lines
    (∀ n, Source.sample.ids.nth n ≠ "") ∧ t.snapshot.head ≠ "" ∧
      (t.runAll .sample (List.replicate 3 resetLine)).snapshot.head = "c000001" ∧
      ∃ d ids, ids.length = d + 1 ∧ d < t.snapshot.commits.length ∧ t.snapshot.Lineage t.snapshot.head ids ∧
        t.snapshot.WentBack ids d 3 (t.runAll .sample (List.replicate 3 resetLine)).snapshot := by
  intro lines t
  have hids : ∀ n, Source.sample.ids.nth n ≠ "" := IdSource.numbered_ne_empty
  have hhead : t.snapshot.head ≠ "" := by decide +kernel
  obtain ⟨d, ids, hd, hlength, hl, hback⟩ := resets_walk_back .sample hids lines hhead
  exact ⟨hids, hhead, by decide +kernel, d, ids, hd, hlength, hl, hback 3⟩

end Session
end GitPractice
