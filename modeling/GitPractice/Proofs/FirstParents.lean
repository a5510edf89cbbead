import GitPractice.Proofs.Resets

/-!
# The log of a detached HEAD

While HEAD is detached, `git log` does not walk. It collects the ids that are met on the walk along
first parents and then keeps the commits with one of them, in the order in which the commits were made.
That comes to the same because a parent is made before its children: the walk read backwards is a part
of the commits in their order (`Lineage.reverse_sublist`), and different ids make it the only part with
these commits. So the log is the walk (`Session.log_walks_first_parents`).
-/

namespace GitPractice

/-- A part of a list without repetitions is picked out by its members. -/
theorem filter_mem_eq_of_sublist {sub ids : List String} (h : sub.Sublist ids) (hids : ids.Nodup) :
    ids.filter (· ∈ sub) = sub := by
  have hkept : sub.Sublist (ids.filter (· ∈ sub)) := by
    have hfilter := h.filter (· ∈ sub)
    rwa [List.filter_eq_self.mpr fun id hid => by simpa using hid] at hfilter
  have hsubset : ids.filter (· ∈ sub) ⊆ sub := fun id hid => by simpa using (List.mem_filter.mp hid).2
  exact (hkept.eq_of_length_le ((hids.filter _).subperm hsubset).length_le).symm

namespace Snapshot

variable {s : Snapshot} {id : String} {ids met : List String} {steps : Nat}

theorem take_idxOf_succ (hid : id ∈ ids) : ids.take (ids.idxOf id + 1) = ids.take (ids.idxOf id) ++ [id] := by
  rw [List.take_add_one, List.getElem?_idxOf hid]
  rfl

/-- A commit that has not been met is met, and the walk goes on to its parent if it has one. -/
theorem walkParents_of_mem (h : s.WellLinked) (hne : ∀ id ∈ s.commitIds, id ≠ "") {c : Commit} (hc : c ∈ s.commits)
    (hnew : c.id ∉ met) :
    s.walkParents (steps + 1) c.id met =
      c.parent.elim (met ++ [c.id]) fun parent => s.walkParents steps parent (met ++ [c.id]) := by
  have hstart : c.id ≠ "" := hne c.id (List.mem_map_of_mem hc)
  rw [walkParents, if_neg (by simp [hstart, hnew]), findCommit_of_mem h.ids hc, Option.bind_some]
  cases c.parent with
  | none => rfl
  | some parent => rfl

namespace Lineage

theorem mem_commitIds (hl : s.Lineage id ids) : id ∈ s.commitIds := by
  cases hl with
  | root hc | child hc => exact List.mem_map_of_mem hc

/-- From the root on, the walk goes through the commits in the order in which they were made. -/
theorem reverse_sublist_take (hl : s.Lineage id ids) (h : s.WellLinked) :
    ids.reverse.Sublist (s.commitIds.take (s.commitIds.idxOf id + 1)) := by
  have hid := hl.mem_commitIds
  rw [take_idxOf_succ hid]
  induction hl with
  | root => exact List.sublist_append_right _ _
  | @child c parent ids hc hp rest ih =>
    -- The walk from the parent stays among the ids up to the parent, and these are all before the child.
    have hearlier : s.commitIds.idxOf parent + 1 ≤ s.commitIds.idxOf c.id :=
      h.idxOf_lt_of_hasParent ⟨c, hc, rfl, Or.inl hp⟩
    have hrest := ih rest.mem_commitIds
    rw [← take_idxOf_succ rest.mem_commitIds] at hrest
    rw [List.reverse_cons]
    exact (hrest.trans (List.take_sublist_take_left hearlier)).append_right [c.id]

theorem reverse_sublist (hl : s.Lineage id ids) (h : s.WellLinked) : ids.reverse.Sublist s.commitIds :=
  (hl.reverse_sublist_take h).trans (List.take_sublist _ _)

theorem nodup (hl : s.Lineage id ids) (h : s.WellLinked) : ids.Nodup :=
  List.nodup_reverse.mp (h.ids.sublist (hl.reverse_sublist h))

/-- The walk goes all the way when it has enough steps and has met none of the ids before. -/
theorem walkParents_eq (hl : s.Lineage id ids) (h : s.WellLinked) (hne : ∀ id ∈ s.commitIds, id ≠ "")
    (hsteps : ids.length ≤ steps) (hnew : (met ++ ids).Nodup) : s.walkParents steps id met = met ++ ids := by
  -- What has been met grows with every step, so the induction is for any ids met before.
  induction hl generalizing steps met with
  | @root c hc hp =>
    rw [List.length_singleton] at hsteps
    obtain ⟨steps, rfl⟩ := Nat.exists_eq_add_of_le' hsteps
    have hfirst := (List.nodup_cons.mp (List.nodup_middle.mp hnew)).1
    rw [walkParents_of_mem h hne hc (by simpa using hfirst), hp]
    rfl
  | @child c parent ids hc hp _ ih =>
    rw [List.length_cons] at hsteps
    obtain ⟨steps, rfl⟩ := Nat.exists_eq_add_of_le' (Nat.le_trans (Nat.le_add_left 1 _) hsteps)
    have hfirst := (List.nodup_cons.mp (List.nodup_middle.mp hnew)).1
    rw [List.append_cons] at hnew ⊢
    rw [walkParents_of_mem h hne hc fun hmet => hfirst (List.mem_append_left _ hmet), hp]
    exact ih (Nat.le_of_succ_le_succ hsteps) hnew

/-- One step more than there are commits is enough. -/
theorem reachableFrom_eq (hl : s.Lineage id ids) (h : s.WellLinked) (hne : ∀ id ∈ s.commitIds, id ≠ "") :
    s.reachableFrom id = ids := by
  rw [reachableFrom, hl.walkParents_eq h hne]
  · rfl
  · exact Nat.le_succ_of_le (hl.length_le h hl.mem_commitIds)
  · exact hl.nodup h

/-- The log of a detached HEAD, newest first, is the walk from HEAD. -/
theorem map_id_loggedCommits (hl : s.Lineage s.head ids) (h : s.WellLinked)
    (hne : ∀ id ∈ s.commitIds, id ≠ "") (hdetached : s.detached = true) :
    (GitCommand.loggedCommits s).reverse.map (·.id) = ids := by
  have hlisted : (GitCommand.loggedCommits s).map (·.id) = ids.reverse :=
    calc (GitCommand.loggedCommits s).map (·.id)
        = s.commitIds.filter (· ∈ ids) := by
          rw [GitCommand.loggedCommits, if_pos hdetached, hl.reachableFrom_eq h hne, commitIds, List.filter_map]
          rfl
      _ = s.commitIds.filter (· ∈ ids.reverse) := by simp only [List.mem_reverse]
      _ = ids.reverse := filter_mem_eq_of_sublist (hl.reverse_sublist h) h.ids
  rw [List.map_reverse, hlisted, List.reverse_reverse]

end Lineage

theorem Sound.lineage_loggedCommits (h : s.Sound) (hne : ∀ id ∈ s.commitIds, id ≠ "")
    (hdetached : s.detached = true) :
    s.Lineage s.head ((GitCommand.loggedCommits s).reverse.map (·.id)) := by
  obtain ⟨-, hhead⟩ := h.coherent.detached hdetached
  obtain ⟨ids, hl⟩ := h.linked.exists_lineage hhead
  rwa [hl.map_id_loggedCommits h.linked hne hdetached]

theorem loggedCommits_subset (s : Snapshot) : GitCommand.loggedCommits s ⊆ s.commits := by
  rw [GitCommand.loggedCommits]
  split
  · exact List.filter_subset_self _
  · exact List.Subset.refl _

theorem Sound.loggedCommits_ne_nil (h : s.Sound) (hne : ∀ id ∈ s.commitIds, id ≠ "") (hcommits : s.commits ≠ []) :
    GitCommand.loggedCommits s ≠ [] := by
  cases hd : s.detached with
  | false => rwa [GitCommand.loggedCommits, if_neg (by simp [hd])]
  | true =>
    intro hnil
    have hfirst := (h.lineage_loggedCommits hne hd).getElem?_zero
    rw [hnil] at hfirst
    cases hfirst

end Snapshot

namespace Session

variable {source : Source} {t : Session}

theorem interpret_log (hi : t.snapshot.initialized = true) (hcommits : t.snapshot.commits ≠ []) :
    t.interpret "git log" =
      .success (Text.join "\n" ((GitCommand.loggedCommits t.snapshot).reverse.map GitCommand.logEntry)) := by
  have hparse : Command.parse "git log" = .git .log := by decide +kernel
  rw [interpret, interpret_inside hi hparse, GitCommand.outcomeInside, if_neg (by simpa using hcommits)]

/-- Whatever lines were run, as long as HEAD is detached afterwards: `git log` lists the commit under HEAD, its
parent, and so on up to a commit without one, each of them once. -/
theorem log_walks_first_parents (source : Source) (hids : ∀ n, source.ids.nth n ≠ "") (lines : List String)
    (hdetached : (runAll source {} lines).snapshot.detached = true) :
    let t := runAll source {} lines
    ∃ listed : List Commit,
      t.interpret "git log" = .success (Text.join "\n" (listed.map GitCommand.logEntry)) ∧
      listed ⊆ t.snapshot.commits ∧ listed.Nodup ∧
      t.snapshot.Lineage t.snapshot.head (listed.map (·.id)) := by
  intro t
  have hs : t.snapshot.Sound := sound_runAll source lines
  have hne : ∀ id ∈ t.snapshot.commitIds, id ≠ "" := forall_commitIds_runAll hids lines
  have hwalk := hs.lineage_loggedCommits hne hdetached
  obtain ⟨-, hhead⟩ := hs.coherent.detached hdetached
  obtain ⟨c, hc, -⟩ := List.mem_map.mp hhead
  refine ⟨(GitCommand.loggedCommits t.snapshot).reverse, ?_, ?_, ?_, hwalk⟩
  · exact interpret_log (hs.linked.initialized_of_commit hc) (List.ne_nil_of_mem hc)
  · exact List.reverse_subset.mpr (Snapshot.loggedCommits_subset _)
  · exact List.Nodup.of_map (·.id) (hwalk.nodup hs.linked)

/-- HEAD is detached at a merge, with a commit besides that a reset has left behind. -/
theorem log_walks_first_parents_of_merge :
    let lines := ["git init", "git add .", "git commit -m one", "git checkout -b side", "touch a", "git add a",
      "git commit -m two", "git checkout main", "git merge side", "touch b", "git add b", "git commit -m three",
      "git reset --hard HEAD~1", "git checkout c000003"]
    let t := runAll .sample {} lines
    (∀ n, Source.sample.ids.nth n ≠ "") ∧ t.snapshot.detached = true ∧
      (GitCommand.loggedCommits t.snapshot).reverse.map (·.id) = ["c000003", "c000001"] ∧
      ∃ listed : List Commit,
        t.interpret "git log" = .success (Text.join "\n" (listed.map GitCommand.logEntry)) ∧
        listed ⊆ t.snapshot.commits ∧ listed.Nodup ∧
        t.snapshot.Lineage t.snapshot.head (listed.map (·.id)) := by
  intro lines t
  have hids : ∀ n, Source.sample.ids.nth n ≠ "" := IdSource.numbered_ne_empty
  have hdetached : t.snapshot.detached = true := by decide +kernel
  exact ⟨hids, hdetached, by decide +kernel, log_walks_first_parents .sample hids lines hdetached⟩

end Session
end GitPractice
