import GitPractice.Proofs.Dispatch
import Mathlib.Data.Nat.Find

/-!
# A commit gets the first new id

To find an id for a commit, ids are taken from the source one after the other until one comes that no
commit has (`IdSource.FirstNew`). The source may show any ids first, again and again too. If its ids are
different after that, the search ends: of the ids past the first ones there are at most as many in use as there are
commits. So every commit and every merge gets the first id of the source that is new then, and the next one
is looked for right behind it (`Session.fresh_id_found`).
-/

namespace GitPractice

namespace IdSource

/-- Of the ids from position `start` on, the first ones are used, as many as `passed` says, and the one behind
them is not. -/
structure FirstNew (ids : IdSource) (used : List String) (start passed : Nat) : Prop where
  taken : ∀ i < passed, ids.nth (start + i) ∈ used
  fresh : ids.nth (start + passed) ∉ used

variable {ids : IdSource} {used : List String} {start passed : Nat}

theorem Settles.exists_firstNew (h : ids.Settles) (used : List String) (start : Nat) :
    ∃ passed ≤ ids.patience - start + used.length, ids.FirstNew used start passed := by
  obtain ⟨i, hi, hnew⟩ := h.exists_new used (show ids.patience ≤ start + (ids.patience - start) by omega)
  rw [Nat.add_assoc] at hnew
  have hexists : ∃ passed, ids.nth (start + passed) ∉ used := ⟨_, hnew⟩
  refine ⟨Nat.find hexists, ?_, fun i hi => ?_, Nat.find_spec hexists⟩
  · exact Nat.le_trans (Nat.find_min' hexists hnew) (Nat.add_le_add_left hi _)
  · exact Classical.not_not.mp (Nat.find_min hexists hi)

/-- A search that looks far enough finds the first new id, and ends right behind it. -/
theorem FirstNew.search_eq (h : ids.FirstNew used start passed) {count : Nat} (hcount : passed < count) :
    search ids.nth used count start = some (ids.nth (start + passed), start + passed + 1) := by
  induction passed generalizing start count with
  | zero =>
    obtain ⟨count, rfl⟩ := Nat.exists_eq_add_of_le' hcount
    have hnew : ids.nth start ∉ used := h.fresh
    rw [search, if_neg (by simpa using hnew)]
    rfl
  | succ passed ih =>
    obtain ⟨count, rfl⟩ := Nat.exists_eq_add_of_le' (Nat.zero_lt_of_lt hcount)
    have hfirst : ids.nth start ∈ used := h.taken 0 (Nat.zero_lt_succ passed)
    have hrest : ids.FirstNew used (start + 1) passed := by
      refine ⟨fun i hi => ?_, ?_⟩
      · rw [Nat.add_assoc, Nat.add_comm 1 i]
        exact h.taken (i + 1) (Nat.succ_lt_succ hi)
      · rw [Nat.add_assoc, Nat.add_comm 1 passed]
        exact h.fresh
    rw [search, if_pos (by simpa using hfirst), ih hrest (Nat.lt_of_succ_lt_succ hcount), Nat.add_assoc start 1,
      Nat.add_comm 1 passed]

end IdSource

/-! ## Commits and merges -/

namespace Snapshot

/-- An action that does not discard everything leaves the ids of the commits as they are, but for the one that it
makes. -/
theorem commitIds_apply (s : Snapshot) (id : String) (now : Timestamp) {a : Action} (ha : a ≠ .resetAll) :
    (s.apply id now a).commitIds = if s.createsCommit a then s.commitIds ++ [id] else s.commitIds := by
  have hpushed (c : Commit) : (s.commits ++ [c]).map (·.id) = s.commitIds ++ [c.id] := List.map_append
  cases hcreates : s.createsCommit a with
  | true =>
    cases a with
    | commit message =>
      have hstaged : s.staged ≠ [] := by simpa [createsCommit] using hcreates
      rw [apply, commit_of_staged hstaged]
      exact hpushed _
    | merge name =>
      obtain ⟨source, hsource⟩ := Option.isSome_iff_exists.mp hcreates
      rw [apply, merge_of_found hsource]
      exact hpushed _
    | _ => cases hcreates
  | false =>
    have heffect := s.apply_effect id now a
    generalize s.apply id now a = s' at heffect
    cases heffect with
    | commit hstaged =>
      rw [createsCommit_commit hstaged] at hcreates
      cases hcreates
    | merge hsource =>
      rw [createsCommit, hsource] at hcreates
      cases hcreates
    | resetAll => exact absurd rfl ha
    | _ => rfl

end Snapshot

namespace Session

variable {source : Source} {t : Session} {a : Action}

theorem commitIds_dispatch (source : Source) (t : Session) (ha : a ≠ .resetAll) :
    ∃ new, (t.dispatch source a).snapshot.commitIds = t.snapshot.commitIds ++ new ∧ new.Nodup ∧
      ∀ id ∈ new, id ∉ t.snapshot.commitIds := by
  have hsame : ∃ new, t.snapshot.commitIds = t.snapshot.commitIds ++ new ∧ new.Nodup ∧
      ∀ id ∈ new, id ∉ t.snapshot.commitIds :=
    ⟨[], (List.append_nil _).symm, List.nodup_nil, List.forall_mem_nil _⟩
  rcases @dispatch_snapshot source t a with ⟨hnothing, -⟩ | ⟨id, now, happly, hnew⟩
  · rwa [hnothing]
  · rw [happly, Snapshot.commitIds_apply _ _ _ ha]
    split
    next hcreates =>
      exact ⟨[id], rfl, List.nodup_singleton id, List.forall_mem_singleton.mpr (hnew hcreates).2⟩
    next => exact hsame

/-- The commits that a run finds or makes have the ids that they had at the start, unless everything was discarded,
and behind these the ids that have been added, which are new and different. -/
theorem commitIds_dispatchAll (source : Source) (t : Session) (actions : List Action) :
    ∃ kept new, (t.dispatchAll source actions).snapshot.commitIds = kept ++ new ∧
      (kept = t.snapshot.commitIds ∨ .resetAll ∈ actions ∧ kept = []) ∧ new.Nodup ∧ ∀ id ∈ new, id ∉ kept := by
  induction actions using List.reverseRecOn with
  | nil => exact ⟨_, [], (List.append_nil _).symm, Or.inl rfl, List.nodup_nil, List.forall_mem_nil _⟩
  | append_singleton actions a ih =>
    obtain ⟨kept, new, hids, hkept, hnodup, hnew⟩ := ih
    rw [dispatchAll_concat]
    by_cases ha : a = .resetAll
    · subst ha
      refine ⟨[], [], rfl, Or.inr ⟨?_, rfl⟩, List.nodup_nil, List.forall_mem_nil _⟩
      exact List.mem_append_right actions (List.mem_singleton_self _)
    · obtain ⟨more, hmore, hnodup', hnew'⟩ := commitIds_dispatch source (t.dispatchAll source actions) ha
      rw [hids] at hmore hnew'
      refine ⟨kept, new ++ more, by rw [hmore, List.append_assoc],
        hkept.imp_right fun h => ⟨List.mem_append_left _ h.1, h.2⟩, ?_, ?_⟩
      · refine List.nodup_append.mpr ⟨hnodup, hnodup', fun id hid other hother heq => ?_⟩
        exact hnew' other hother (heq ▸ List.mem_append_right kept hid)
      · rw [List.forall_mem_append]
        exact ⟨hnew, fun id hid hmem => hnew' id hid (List.mem_append_left new hmem)⟩

/-- The source shows any ids first, and different ones after that. From wherever it has got to, and whatever commits
there are, the first new id comes before all that is left of the first ids, an id for each of the commits, and one
more have been taken. A commit or merge gets this id and leaves the source right behind it. So in no run does
a commit get an id that another has. -/
theorem fresh_id_found (given : List String) {later : Nat → String} (hlater : Function.Injective later)
    (clock : Nat → Timestamp) :
    let source : Source := { ids := .ofList given later, clock }
    (∀ t : Session, ∃ passed ≤ given.length - t.idsTaken + t.snapshot.commits.length,
      source.ids.FirstNew t.snapshot.commitIds t.idsTaken passed ∧
      source.ids.unused? t.snapshot.commitIds t.idsTaken =
        some (source.ids.nth (t.idsTaken + passed), t.idsTaken + passed + 1) ∧
      ∀ a, t.snapshot.createsCommit a = true →
        (t.dispatch source a).snapshot.commitIds =
          t.snapshot.commitIds ++ [source.ids.nth (t.idsTaken + passed)] ∧
        (t.dispatch source a).idsTaken = t.idsTaken + passed + 1) ∧
    ∀ (t : Session) (actions : List Action), ∃ kept new,
      (t.dispatchAll source actions).snapshot.commitIds = kept ++ new ∧
      (kept = t.snapshot.commitIds ∨ .resetAll ∈ actions ∧ kept = []) ∧
      new.Nodup ∧ ∀ id ∈ new, id ∉ kept := by
  intro source
  refine ⟨fun t => ?_, commitIds_dispatchAll source⟩
  have hsettles : source.ids.Settles := IdSource.settles_ofList given hlater
  obtain ⟨passed, hle, hfirst⟩ := hsettles.exists_firstNew t.snapshot.commitIds t.idsTaken
  have hcount : passed < source.ids.patience + t.snapshot.commitIds.length + 1 := by omega
  have hfound : source.ids.unused? t.snapshot.commitIds t.idsTaken =
      some (source.ids.nth (t.idsTaken + passed), t.idsTaken + passed + 1) := hfirst.search_eq hcount
  rw [Snapshot.commitIds, List.length_map] at hle
  refine ⟨passed, hle, hfirst, hfound, fun a ha => ?_⟩
  have hkeeps : a ≠ .resetAll := by
    rintro rfl
    cases ha
  rw [dispatch_of_createsCommit ha hfound]
  refine ⟨?_, rfl⟩
  rw [Snapshot.commitIds_apply _ _ _ hkeeps, if_pos ha]

/-- The source shows an id again when a commit has it, and once more after that. -/
theorem fresh_id_found_of_repeats :
    let source : Source := { ids := .ofList ["a", "a", "b", "a"] IdSource.numbered, clock := fun _ => .sample }
    let t := dispatchAll source {} [.create, .stage ["."], .commit "one", .createFile "x", .stage ["x"]]
    Function.Injective IdSource.numbered ∧ t.snapshot.commitIds = ["a"] ∧ t.idsTaken = 1 ∧
      (dispatchAll source t [.commit "two", .createFile "y", .stage ["y"], .commit "three"]).snapshot.commitIds =
        ["a", "b", "c000001"] ∧
      ∃ passed ≤ 3 + 1, source.ids.FirstNew t.snapshot.commitIds t.idsTaken passed ∧
        (t.dispatch source (.commit "two")).snapshot.commitIds = ["a"] ++ [source.ids.nth (1 + passed)] ∧
        (t.dispatch source (.commit "two")).idsTaken = 1 + passed + 1 := by
  intro source t
  have hids : t.snapshot.commitIds = ["a"] := by decide +kernel
  have htaken : t.idsTaken = 1 := by decide +kernel
  have hcommits : t.snapshot.commits.length = 1 := by decide +kernel
  have hcreates : t.snapshot.createsCommit (.commit "two") = true := by decide +kernel
  obtain ⟨passed, hle, hfirst, -, hmade⟩ :=
    (fresh_id_found ["a", "a", "b", "a"] IdSource.numbered_injective fun _ => .sample).1 t
  rw [htaken, hcommits] at hle
  obtain ⟨hmade, htaken'⟩ := hmade (.commit "two") hcreates
  rw [htaken, hids] at hmade
  rw [htaken] at htaken'
  exact ⟨IdSource.numbered_injective, hids, htaken, by decide +kernel, passed, hle, hfirst, hmade, htaken'⟩

end Session
end GitPractice
