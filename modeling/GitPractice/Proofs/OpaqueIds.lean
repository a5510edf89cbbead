import GitPractice.Proofs.Rename

/-!
# Ids are opaque

Two sessions run the same lines and take their ids from two sources, each of
which never shows an id twice. Then the sessions go the same way: a line gets
the same answer in both but for the text, and at any time the second repository
is the first one under other ids (`Session.ids_opaque`). The map between the ids
pairs them in the order in which the sources show them.

The sessions need not agree when a line checks out a commit by its id, since an
id of one source means nothing to the other. So the lines are to check out
branches only, which is asked of the first run.
-/

namespace GitPractice

/-- The source never shows an id twice, nor one that reads as no id. -/
structure IdSource.Distinct (ids : IdSource) : Prop where
  injective : Function.Injective ids.nth
  ne_empty : ∀ n, ids.nth n ≠ ""

/-- The map pairs the ids of two sources in their order. -/
structure IdSource.Pairs (first second : IdSource) (ρ : String → String) : Prop where
  nth : ∀ n, ρ (first.nth n) = second.nth n
  nowhere : ∀ id, ρ id = "" ↔ id = ""

theorem IdSource.Distinct.exists_pairs {first second : IdSource} (h : first.Distinct)
    (h' : second.Distinct) : ∃ ρ, first.Pairs second ρ := by
  refine ⟨Function.extend first.nth second.nth id, h.injective.extend_apply _ _, fun id => ?_⟩
  by_cases hid : ∃ n, first.nth n = id
  · obtain ⟨n, rfl⟩ := hid
    rw [h.injective.extend_apply]
    exact iff_of_false (h'.ne_empty n) (h.ne_empty n)
  · rw [Function.extend_apply' _ _ _ hid]
    rfl

/-- The second repository is the first one under other ids, and the logs differ in the texts of
the answers at most. -/
def Snapshot.RenamedTo (ρ : String → String) (s s' : Snapshot) : Prop :=
  ∃ log, s' = s.rename ρ log ∧
    log.map (·.withoutOutput) = s.history.map (·.withoutOutput)

/-- The commits after a line were there before, but for the one that the line makes. -/
theorem Snapshot.mem_commitIds_afterLine {s : Snapshot} {line id c : String} {now : Timestamp}
    (hc : c ∈ (s.afterLine id now line).commitIds) :
    c ∈ s.commitIds ∨ s.makesCommit line = true ∧ c = id := by
  by_cases hblank : Command.parse line = .blank
  · rw [afterLine_of_blank hblank] at hc
    exact Or.inl hc
  · by_cases hclear : Command.parse line = .clear
    · rw [afterLine_of_clear hclear] at hc
      cases hc
    · rw [commitIds_afterLine hblank hclear] at hc
      split at hc
      · next hm =>
        rw [List.mem_append, List.mem_singleton] at hc
        exact hc.imp_right (⟨hm, ·⟩)
      · exact Or.inl hc

namespace Session

/-- Whether every checkout of a run is one of a branch that exists when it is run. -/
def checksOutBranches (source : Source) : Session → List String → Bool
  | _, [] => true
  | t, line :: lines =>
    t.snapshot.checksOutBranch line && checksOutBranches source (t.run source line) lines

/-- Two sessions that have gone the same way. All ids of commits are ones that have been taken, so
that the next one is new in both sessions. -/
structure Corresponds (ids : IdSource) (ρ : String → String) (t u : Session) : Prop where
  linked : t.snapshot.WellLinked
  taken : ∀ c ∈ t.snapshot.commitIds, ∃ n < t.idsTaken, ids.nth n = c
  idsTaken : u.idsTaken = t.idsTaken
  renamed : t.snapshot.RenamedTo ρ u.snapshot

variable {first second : Source} {now : Timestamp} {ρ : String → String} {t u : Session}
  {line : String}

/-- The map keeps the ids of the commits apart. -/
theorem Corresponds.renames (h : Corresponds first.ids ρ t u) (hids' : second.ids.Distinct)
    (hρ : first.ids.Pairs second.ids ρ) : t.snapshot.Renames ρ where
  nowhere := hρ.nowhere
  injOn := by
    have hempty : ρ "" = "" := (hρ.nowhere "").mpr rfl
    rintro id (rfl | hid) id' (rfl | hid') he
    · rfl
    · rw [hempty] at he
      exact ((hρ.nowhere id').mp he.symm).symm
    · rw [hempty] at he
      exact (hρ.nowhere id).mp he
    · obtain ⟨n, -, rfl⟩ := h.taken id hid
      obtain ⟨m, -, rfl⟩ := h.taken id' hid'
      rw [hρ.nth, hρ.nth] at he
      rw [hids'.injective he]

section

variable (hclock : ∀ n, first.clock n = now) (hclock' : ∀ n, second.clock n = now)
  (hids : first.ids.Distinct) (hids' : second.ids.Distinct) (hρ : first.ids.Pairs second.ids ρ)

include hids hids' hρ

/-- Both sessions find the next id of their sources to be new. -/
theorem Corresponds.next_ids (h : Corresponds first.ids ρ t u) :
    first.ids.unused? t.snapshot.commitIds t.idsTaken =
        some (first.ids.nth t.idsTaken, t.idsTaken + 1) ∧
      second.ids.unused? u.snapshot.commitIds u.idsTaken =
        some (ρ (first.ids.nth t.idsTaken), t.idsTaken + 1) := by
  rw [hρ.nth, h.idsTaken]
  constructor
  · refine IdSource.unused?_of_not_mem fun hmem => ?_
    obtain ⟨n, hn, he⟩ := h.taken _ hmem
    exact Nat.ne_of_lt hn (hids.injective he)
  · refine IdSource.unused?_of_not_mem ?_
    obtain ⟨log, hrenamed, -⟩ := h.renamed
    rw [hrenamed, Snapshot.commitIds_rename, List.mem_map]
    rintro ⟨c, hc, he⟩
    obtain ⟨n, hn, rfl⟩ := h.taken c hc
    rw [hρ.nth] at he
    exact Nat.ne_of_lt hn (hids'.injective he)

include hclock hclock'

/-- A line takes the same number of ids in both sessions, and the id that it uses in the second one
is the image of the one that it uses in the first. -/
theorem Corresponds.run_snapshots (h : Corresponds first.ids ρ t u)
    (hm' : u.snapshot.makesCommit line = t.snapshot.makesCommit line) :
    ∃ id, (t.run first line).snapshot = t.snapshot.afterLine id now line ∧
      (u.run second line).snapshot = u.snapshot.afterLine (ρ id) now line ∧
      (u.run second line).idsTaken = (t.run first line).idsTaken ∧
      t.idsTaken ≤ (t.run first line).idsTaken ∧
      (t.snapshot.makesCommit line = true →
        ∃ n < (t.run first line).idsTaken, first.ids.nth n = id) := by
  cases hm : t.snapshot.makesCommit line with
  | false =>
    obtain ⟨hsnapshot, htaken⟩ := run_of_not_makesCommit hclock hm
    obtain ⟨hsnapshot', htaken'⟩ := run_of_not_makesCommit hclock' (hm'.trans hm)
    refine ⟨"", hsnapshot, ?_, ?_, htaken.ge, fun h => by cases h⟩
    · rw [(hρ.nowhere "").mpr rfl]
      exact hsnapshot'
    · rw [htaken, htaken', h.idsTaken]
  | true =>
    obtain ⟨hnext, hnext'⟩ := h.next_ids hids hids' hρ
    obtain ⟨hsnapshot, htaken⟩ := run_of_makesCommit hclock hm hnext
    obtain ⟨hsnapshot', htaken'⟩ := run_of_makesCommit hclock' (hm'.trans hm) hnext'
    refine ⟨first.ids.nth t.idsTaken, hsnapshot, hsnapshot', htaken'.trans htaken.symm, ?_, ?_⟩
    · omega
    · exact fun _ => ⟨t.idsTaken, by omega, rfl⟩

/-- One line in both sessions. -/
theorem Corresponds.run (h : Corresponds first.ids ρ t u)
    (hb : t.snapshot.checksOutBranch line = true) :
    Corresponds first.ids ρ (t.run first line) (u.run second line) ∧
      (u.interpret line).withoutOutput = (t.interpret line).withoutOutput := by
  have hrenames := h.renames hids' hρ
  obtain ⟨log, hrenamed, hlog⟩ := h.renamed
  have hm : u.snapshot.makesCommit line = t.snapshot.makesCommit line := by
    rw [hrenamed, Snapshot.makesCommit_rename hrenames hb]
  obtain ⟨id, hafter, hafter', htaken, hle, hnew⟩ :=
    h.run_snapshots hclock hclock' hids hids' hρ hm
  -- Both sessions apply one function, the second one to the image of what the first applies it to.
  constructor
  · constructor
    case linked =>
      exact Snapshot.Step.keeps (fun hs hlinked => hlinked.step hs) (run_steps line) h.linked
    case taken =>
      intro c hc
      rw [hafter] at hc
      rcases Snapshot.mem_commitIds_afterLine hc with hold | ⟨hmakes, rfl⟩
      · obtain ⟨n, hn, rfl⟩ := h.taken c hold
        exact ⟨n, by omega, rfl⟩
      · exact hnew hmakes
    case idsTaken => exact htaken
    case renamed =>
      rw [hafter, hafter', hrenamed]
      exact Snapshot.afterLine_rename hrenames h.linked hb hlog id now
  · rw [interpret, interpret, hrenamed]
    exact Snapshot.interpret_rename hrenames hb

theorem Corresponds.runAll (h : Corresponds first.ids ρ t u) {lines : List String}
    (hb : checksOutBranches first t lines = true) :
    Corresponds first.ids ρ (t.runAll first lines) (u.runAll second lines) ∧
      (answers second u lines).map (·.withoutOutput) =
        (answers first t lines).map (·.withoutOutput) := by
  induction lines generalizing t u with
  | nil => exact ⟨h, rfl⟩
  | cons line lines ih =>
    rw [checksOutBranches, Bool.and_eq_true] at hb
    obtain ⟨hrun, hanswer⟩ := h.run hclock hclock' hids hids' hρ hb.1
    obtain ⟨hall, hanswers⟩ := ih hrun hb.2
    refine ⟨hall, ?_⟩
    rw [answers, answers, List.map_cons, List.map_cons, hanswer, hanswers]

end

/-- Run lines that check out branches only in two fresh sessions with the same standing clock, each
with a source that never shows an id twice. The answers are the same line by line but for their
texts, and the repositories are the same but for the texts in the logs and for a renaming of the
ids. -/
theorem ids_opaque (hclock : ∀ n, first.clock n = now) (hclock' : ∀ n, second.clock n = now)
    (hids : first.ids.Distinct) (hids' : second.ids.Distinct) (lines : List String)
    (hb : checksOutBranches first {} lines = true) :
    (answers second {} lines).map (·.withoutOutput) =
        (answers first {} lines).map (·.withoutOutput) ∧
      ∃ ρ, first.ids.Pairs second.ids ρ ∧ (Session.runAll first {} lines).snapshot.Renames ρ ∧
        (Session.runAll first {} lines).snapshot.RenamedTo ρ
          (Session.runAll second {} lines).snapshot := by
  obtain ⟨ρ, hρ⟩ := hids.exists_pairs hids'
  have hstart : Corresponds first.ids ρ {} {} :=
    { linked := .empty
      taken := fun c hc => by cases hc
      idsTaken := rfl
      renamed := ⟨[], by simp [Snapshot.rename, Snapshot.empty, hρ.nowhere], rfl⟩ }
  obtain ⟨hall, hanswers⟩ := hstart.runAll hclock hclock' hids hids' hρ hb
  exact ⟨hanswers, ρ, hρ, hall.renames hids' hρ, hall.renamed⟩

/-- The second source shows the ids of the first one too, but one place earlier. -/
theorem ids_opaque_of_shifted :
    let second : Source :=
      { ids := { nth n := IdSource.numbered (n + 1) }, clock := Source.sample.clock }
    let lines := ["git init", "git add .", "git commit -m one", "clear", "git init", "git add .",
      "git commit -m two", "git checkout -b side", "touch a", "git add a", "git commit -m three",
      "git checkout main", "git merge side", "git reset --hard HEAD~1"]
    let s := (Session.runAll .sample {} lines).snapshot
    let s' := (Session.runAll second {} lines).snapshot
    checksOutBranches .sample {} lines = true ∧ s.commitIds = ["c000002", "c000003", "c000004"] ∧
      s'.commitIds = ["c000003", "c000004", "c000005"] ∧
      (answers second {} lines).map (·.withoutOutput) =
        (answers .sample {} lines).map (·.withoutOutput) ∧
      ∃ ρ, Source.sample.ids.Pairs second.ids ρ ∧ s.Renames ρ ∧ s.RenamedTo ρ s' := by
  intro second lines s s'
  have hb : checksOutBranches .sample {} lines = true := by decide +kernel
  have hids : Source.sample.ids.Distinct :=
    { injective := IdSource.numbered_injective
      ne_empty := IdSource.numbered_ne_empty }
  have hids' : second.ids.Distinct :=
    { injective := fun n m he => Nat.succ.inj (IdSource.numbered_injective he)
      ne_empty := fun n => IdSource.numbered_ne_empty (n + 1) }
  refine ⟨hb, by decide +kernel, by decide +kernel, ?_⟩
  exact ids_opaque (fun _ => rfl) (fun _ => rfl) hids hids' lines hb

end Session
end GitPractice
