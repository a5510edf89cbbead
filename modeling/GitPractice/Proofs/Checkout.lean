import GitPractice.Proofs.Guards
import GitPractice.Proofs.Head

/-!
# Checking out

A checkout moves HEAD and nothing else: it takes the mark of a detached HEAD away or sets it, and
leaves commits, branches and files alone. So whatever is checked out, with or without success, the way
back to the branch that was checked out before is a checkout of that branch (`Session.checkout_back`).
The branch still points where HEAD was, since only commits, merges and resets move it.

A branch that is named `-b` cannot be checked out by its name.
-/

namespace GitPractice

namespace Snapshot

variable {s : Snapshot} {target : String}

/-- Check out the branch of that name, else the oldest commit whose id begins so, else nothing. -/
def visit (s : Snapshot) (target : String) : Snapshot :=
  if (s.findBranch target).isSome then s.checkout target else s.checkoutCommit target

theorem visit_of_branch {b : Branch} (h : s.findBranch target = some b) :
    s.visit target = { s with currentBranch := target, head := b.commit, detached := false } := by
  rw [visit, h, Option.isSome_some, if_pos rfl, checkout_of_found h]

theorem visit_of_no_branch (h : s.findBranch target = none) : s.visit target = s.checkoutCommit target := by
  rw [visit, h, Option.isSome_none, if_neg Bool.false_ne_true]

theorem visit_of_commit (h : s.findBranch target = none) {c : Commit} (hc : s.resolve target = some c) :
    s.visit target = { s with currentBranch := "", head := c.id, detached := true } := by
  rw [visit_of_no_branch h, checkoutCommit_of_found hc]

/-- A checkout moves HEAD and nothing else. -/
theorem visit_eq (s : Snapshot) (target : String) :
    ∃ name id detached, s.visit target = { s with currentBranch := name, head := id, detached } := by
  cases hb : s.findBranch target with
  | some b => exact ⟨_, _, _, visit_of_branch hb⟩
  | none =>
    cases hc : s.resolve target with
    | some c => exact ⟨_, _, _, visit_of_commit hb hc⟩
    | none =>
      rw [visit_of_no_branch hb]
      exact ⟨_, _, _, checkoutCommit_of_none hc⟩

/-- The branch that HEAD is on is found under its name, and points where HEAD does. -/
theorem Sound.findBranch_current (h : s.Sound) (hne : s.currentBranch ≠ "") :
    s.detached = false ∧ ∃ b, s.findBranch s.currentBranch = some b ∧ b.commit = s.head := by
  obtain ⟨hattached, b, honly, hcommit⟩ := h.coherent.attached hne
  refine ⟨hattached, b, ?_, hcommit⟩
  rw [findBranch, ← List.head?_filter, honly]
  rfl

/-- Wherever HEAD has been moved to, a checkout of the branch that it was on puts it back. -/
theorem Sound.visit_current (h : s.Sound) (hne : s.currentBranch ≠ "") (name id : String) (detached : Bool)
    (log : List HistoryEntry) :
    visit { s with currentBranch := name, head := id, detached, history := log } s.currentBranch =
      { s with history := log } := by
  obtain ⟨hattached, b, hfound, hcommit⟩ := h.findBranch_current hne
  have haway : findBranch { s with currentBranch := name, head := id, detached, history := log } s.currentBranch =
      some b := hfound
  rw [visit_of_branch haway, hcommit, ← hattached]

end Snapshot

namespace Session

open Snapshot (Sound)

variable {source : Source} {t : Session} {target : String}

/-- The line that checks out a branch or a commit. -/
def checkoutLine (target : String) : String := (Request.checkout target).line

theorem interpret_checkoutLine (hi : t.snapshot.initialized = true) (h : (Request.checkout target).Complete) :
    t.interpret (checkoutLine target) = GitCommand.checkoutOutcome t.snapshot (some target) :=
  Request.interpret_line hi h

theorem run_checkoutLine (hi : t.snapshot.initialized = true) (h : (Request.checkout target).Complete) :
    ∃ log, (t.run source (checkoutLine target)).snapshot = { t.snapshot.visit target with history := log } := by
  have hanswer := interpret_checkoutLine hi h
  have haction := GitCommand.checkoutOutcome_action t.snapshot target
  have hact : (t.act source (t.interpret (checkoutLine target))).snapshot = t.snapshot.visit target := by
    rw [act, hanswer, haction, Snapshot.visit]
    by_cases hb : (t.snapshot.findBranch target).isSome
    · rw [if_pos hb, if_pos hb]
      rfl
    · rw [if_neg hb, if_neg hb]
      by_cases hc : (t.snapshot.resolve target).isSome
      · rw [if_pos hc]
        rfl
      · rw [if_neg hc, Snapshot.checkoutCommit_of_none (by simpa using hc)]
  obtain ⟨log, hrun⟩ := @run_snapshot source t (checkoutLine target)
  exact ⟨log, by rw [hrun, hact]⟩

/-- Checkouts move HEAD and are logged. -/
theorem runAll_checkoutLines (hi : t.snapshot.initialized = true) {targets : List String}
    (h : ∀ target ∈ targets, (Request.checkout target).Complete) :
    ∃ name id detached log, (t.runAll source (targets.map checkoutLine)).snapshot =
      { t.snapshot with currentBranch := name, head := id, detached, history := log } := by
  induction targets generalizing t with
  | nil => exact ⟨_, _, _, _, rfl⟩
  | cons target targets ih =>
    obtain ⟨htarget, hrest⟩ := List.forall_mem_cons.mp h
    obtain ⟨log, hrun⟩ := @run_checkoutLine source t target hi htarget
    obtain ⟨name, id, detached, hvisit⟩ := t.snapshot.visit_eq target
    rw [hvisit] at hrun
    have hinside : (t.run source (checkoutLine target)).snapshot.initialized = true := by
      rw [hrun]
      exact hi
    obtain ⟨name', id', detached', log', hall⟩ := ih hinside hrest
    rw [hrun] at hall
    exact ⟨name', id', detached', log', hall⟩

/-- Whatever lines were run, whatever ids and times the source shows: as long as HEAD is on a branch, any checkouts
and then one of that branch leave no trace but in the log. -/
theorem checkout_back (source : Source) (lines : List String)
    (hne : (runAll source {} lines).snapshot.currentBranch ≠ "")
    (hname : (runAll source {} lines).snapshot.currentBranch ≠ "-b") (targets : List String)
    (h : ∀ target ∈ targets, (Request.checkout target).Complete) :
    let s := (runAll source {} lines).snapshot
    let s' := (runAll source {} (lines ++ (targets ++ [s.currentBranch]).map checkoutLine)).snapshot
    s' = { s with history := s'.history } := by
  intro s s'
  have hs : s.Sound := sound_runAll source lines
  obtain ⟨-, b, hfound, -⟩ := hs.findBranch_current hne
  have hb : b ∈ s.branches := Snapshot.findBranch_mem hfound
  have hi : s.initialized = true := hs.linked.initialized_of_branch hb
  have hcomplete : (Request.checkout s.currentBranch).Complete :=
    ⟨Snapshot.findBranch_name hfound ▸ hs.named.of_mem hb, hname⟩
  obtain ⟨name, id, detached, log, haway⟩ := @runAll_checkoutLines source (runAll source {} lines) hi targets h
  have hinside : ((runAll source {} lines).runAll source (targets.map checkoutLine)).snapshot.initialized = true := by
    rw [haway]
    exact hi
  obtain ⟨log', hback⟩ := @run_checkoutLine source _ s.currentBranch hinside hcomplete
  rw [haway, hs.visit_current hne] at hback
  have hs' : s' = { s with history := log' } := by
    show (runAll source {} (lines ++ (targets ++ [s.currentBranch]).map checkoutLine)).snapshot = _
    rw [runAll_append, List.map_append, runAll_append]
    exact hback
  rw [hs']

/-- A branch, a commit, the beginning of an id, and something unknown are looked at. -/
theorem checkout_back_of_wandering :
    let lines := ["git init", "git add .", "git commit -m one", "git checkout -b side", "touch a", "git add a",
      "git commit -m two", "touch b"]
    let targets := ["main", "c000002", "nowhere", "c"]
    let s := (runAll .sample {} lines).snapshot
    let s' := (runAll .sample {} (lines ++ (targets ++ [s.currentBranch]).map checkoutLine)).snapshot
    s.currentBranch ≠ "" ∧ s.currentBranch ≠ "-b" ∧
      (∀ target ∈ targets, (Request.checkout target).Complete) ∧
      (runAll .sample {} (lines ++ targets.map checkoutLine)).snapshot.detached = true ∧
      s' = { s with history := s'.history } := by
  intro lines targets s s'
  have hcurrent : s.currentBranch = "side" := by decide +kernel
  have hne : s.currentBranch ≠ "" := by simp [hcurrent]
  have hname : s.currentBranch ≠ "-b" := by simp [hcurrent]
  have hcomplete : ∀ target ∈ targets, Text.IsWord target ∧ target ≠ "-b" := by decide +kernel
  exact ⟨hne, hname, hcomplete, by decide +kernel,
    checkout_back .sample lines hne hname targets hcomplete⟩

end Session
end GitPractice
