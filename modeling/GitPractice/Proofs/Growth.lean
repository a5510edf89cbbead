import GitPractice.Proofs.Dispatch
import Mathlib.Data.List.Forall2

/-!
# What is recorded stays

Commits and log entries are added at the end, one at a time, and none is changed
or taken away but by the action that discards everything. A branch keeps its
place, its name and its colour; its pointer moves only while it is the current
branch, and only by an action that moves HEAD along with it. Setting the
repository up makes the branches anew.

This holds in every state (`Snapshot.apply_extends`), also where names are
repeated and pointers lead nowhere, so it does not rest on how the state came about.
-/

namespace GitPractice
namespace Snapshot

/-- Where an action may move the current branch: to the commit that it has made, or to the first
parent of the one at HEAD. -/
inductive Destination (s s' : Snapshot) : Action → String → Prop
  | commit {message : String} {c : Commit} (hc : s'.commits = s.commits ++ [c]) :
      Destination s s' (.commit message) c.id
  | merge {name : String} {c : Commit} (hc : s'.commits = s.commits ++ [c]) :
      Destination s s' (.merge name) c.id
  | reset {mode : ResetMode} {target parent : String} {c : Commit} (hc : s.headCommit = some c)
      (hp : c.parent = some parent) : Destination s s' (.reset mode target) parent

/-- `b'` is what the action has made of the branch `b`. -/
structure Continues (s s' : Snapshot) (a : Action) (b b' : Branch) : Prop where
  name : b'.name = b.name
  color : b'.color = b.color
  commit : b'.commit = b.commit ∨ b.name = s.currentBranch ∧ Destination s s' a b'.commit

/-- What is recorded in `s` is recorded in `s'` at the same place, and what is recorded there besides
comes from the action. -/
structure Extends (s : Snapshot) (a : Action) (s' : Snapshot) : Prop where
  commits : ∃ new, s'.commits = s.commits ++ new ∧ new.length ≤ 1 ∧
    (new ≠ [] → (∃ message, a = .commit message) ∨ ∃ name, a = .merge name)
  history : ∃ new, s'.history = s.history ++ new ∧ new.length ≤ 1 ∧
    (new ≠ [] → ∃ command output isError, a = .record command output isError)
  branches : a ≠ .create → ∃ kept new, s'.branches = kept ++ new ∧ new.length ≤ 1 ∧
    List.Forall₂ (s.Continues s' a) s.branches kept

variable {s s' : Snapshot} {id : String} {now : Timestamp} {a : Action}

/-! ## One action -/

theorem Effect.commits (h : s.Effect id now a s') (ha : a ≠ .resetAll) :
    ∃ new, s'.commits = s.commits ++ new ∧ new.length ≤ 1 ∧
      (new ≠ [] → (∃ message, a = .commit message) ∨ ∃ name, a = .merge name) := by
  cases h with
  | commit => exact ⟨[_], rfl, Nat.le_refl 1, fun _ => Or.inl ⟨_, rfl⟩⟩
  | merge => exact ⟨[_], rfl, Nat.le_refl 1, fun _ => Or.inr ⟨_, rfl⟩⟩
  | resetAll => exact absurd rfl ha
  | _ => exact ⟨[], (List.append_nil _).symm, Nat.zero_le 1, fun hne => absurd rfl hne⟩

theorem Effect.history (h : s.Effect id now a s') (ha : a ≠ .resetAll) :
    ∃ new, s'.history = s.history ++ new ∧ new.length ≤ 1 ∧
      (new ≠ [] → ∃ command output isError, a = .record command output isError) := by
  cases h with
  | record => exact ⟨[_], rfl, Nat.le_refl 1, fun _ => ⟨_, _, _, rfl⟩⟩
  | resetAll => exact absurd rfl ha
  | _ => exact ⟨[], (List.append_nil _).symm, Nat.zero_le 1, fun hne => absurd rfl hne⟩

theorem continues_same (s s' : Snapshot) (a : Action) :
    List.Forall₂ (s.Continues s' a) s.branches s.branches :=
  List.forall₂_same.mpr fun _ _ => { name := rfl, color := rfl, commit := Or.inl rfl }

theorem continues_moveCurrent (h : Destination s s' a id) :
    List.Forall₂ (s.Continues s' a) s.branches (s.moveCurrent id) := by
  rw [moveCurrent, List.forall₂_map_right_iff, List.forall₂_same]
  -- There may be several branches of the current name, and then all of them move.
  intro b _
  by_cases hn : b.name = s.currentBranch
  · rw [if_pos hn]
    exact { name := rfl, color := rfl, commit := Or.inr ⟨hn, h⟩ }
  · rw [if_neg hn]
    exact { name := rfl, color := rfl, commit := Or.inl rfl }

theorem Effect.branches (h : s.Effect id now a s') (ha : a ≠ .resetAll) (hc : a ≠ .create) :
    ∃ kept new, s'.branches = kept ++ new ∧ new.length ≤ 1 ∧
      List.Forall₂ (s.Continues s' a) s.branches kept := by
  cases h with
  | create => exact absurd rfl hc
  | resetAll => exact absurd rfl ha
  | commit =>
    refine ⟨_, [], (List.append_nil _).symm, Nat.zero_le 1, continues_moveCurrent ?_⟩
    exact Destination.commit (c := s.commitAtHead id now _) rfl
  | merge =>
    refine ⟨_, [], (List.append_nil _).symm, Nat.zero_le 1, continues_moveCurrent ?_⟩
    exact Destination.merge (c := s.mergeAtHead id now _) rfl
  | reset hp =>
    obtain ⟨⟨c, hhead, hparent⟩, -⟩ := resetParent_eq_some_iff.mp hp
    refine ⟨_, [], (List.append_nil _).symm, Nat.zero_le 1, continues_moveCurrent ?_⟩
    exact Destination.reset hhead hparent
  | createBranch | createAndCheckoutBranch =>
    exact ⟨s.branches, [_], rfl, Nat.le_refl 1, continues_same _ _ _⟩
  | _ => exact ⟨s.branches, [], (List.append_nil _).symm, Nat.zero_le 1, continues_same _ _ _⟩

/-- An action that does not discard everything leaves what is recorded as it is, in every state and
whatever id and time it is given. -/
theorem apply_extends (s : Snapshot) (id : String) (now : Timestamp) {a : Action}
    (ha : a ≠ .resetAll) : s.Extends a (s.apply id now a) := by
  have h := s.apply_effect id now a
  exact { commits := h.commits ha, history := h.history ha, branches := h.branches ha }

/-- Two branches of the current name that point to different places, and a third. -/
def twins : Snapshot where
  initialized := true
  branches := [{ name := "main", commit := "a", color := "" },
    { name := "side", commit := "a", color := "" }, { name := "main", commit := "b", color := "" }]
  currentBranch := "main"
  head := "a"
  staged := [{ name := "x", status := .added }]

theorem extends_of_twins :
    Action.commit "one" ≠ .resetAll ∧
      (twins.apply "c" .sample (.commit "one")).branches.map (·.commit) = ["c", "a", "c"] ∧
      twins.Extends (.commit "one") (twins.apply "c" .sample (.commit "one")) :=
  ⟨by decide, by decide +kernel, apply_extends twins "c" .sample (by decide)⟩

end Snapshot

/-! ## Runs -/

/-- What is recorded at the start is there at the end of every run of actions that never discards
everything, and at the same place. -/
theorem Session.prefix_dispatchAll (source : Source) (t : Session) {actions : List Action}
    (h : .resetAll ∉ actions) :
    t.snapshot.commits <+: (t.dispatchAll source actions).snapshot.commits ∧
      t.snapshot.history <+: (t.dispatchAll source actions).snapshot.history := by
  induction actions generalizing t with
  | nil => exact ⟨List.prefix_refl _, List.prefix_refl _⟩
  | cons a actions ih =>
    obtain ⟨ha, hrest⟩ := List.ne_and_not_mem_of_not_mem_cons h
    obtain ⟨id, now, heffect⟩ := dispatch_effect source t a
    obtain ⟨commits, hcommits, -⟩ := heffect.commits (Ne.symm ha)
    obtain ⟨entries, hhistory, -⟩ := heffect.history (Ne.symm ha)
    have hfirst : t.snapshot.commits <+: (t.dispatch source a).snapshot.commits ∧
        t.snapshot.history <+: (t.dispatch source a).snapshot.history := by
      rw [hcommits, hhistory]
      exact ⟨List.prefix_append _ _, List.prefix_append _ _⟩
    exact ⟨hfirst.1.trans (ih _ hrest).1, hfirst.2.trans (ih _ hrest).2⟩

end GitPractice
