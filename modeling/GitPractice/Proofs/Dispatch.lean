import GitPractice.Proofs.Run
import GitPractice.Proofs.Staging

/-!
# Actions in any order

The line reader asks for an action only where it fits, and never for some. Whoever
holds a session may dispatch any action at any time: stage files before there is
a repository, set it up twice, or start a branch at an id that no commit has.
`Effect` lists what an action does then, and `apply_effect` says that there is
nothing else. So what every effect keeps is kept by every sequence of actions, by
an induction in which `Session.dispatch_effect` is the step.
-/

namespace GitPractice
namespace Snapshot

/-- What an action makes of a snapshot, together with what it has found there. An action may also
find nothing to do. -/
inductive Effect (s : Snapshot) (id : String) (now : Timestamp) : Action → Snapshot → Prop
  | ignored (a : Action) : Effect s id now a s
  | create : Effect s id now .create s.create
  | createFile {name : String} (hn : name ∉ s.fileNames) :
      Effect s id now (.createFile name) { s with working := s.working ++ [{ name }] }
  | modifyFile (name : String) : Effect s id now (.modifyFile name) (s.modifyFile name)
  | stage (names : List String) : Effect s id now (.stage names) (s.stage names)
  | commit {message : String} (hs : s.staged ≠ []) :
      Effect s id now (.commit message) { s with
        commits := s.commits ++ [s.commitAtHead id now message]
        head := id
        staged := []
        detached := false
        branches := s.moveCurrent id }
  | checkout {b : Branch} (hb : s.findBranch b.name = some b) :
      Effect s id now (.checkout b.name)
        { s with currentBranch := b.name, head := b.commit, detached := false }
  | checkoutCommit {start : String} {c : Commit} (hc : s.resolve start = some c) :
      Effect s id now (.checkoutCommit start)
        { s with head := c.id, detached := true, currentBranch := "" }
  | createBranch {name : String} {source : Option String} (hn : s.findBranch name = none) :
      Effect s id now (.createBranch name source)
        { s with branches := s.branches ++ [s.branchAt name source] }
  | createAndCheckoutBranch {name : String} (hn : s.findBranch name = none) :
      Effect s id now (.createAndCheckoutBranch name) { s with
        branches := s.branches ++ [s.branchAtHead name]
        currentBranch := name
        detached := false }
  | merge {name : String} {source : Branch} (hs : s.mergeSource name = some source) :
      Effect s id now (.merge name) { s with
        commits := s.commits ++ [s.mergeAtHead id now source]
        head := id
        branches := s.moveCurrent id }
  | reset {mode : ResetMode} {parent : String} (hp : s.resetParent = some parent) :
      Effect s id now (.reset mode resetTarget) { s with
        head := parent
        branches := s.moveCurrent parent
        staged := if mode = .hard then [] else s.staged
        working := if mode = .hard then [] else s.working }
  | record (command output : String) (isError : Bool) :
      Effect s id now (.record command output isError) (s.record now command output isError)
  | resetAll : Effect s id now .resetAll empty

theorem apply_effect (s : Snapshot) (id : String) (now : Timestamp) (a : Action) :
    s.Effect id now a (s.apply id now a) := by
  cases a with
  | create => exact .create
  | createFile name =>
    rw [apply]
    cases hk : s.hasFile name with
    | true =>
      rw [createFile_of_known hk]
      exact .ignored _
    | false =>
      rw [createFile_of_new hk]
      exact .createFile fun hmem => by simp [hasFile_iff.mpr hmem] at hk
  | modifyFile name => exact .modifyFile name
  | stage names => exact .stage names
  | commit message =>
    rw [apply]
    by_cases hs : s.staged = []
    · rw [commit_of_nothing_staged hs]
      exact .ignored _
    · rw [commit_of_staged hs]
      exact .commit hs
  | checkout name =>
    rw [apply]
    cases hb : s.findBranch name with
    | none =>
      rw [checkout_of_none hb]
      exact .ignored _
    | some b =>
      obtain rfl := findBranch_name hb
      rw [checkout_of_found hb]
      exact .checkout hb
  | checkoutCommit start =>
    rw [apply]
    cases hc : s.resolve start with
    | none =>
      rw [checkoutCommit_of_none hc]
      exact .ignored _
    | some c =>
      rw [checkoutCommit_of_found hc]
      exact .checkoutCommit hc
  | createBranch name source =>
    rw [apply]
    cases hb : s.findBranch name with
    | none =>
      rw [createBranch_eq hb]
      exact .createBranch hb
    | some b =>
      rw [createBranch_of_known (by rw [hb]; rfl)]
      exact .ignored _
  | createAndCheckoutBranch name =>
    rw [apply]
    cases hb : s.findBranch name with
    | none =>
      rw [createAndCheckoutBranch_of_new hb]
      exact .createAndCheckoutBranch hb
    | some b =>
      rw [createAndCheckoutBranch_of_known (by rw [hb]; rfl)]
      exact .ignored _
  | merge name =>
    rw [apply]
    cases hs : s.mergeSource name with
    | none =>
      rw [merge_of_none hs]
      exact .ignored _
    | some source =>
      rw [merge_of_found hs]
      exact .merge hs
  | reset mode target =>
    rw [apply]
    by_cases ht : target = resetTarget
    · subst ht
      cases hp : s.resetParent with
      | none =>
        rw [reset_of_no_parent hp]
        exact .ignored _
      | some parent =>
        rw [reset_of_parent hp]
        exact .reset hp
    · rw [reset_of_other_target ht]
      exact .ignored _
  | record command output isError => exact .record command output isError
  | resetAll => exact .resetAll

end Snapshot

namespace Session

variable {source : Source} {t : Session}

def dispatchAll (source : Source) (t : Session) (actions : List Action) : Session :=
  actions.foldl (dispatch source) t

theorem dispatchAll_append (source : Source) (t : Session) (actions more : List Action) :
    t.dispatchAll source (actions ++ more) =
      (t.dispatchAll source actions).dispatchAll source more := by
  simp [dispatchAll]

theorem dispatchAll_concat (source : Source) (t : Session) (actions : List Action) (a : Action) :
    t.dispatchAll source (actions ++ [a]) = (t.dispatchAll source actions).dispatch source a :=
  dispatchAll_append source t actions [a]

theorem dispatch_effect (source : Source) (t : Session) (a : Action) :
    ∃ id now, t.snapshot.Effect id now a (t.dispatch source a).snapshot := by
  rcases @dispatch_snapshot source t a with ⟨hsame, -⟩ | ⟨id, now, happly, -⟩
  · -- No id is left for the commit.
    rw [hsame]
    exact ⟨"", source.clock t.clockReads, .ignored a⟩
  · rw [happly]
    exact ⟨id, now, Snapshot.apply_effect _ id now a⟩

end Session
end GitPractice
