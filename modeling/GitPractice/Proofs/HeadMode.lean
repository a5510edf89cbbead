import GitPractice.Proofs.Head
import GitPractice.Proofs.Line
import GitPractice.View.Panel

/-!
# Where HEAD stands

HEAD is on a branch, or it is detached and on a commit, and what is shown of it
names the one or the other. There is a third case. A commit made while HEAD is
detached takes the mark away without putting HEAD on a branch, so that HEAD is
on a commit, is not called detached, and is shown by an empty name.

`Session.Strays` says of the lines alone when this is so: a line has committed
while HEAD was detached, and no line after it has placed HEAD anew. In every
other repository HEAD is in one of the two plain modes.
-/

namespace GitPractice

/-- Whether the action places HEAD, wherever it stood before. -/
def Action.placesHead : Action → Bool
  | .create | .checkout _ | .checkoutCommit _ | .createAndCheckoutBranch _ | .resetAll => true
  | _ => false

namespace Snapshot

/-- The lines of `git branch` that are marked. -/
def markedLines (s : Snapshot) : List String :=
  (GitCommand.branchLines s).filter (Text.startsWith · "* ")

/-- HEAD is on the branch `b`, and is shown there. -/
structure OnBranch (s : Snapshot) (b : Branch) : Prop where
  attached : s.detached = false
  mem : b ∈ s.branches
  name : s.currentBranch = b.name
  marked : s.markedLines = ["* " ++ b.name]
  prompt : ∀ names : PromptNames,
    GitPractice.prompt s names = names.user ++ "@" ++ names.repoHost ++ ":(" ++ b.name ++ ")$ "

/-- HEAD is detached and on the commit `c`, and is shown there. -/
structure OnCommit (s : Snapshot) (c : Commit) : Prop where
  detached : s.detached = true
  mem : c ∈ s.commits
  head : s.head = c.id
  name : s.currentBranch = ""
  marked : s.markedLines = ["* (HEAD detached at " ++ c.short ++ ")"]
  prompt : ∀ names : PromptNames,
    GitPractice.prompt s names = names.user ++ "@" ++ names.repoHost ++ ":((" ++ c.short ++ "))$ "

/-- HEAD is on the commit `c`, without being called detached, and is not shown. -/
structure Adrift (s : Snapshot) (c : Commit) : Prop where
  attached : s.detached = false
  mem : c ∈ s.commits
  head : s.head = c.id
  name : s.currentBranch = ""
  marked : s.markedLines = []
  prompt : ∀ names : PromptNames,
    GitPractice.prompt s names = names.user ++ "@" ++ names.repoHost ++ ":()$ "

/-- Neither detached nor on a branch, in a repository that is set up. -/
def Loose (s : Snapshot) : Prop :=
  s.initialized = true ∧ s.detached = false ∧ s.currentBranch = ""

variable {s s' : Snapshot}

/-! ## What is shown -/

theorem startsWith_append (start s : String) : Text.startsWith (start ++ s) start = true := by
  rw [Text.startsWith, String.toList_append, List.isPrefixOf_iff_prefix]
  exact List.prefix_append _ _

/-- A branch is marked when it is the current one, whatever its name. -/
theorem markedLines_eq (s : Snapshot) :
    s.markedLines =
      (if s.detached then ["* (HEAD detached at " ++ shortId s.head ++ ")"] else []) ++
        (s.branches.filter s.isCurrent).map fun b => "* " ++ b.name := by
  have hhead : Text.startsWith ("* (HEAD detached at " ++ shortId s.head ++ ")") "* " = true := by
    simp [Text.startsWith, String.toList_append]
  have hbranch : ((Text.startsWith · "* ") ∘
      fun b => (if s.isCurrent b then "* " else "  ") ++ b.name) = s.isCurrent := by
    funext b
    show Text.startsWith ((if s.isCurrent b then "* " else "  ") ++ b.name) "* " = s.isCurrent b
    cases s.isCurrent b with
    | true => exact startsWith_append "* " b.name
    | false => simp [Text.startsWith, String.toList_append, List.isPrefixOf]
  have hbranches : (s.branches.map fun b => (if s.isCurrent b then "* " else "  ") ++ b.name).filter
        (Text.startsWith · "* ") = (s.branches.filter s.isCurrent).map fun b => "* " ++ b.name := by
    rw [List.filter_map, hbranch]
    refine List.map_congr_left fun b hb => ?_
    rw [if_pos (List.of_mem_filter hb)]
  rw [markedLines, GitCommand.branchLines, List.filter_append, hbranches]
  cases s.detached with
  | true => rw [if_pos rfl, List.filter_singleton, hhead]; rfl
  | false => rfl

namespace Sound

theorem onBranch (h : s.Sound) (hi : s.initialized = true) (hne : s.currentBranch ≠ "") :
    ∃ b, s.OnBranch b := by
  obtain ⟨hd, b, hb, -⟩ := h.coherent.attached hne
  have hmem : b ∈ s.branches.filter (·.name = s.currentBranch) := by
    rw [hb]
    exact List.mem_singleton_self b
  obtain ⟨hmem, hname⟩ := List.mem_filter.mp hmem
  have hname : b.name = s.currentBranch := by simpa using hname
  have hcurrent : s.isCurrent = fun b => decide (b.name = s.currentBranch) := by
    funext b
    simp [isCurrent, hd]
  refine ⟨b, hd, hmem, hname.symm, ?_, ?_⟩
  · rw [markedLines_eq, hcurrent, hb, hd]
    rfl
  · intro names
    simp [GitPractice.prompt, hi, hd, hname]

theorem exists_headCommit (h : s.head ∈ s.commitIds) : ∃ c ∈ s.commits, s.head = c.id := by
  obtain ⟨c, hc, hid⟩ := List.mem_map.mp h
  exact ⟨c, hc, hid.symm⟩

theorem onCommit (h : s.Sound) (hi : s.initialized = true) (hd : s.detached = true) :
    ∃ c, s.OnCommit c := by
  obtain ⟨hname, hhead⟩ := h.coherent.detached hd
  obtain ⟨c, hc, hid⟩ := exists_headCommit hhead
  have hnone : s.branches.filter s.isCurrent = [] := by
    rw [List.filter_eq_nil_iff]
    simp [isCurrent, hd]
  refine ⟨c, hd, hc, hid, hname, ?_, ?_⟩
  · rw [markedLines_eq, hnone, hd, hid]
    rfl
  · intro names
    simp [GitPractice.prompt, hi, hd, hid, Commit.short]

/-- No branch has an empty name, so none is the current one. -/
theorem adrift (h : s.Sound) (hl : s.Loose) : ∃ c, s.Adrift c := by
  obtain ⟨hi, hd, hn⟩ := hl
  obtain ⟨c, hc, hid⟩ := exists_headCommit (h.coherent.unattached hi hn)
  have hnone : s.branches.filter s.isCurrent = [] := by
    rw [List.filter_eq_nil_iff]
    intro b hb
    simp [isCurrent, hn, (h.named.of_mem hb).1]
  refine ⟨c, hd, hc, hid, hn, ?_, ?_⟩
  · rw [markedLines_eq, hnone, hd]
    rfl
  · intro names
    simp only [GitPractice.prompt, hi, hd, hn, Bool.not_true,
      Bool.false_eq_true, if_false, String.append_empty]
    have hsuffix : ":(" ++ ")$ " = ":()$ " := rfl
    rw [← hsuffix]
    exact String.append_assoc

end Sound

/-! ## Actions

An action places HEAD, or it commits and takes the mark of a detached HEAD away,
or it leaves the mode of HEAD as it is. -/

variable {a : Action}

/-- What an action adds, if it is no merge, is the commit that was asked for. -/
theorem Offers.appends_iff (ho : s.Offers a) (id : String) (now : Timestamp) :
    (∃ c : Commit, c.isMerge = false ∧ (s.apply id now a).commits = s.commits ++ [c]) ↔
      ∃ message, a = .commit message := by
  constructor
  · rintro ⟨c, hmerge, hcommits⟩
    have hids := (ho.commitIds_history id now).1
    cases hcreates : s.createsCommit a with
    | false =>
      rw [hcreates, commitIds, hcommits, commitIds] at hids
      simpa using congrArg List.length hids
    | true =>
      cases ho with
      | commit => exact ⟨_, rfl⟩
      | merge _ hs =>
        obtain ⟨source, hsource⟩ := Option.isSome_iff_exists.mp hs
        rw [apply, merge_of_found hsource] at hcommits
        rw [← List.singleton_inj.mp (List.append_cancel_left hcommits)] at hmerge
        cases hmerge
      | _ => cases hcreates
  · rintro ⟨message, hmessage⟩
    cases ho with
    | @commit ws _ hs =>
      refine ⟨s.commitAtHead id now (cleanMessage ws), rfl, ?_⟩
      rw [apply, commit_of_staged hs]
    | _ => cases hmessage

/-- What places HEAD puts it on a branch with a name or calls it detached. -/
theorem Offers.not_loose_of_placesHead (ho : s.Offers a) (hw : s.WellNamed)
    (hp : a.placesHead = true) (id : String) (now : Timestamp) : ¬ (s.apply id now a).Loose := by
  rintro ⟨-, hd, hn⟩
  cases ho with
  | create => exact isWord_defaultBranch.1 hn
  | checkout _ hb =>
    obtain ⟨b, hb⟩ := Option.isSome_iff_exists.mp hb
    rw [apply, checkout_of_found hb, ← findBranch_name hb] at hn
    exact (hw.of_mem (findBranch_mem hb)).1 hn
  | checkoutCommit _ _ hc =>
    obtain ⟨c, hc⟩ := Option.isSome_iff_exists.mp hc
    rw [apply, checkoutCommit_of_found hc] at hd
    cases hd
  | createAndCheckoutBranch _ hword hnew =>
    rw [apply, createAndCheckoutBranch_of_new hnew] at hn
    exact hword.1 hn
  | _ => cases hp

theorem Offers.loose_apply_iff_of_other (ho : s.Offers a) (hp : a.placesHead = false)
    (hc : ¬ ∃ message, a = .commit message) (id : String) (now : Timestamp) :
    (s.apply id now a).Loose ↔ s.Loose := by
  cases ho with
  | commit => exact absurd ⟨_, rfl⟩ hc
  | modifyFile | stage => exact Iff.rfl
  | createFile =>
    rw [apply, createFile_eq]
    exact Iff.rfl
  | createBranch _ _ hn =>
    rw [apply, createBranch_of_new hn]
    exact Iff.rfl
  | merge _ hs =>
    obtain ⟨source, hsource⟩ := Option.isSome_iff_exists.mp hs
    rw [apply, merge_of_found hsource]
    exact Iff.rfl
  | reset =>
    rw [apply]
    cases hparent : s.resetParent with
    | none => rw [reset_of_no_parent hparent]
    | some parent =>
      rw [reset_hard_of_parent hparent]
      exact Iff.rfl
  | _ => cases hp

/-- A commit leaves HEAD loose if it was loose before or detached, that is, if it was on no branch. -/
theorem loose_commit_iff (h : s.Sound) (hi : s.initialized = true) (hs : s.staged ≠ [])
    (id : String) (now : Timestamp) (message : String) :
    (s.apply id now (.commit message)).Loose ↔ s.Loose ∨ s.detached = true := by
  have hname (hd : s.detached = true) : s.currentBranch = "" := (h.coherent.detached hd).1
  rw [apply, commit_of_staged hs]
  constructor
  · rintro ⟨-, -, hn⟩
    cases hd : s.detached with
    | false => exact Or.inl ⟨hi, hd, hn⟩
    | true => exact Or.inr rfl
  · rintro (hl | hd)
    · exact ⟨hi, rfl, hl.2.2⟩
    · exact ⟨hi, rfl, hname hd⟩

/-- HEAD is loose after an action that commits while HEAD is detached. Otherwise it is loose if it
was and has not been placed. -/
theorem Offers.loose_apply_iff (ho : s.Offers a) (h : s.Sound) (id : String) (now : Timestamp) :
    (s.apply id now a).Loose ↔
      s.Loose ∧ a.placesHead = false ∨ s.detached = true ∧ ∃ message, a = .commit message := by
  by_cases hc : ∃ message, a = .commit message
  · have hcommit : (s.apply id now a).Loose ↔ s.Loose ∨ s.detached = true := by
      cases ho with
      | commit hi hs => exact loose_commit_iff h hi hs id now _
      | _ => obtain ⟨_, he⟩ := hc; cases he
    have hp : a.placesHead = false := by
      obtain ⟨_, rfl⟩ := hc
      rfl
    simp only [hcommit, hp, hc, and_true]
  · cases hp : a.placesHead with
    | true => simp [ho.not_loose_of_placesHead h.named hp id now, hc]
    | false => simp [ho.loose_apply_iff_of_other hp hc id now, hc]

end Snapshot

namespace Session

open Snapshot (Offers)

variable {source : Source} {t : Session}

/-- The line makes a commit, and no merge, while HEAD is detached. -/
def CommitsDetached (source : Source) (t : Session) (line : String) : Prop :=
  t.snapshot.detached = true ∧ ∃ c : Commit, c.isMerge = false ∧
    (t.run source line).snapshot.commits = t.snapshot.commits ++ [c]

/-- Some line commits while HEAD is detached, and no line after it places HEAD. -/
def Strays (source : Source) (lines : List String) : Prop :=
  ∃ before line after, lines = before ++ line :: after ∧
    CommitsDetached source (runAll source {} before) line ∧
    ∀ answer ∈ answers source (runAll source {} (before ++ [line])) after,
      ∀ a ∈ answer.action, a.placesHead = false

theorem placesHead_of_createsCommit {a : Action} (h : t.snapshot.createsCommit a = true) :
    a.placesHead = false := by
  cases a with
  | commit | merge => rfl
  | _ => cases h

theorem loose_run_iff (h : t.snapshot.Sound) (line : String) :
    (t.run source line).snapshot.Loose ↔
      (t.snapshot.Loose ∧ ∀ a ∈ (t.interpret line).action, a.placesHead = false) ∨
        CommitsDetached source t line := by
  obtain ⟨log, hlog⟩ := @run_snapshot source t line
  rw [CommitsDetached, hlog]
  show (t.act source (t.interpret line)).snapshot.Loose ↔ _ ∨ _ ∧ ∃ c : Commit, c.isMerge = false ∧
    (t.act source (t.interpret line)).snapshot.commits = t.snapshot.commits ++ [c]
  by_cases hclear : Command.parse line = .clear
  · rw [interpret, interpret_of_clear hclear, act]
    simp [dispatch, Snapshot.createsCommit, Snapshot.apply, Snapshot.Loose, Snapshot.empty,
      Action.placesHead]
  · cases ha : (t.interpret line).action with
    | none =>
      rw [act, ha]
      simp
    | some a =>
      have ho : t.snapshot.Offers a := interpret_offers hclear ha
      rw [act, ha]
      simp only [Option.mem_def, Option.some.injEq, forall_eq']
      rcases @dispatch_snapshot source t a with ⟨hsame, hcreates⟩ | ⟨id, now, happly, -⟩
      · simp [hsame, placesHead_of_createsCommit hcreates]
      · rw [happly, ho.loose_apply_iff h, ho.appends_iff]

/-- The last line decides, or it leaves things as they are. -/
theorem strays_concat_iff (lines : List String) (line : String) :
    Strays source (lines ++ [line]) ↔
      (Strays source lines ∧
        ∀ a ∈ ((runAll source {} lines).interpret line).action, a.placesHead = false) ∨
      CommitsDetached source (runAll source {} lines) line := by
  constructor
  · rintro ⟨before, first, after, hsplit, hcommits, hafter⟩
    rcases List.eq_nil_or_concat after with rfl | ⟨rest, last, rfl⟩
    · obtain ⟨rfl, hlast⟩ := List.append_inj' hsplit rfl
      rw [List.singleton_inj.mp hlast]
      exact Or.inr hcommits
    · rw [List.concat_eq_append] at hsplit hafter
      rw [← List.cons_append, ← List.append_assoc] at hsplit
      obtain ⟨rfl, hlast⟩ := List.append_inj' hsplit rfl
      rw [List.singleton_inj.mp hlast]
      rw [answers_concat, ← runAll_append, List.append_assoc, List.singleton_append] at hafter
      refine Or.inl ⟨⟨before, first, rest, rfl, hcommits, ?_⟩, ?_⟩
      · exact fun answer hmem => hafter answer (List.mem_append_left _ hmem)
      · exact hafter _ List.mem_concat_self
  · rintro (⟨⟨before, first, after, rfl, hcommits, hafter⟩, hlast⟩ | hcommits)
    · refine ⟨before, first, after ++ [line], by simp, hcommits, ?_⟩
      rw [answers_concat, ← runAll_append, List.append_assoc, List.singleton_append]
      intro answer hmem
      rcases List.mem_append.mp hmem with hmem | hmem
      · exact hafter answer hmem
      · rw [List.mem_singleton.mp hmem]
        exact hlast
    · exact ⟨lines, line, [], rfl, hcommits, fun answer hmem => by cases hmem⟩

theorem loose_runAll_iff (source : Source) (lines : List String) :
    (runAll source {} lines).snapshot.Loose ↔ Strays source lines := by
  induction lines using List.reverseRecOn with
  | nil =>
    constructor
    · rintro ⟨hi, -⟩
      cases hi
    · rintro ⟨before, line, after, hsplit, -⟩
      simp at hsplit
  | append_singleton lines line ih =>
    rw [strays_concat_iff, ← ih, runAll_append]
    exact loose_run_iff (sound_runAll source lines) line

/-- Whatever lines are run from the beginning, whatever ids and times the source shows: once the
repository is set up, HEAD is on a branch or detached and on a commit, and what is shown of it
says so. The exception is a run that has strayed, which leaves HEAD on a commit that is not shown. -/
theorem headMode_runAll (source : Source) (lines : List String)
    (hi : (runAll source {} lines).snapshot.initialized = true) :
    (Strays source lines → ∃ c, (runAll source {} lines).snapshot.Adrift c) ∧
      (¬ Strays source lines → (∃ b, (runAll source {} lines).snapshot.OnBranch b) ∨
        ∃ c, (runAll source {} lines).snapshot.OnCommit c) := by
  have h := sound_runAll source lines
  rw [← loose_runAll_iff]
  refine ⟨h.adrift, fun hnot => ?_⟩
  by_cases hname : (runAll source {} lines).snapshot.currentBranch = ""
  · cases hd : (runAll source {} lines).snapshot.detached with
    | false => exact absurd ⟨hi, hd, hname⟩ hnot
    | true => exact Or.inr (h.onCommit hi hd)
  · exact Or.inl (h.onBranch hi hname)

/-- Lines that commit while HEAD is detached, and look at the repository afterwards. -/
def strayingLines : List String :=
  ["git init", "git add .", "git commit -m one", "git checkout c000001", "touch a", "git add a",
    "git commit -m two", "git status"]

/-- HEAD is neither detached nor on a branch, and is not shown. -/
theorem head_of_strayingLines :
    let s := (runAll .sample {} strayingLines).snapshot
    s.initialized = true ∧
      ¬ (s.detached = true ∧ s.currentBranch = "" ∨
        s.detached = false ∧ s.currentBranch ∈ s.branches.map (·.name)) ∧
      s.markedLines = [] ∧ prompt s = "user@repo:()$ " := by
  decide +kernel

theorem headMode_of_strayingLines :
    (runAll .sample {} strayingLines).snapshot.initialized = true ∧
      Strays .sample strayingLines ∧ ∃ c, (runAll .sample {} strayingLines).snapshot.Adrift c := by
  have hi : (runAll .sample {} strayingLines).snapshot.initialized = true := by decide +kernel
  have hloose : (runAll .sample {} strayingLines).snapshot.Loose :=
    ⟨hi, by decide +kernel, by decide +kernel⟩
  have hstrays : Strays .sample strayingLines := (loose_runAll_iff _ _).mp hloose
  exact ⟨hi, hstrays, (headMode_runAll .sample strayingLines hi).1 hstrays⟩

end Session
end GitPractice
