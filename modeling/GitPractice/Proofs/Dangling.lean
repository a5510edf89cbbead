import GitPractice.Proofs.CommitGraph
import GitPractice.Proofs.Dispatch

/-!
# Ids that no commit has

Ids are copied from place to place: a new branch takes that of HEAD, HEAD takes
that of a branch, a commit takes both of them for its parents. So one id that no
commit has spreads once it has come in, and it comes in by one action only. A
branch may be started at a given id, and nobody looks whether a commit has it.
Where an id is given to be checked out, it is looked up.

A line never gives an id to a new branch; dispatched actions can.
`dangles_dispatchAll_iff` says that an id dangles in exactly those runs that
start a branch there.
-/

namespace GitPractice
namespace Snapshot

/-- The id stands where the id of a commit is meant: HEAD or a branch points to it, or a commit names
it as a parent. -/
def RefersTo (s : Snapshot) (id : String) : Prop :=
  (id ≠ "" ∧ (id = s.head ∨ id ∈ s.branches.map (·.commit))) ∨ ∃ child, s.HasParent child id

/-- The id is referred to and no commit has it. -/
def Dangles (s : Snapshot) (id : String) : Prop := s.RefersTo id ∧ id ∉ s.commitIds

variable {s s' : Snapshot} {id ref : String} {now : Timestamp} {a : Action}

/-! ## What is referred to -/

theorem refersTo_head (h : s.head ≠ "") : s.RefersTo s.head := Or.inl ⟨h, Or.inl rfl⟩

theorem refersTo_branch {b : Branch} (hb : b ∈ s.branches) (h : b.commit ≠ "") :
    s.RefersTo b.commit :=
  Or.inl ⟨h, Or.inr (List.mem_map_of_mem hb)⟩

theorem refersTo_resetParent {parent : String} (h : s.resetParent = some parent) :
    s.RefersTo parent := by
  obtain ⟨⟨c, hc, hparent⟩, -⟩ := resetParent_eq_some_iff.mp h
  exact Or.inr ⟨c.id, c, headCommit_mem hc, rfl, Or.inl hparent⟩

/-- The pointer of a moved branch is where it was or where it has been moved. -/
theorem mem_pointers_moveCurrent (h : ref ∈ (s.moveCurrent id).map (·.commit)) :
    ref = id ∨ ref ∈ s.branches.map (·.commit) := by
  obtain ⟨b, hb, rfl⟩ := List.mem_map.mp h
  rcases mem_moveCurrent_iff.mp hb with ⟨hb, -⟩ | ⟨b', -, -, rfl⟩
  · exact Or.inr (List.mem_map_of_mem hb)
  · exact Or.inl rfl

/-! ## One action

Pointers are moved among the ids that are in use, or to a commit that is new. -/

/-- Moving pointers leaves no more ids dangling, if they are moved to commits or to ids that were
referred to before. -/
theorem Dangles.of_repointed (h : s'.Dangles ref) (hc : s'.commits = s.commits)
    (hp : ref ≠ "" → ref = s'.head ∨ ref ∈ s'.branches.map (·.commit) →
      ref ∈ s.commitIds ∨ s.RefersTo ref) : s.Dangles ref := by
  obtain ⟨hrefers, hunknown⟩ := h
  rw [commitIds, hc] at hunknown
  refine ⟨?_, hunknown⟩
  rcases hrefers with ⟨hne, hpointer⟩ | ⟨child, hparent⟩
  · exact (hp hne hpointer).resolve_left hunknown
  · rw [HasParent, hc] at hparent
    exact Or.inr ⟨child, hparent⟩

/-- A new commit to which HEAD and the current branch move adds nothing but its parents. -/
theorem Dangles.of_pushed (h : s'.Dangles ref) {new : Commit} (hc : s'.commits = s.commits ++ [new])
    (hh : s'.head = new.id) (hb : s'.branches = s.moveCurrent new.id)
    (hp : new.parent = some ref ∨ (∃ ps ∈ new.parents, ref ∈ ps) → s.RefersTo ref) :
    s.Dangles ref := by
  obtain ⟨hrefers, hunknown⟩ := h
  rw [commitIds, hc, List.map_append, List.mem_append, not_or, List.map_singleton,
    List.mem_singleton] at hunknown
  obtain ⟨hunknown, hnew⟩ := hunknown
  refine ⟨?_, hunknown⟩
  rcases hrefers with ⟨hne, hhead | hbranch⟩ | ⟨child, c, hmem, -, hparent⟩
  · exact absurd (hhead.trans hh) hnew
  · rw [hb] at hbranch
    rcases mem_pointers_moveCurrent hbranch with hmoved | hbranch
    · exact absurd hmoved hnew
    · exact Or.inl ⟨hne, Or.inr hbranch⟩
  · rw [hc, List.mem_append, List.mem_singleton] at hmem
    rcases hmem with hmem | rfl
    · exact Or.inr ⟨c.id, c, hmem, rfl, hparent⟩
    · exact hp hparent

theorem refersTo_of_parent_commitAtHead {message : String}
    (h : (s.commitAtHead id now message).parent = some ref ∨
      ∃ ps ∈ (s.commitAtHead id now message).parents, ref ∈ ps) : s.RefersTo ref := by
  rcases h with h | ⟨ps, hps, -⟩
  · by_cases hhead : s.head = ""
    · simp [commitAtHead, hhead] at h
    · have href : s.head = ref := by simpa [commitAtHead, hhead] using h
      rw [← href]
      exact refersTo_head hhead
  · cases hps

theorem refersTo_of_parent_mergeAtHead {name : String} {source : Branch}
    (hs : s.mergeSource name = some source)
    (h : (s.mergeAtHead id now source).parent = some ref ∨
      ∃ ps ∈ (s.mergeAtHead id now source).parents, ref ∈ ps) : s.RefersTo ref := by
  obtain ⟨hfound, -, hcommit, hhead⟩ := mergeSource_eq_some_iff.mp hs
  rcases h with h | ⟨ps, hps, hmem⟩
  · cases h
    exact refersTo_head hhead
  · cases hps
    rcases List.mem_pair.mp hmem with rfl | rfl
    · exact refersTo_head hhead
    · exact refersTo_branch (findBranch_mem hfound) hcommit

/-- An id comes to dangle only by starting a branch there, under a name that is new. -/
theorem Effect.dangles (h : s.Effect id now a s') (hd : s'.Dangles ref) :
    s.Dangles ref ∨ ∃ name, a = .createBranch name (some ref) ∧ ref ≠ "" ∧
      s.findBranch name = none ∧ ref ∉ s.commitIds := by
  cases h with
  | create =>
    refine Or.inl (hd.of_repointed rfl fun hne hp => Or.inr ?_)
    rcases hp with rfl | hp
    · exact refersTo_head hne
    · exact absurd (List.mem_singleton.mp hp) hne
  | commit => exact Or.inl (hd.of_pushed rfl rfl rfl refersTo_of_parent_commitAtHead)
  | merge hs => exact Or.inl (hd.of_pushed rfl rfl rfl (refersTo_of_parent_mergeAtHead hs))
  | checkout hb =>
    refine Or.inl (hd.of_repointed rfl fun hne hp => Or.inr ?_)
    rcases hp with rfl | hp
    · exact refersTo_branch (findBranch_mem hb) hne
    · exact Or.inl ⟨hne, Or.inr hp⟩
  | checkoutCommit hc =>
    refine Or.inl (hd.of_repointed rfl fun hne hp => ?_)
    rcases hp with rfl | hp
    · exact Or.inl (List.mem_map_of_mem (resolve_mem hc))
    · exact Or.inr (Or.inl ⟨hne, Or.inr hp⟩)
  | reset hparent =>
    refine Or.inl (hd.of_repointed rfl fun hne hp => Or.inr ?_)
    have hp : ref = _ ∨ ref ∈ s.branches.map (·.commit) :=
      hp.elim Or.inl mem_pointers_moveCurrent
    rcases hp with rfl | hp
    · exact refersTo_resetParent hparent
    · exact Or.inl ⟨hne, Or.inr hp⟩
  | createAndCheckoutBranch =>
    refine Or.inl (hd.of_repointed rfl fun hne hp => Or.inr ?_)
    rw [List.map_append, List.mem_append, List.map_singleton, List.mem_singleton] at hp
    rcases hp with rfl | hp | rfl
    · exact refersTo_head hne
    · exact Or.inl ⟨hne, Or.inr hp⟩
    · exact refersTo_head hne
  | @createBranch name start hn =>
    by_cases hstart : start = some ref ∧ ref ≠ ""
    · obtain ⟨rfl, hne⟩ := hstart
      exact Or.inr ⟨name, rfl, hne, hn, hd.2⟩
    · refine Or.inl (hd.of_repointed rfl fun hne hp => Or.inr ?_)
      rw [List.map_append, List.mem_append, List.map_singleton, List.mem_singleton] at hp
      rcases hp with rfl | hp | hp
      · exact refersTo_head hne
      · exact Or.inl ⟨hne, Or.inr hp⟩
      · -- The new branch is at HEAD, since it is not at an id that was given.
        rw [branchAt] at hp
        cases start with
        | none => exact Or.inl ⟨hne, Or.inl hp⟩
        | some given =>
          by_cases hgiven : given = ""
          · subst hgiven
            exact Or.inl ⟨hne, Or.inl hp⟩
          · have hsame : ref = given := by simpa [hgiven] using hp
            exact absurd ⟨congrArg some hsame.symm, hne⟩ hstart
  | resetAll =>
    obtain ⟨hne, rfl | hp⟩ | ⟨_, _, hc, -⟩ := hd.1
    · exact absurd rfl hne
    · cases hp
    · cases hc
  | _ => exact Or.inl hd

end Snapshot

namespace Session

variable {source : Source} {actions more : List Action} {id : String}

/-- At some point a branch is started at this id, which no commit has then. -/
def StartsBranchAt (source : Source) (actions : List Action) (id : String) : Prop :=
  ∃ before name, before ++ [.createBranch name (some id)] <+: actions ∧ id ≠ "" ∧
    (dispatchAll source {} before).snapshot.findBranch name = none ∧
    id ∉ (dispatchAll source {} before).snapshot.commitIds

theorem StartsBranchAt.mono (h : StartsBranchAt source actions id) (hpart : actions <+: more) :
    StartsBranchAt source more id := by
  obtain ⟨before, name, hbefore, hstart⟩ := h
  exact ⟨before, name, hbefore.trans hpart, hstart⟩

theorem startsBranchAt_of_dangles (h : (dispatchAll source {} actions).snapshot.Dangles id) :
    StartsBranchAt source actions id := by
  induction actions using List.reverseRecOn with
  | nil =>
    obtain ⟨hne, rfl | hp⟩ | ⟨_, _, hc, -⟩ := h.1
    · exact absurd rfl hne
    · cases hp
    · cases hc
  | append_singleton actions a ih =>
    rw [dispatchAll_concat] at h
    obtain ⟨_, now, heffect⟩ := dispatch_effect source (dispatchAll source {} actions) a
    rcases heffect.dangles h with hbefore | ⟨name, rfl, hstart⟩
    · exact (ih hbefore).mono (List.prefix_append _ _)
    · exact ⟨actions, name, List.prefix_refl _, hstart⟩

theorem dangles_of_createBranch {t : Session} {name : String} (hne : id ≠ "")
    (hn : t.snapshot.findBranch name = none) (hunknown : id ∉ t.snapshot.commitIds) :
    (t.dispatch source (.createBranch name (some id))).snapshot.Dangles id := by
  have hsnapshot : (t.dispatch source (.createBranch name (some id))).snapshot =
      t.snapshot.createBranch name (some id) := rfl
  rw [hsnapshot, Snapshot.createBranch_eq hn]
  refine ⟨Or.inl ⟨hne, Or.inr ?_⟩, hunknown⟩
  have hpointer : (t.snapshot.branchAt name (some id)).commit = id := by
    simp [Snapshot.branchAt, hne]
  rw [List.map_append, List.mem_append, List.map_singleton, List.mem_singleton]
  exact Or.inr hpointer.symm

/-- Whatever actions are dispatched from the beginning, in whatever order and with whatever arguments:
an id dangles at some time in exactly those runs that start a branch there while no commit has it. -/
theorem dangles_dispatchAll_iff (source : Source) (actions : List Action) (id : String) :
    (∃ before, before <+: actions ∧ (dispatchAll source {} before).snapshot.Dangles id) ↔
      StartsBranchAt source actions id := by
  constructor
  · rintro ⟨before, hpart, h⟩
    exact (startsBranchAt_of_dangles h).mono hpart
  · rintro ⟨before, name, hpart, hne, hn, hunknown⟩
    refine ⟨before ++ [.createBranch name (some id)], hpart, ?_⟩
    rw [dispatchAll_concat]
    exact dangles_of_createBranch hne hn hunknown

/-- A branch is started at an id that no commit has, and a commit is made there: the id is its
parent. -/
theorem dangles_of_unknown_start :
    let s := (dispatchAll .sample {} [.create, .stage ["."], .createBranch "side" (some "nowhere"),
      .createBranch "spare" (some "nowhere"), .checkout "side", .commit "one"]).snapshot
    s.Dangles "nowhere" ∧ s.branches.map (·.commit) = ["", "c000001", "nowhere"] ∧
      s.commits.map (·.parent) = [some "nowhere"] := by
  refine ⟨⟨Or.inl ⟨by decide, Or.inr ?_⟩, ?_⟩, ?_, ?_⟩ <;> decide +kernel

end Session
end GitPractice
