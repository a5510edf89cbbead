import GitPractice.Proofs.Checkout

/-!
# Where a checkout leads

A branch is reached by its name, whatever word that is and wherever HEAD comes from
(`Session.checkout_reaches_branch`). There is one exception: nothing keeps a branch from being
named `-b`, but behind `git checkout` that word asks for a new branch, and is told that its name
is missing.

A commit is reached by any word that its id begins with, unless a branch is named so; of several
commits the oldest one is meant. Ids are shown cut to seven characters. So an id of that length is
shown whole, and what is shown leads back to its commit and to no other
(`Session.checkout_reaches_commit`).
-/

namespace GitPractice

def Commit.BeginsWith (c : Commit) (start : String) : Prop := start.toList <+: c.id.toList

theorem Commit.startsWith_id_iff {c : Commit} {start : String} :
    Text.startsWith c.id start = true ↔ c.BeginsWith start :=
  List.isPrefixOf_iff_prefix

theorem Commit.short_of_length {c : Commit} (h : c.id.length = shortIdLength) : c.short = c.id := by
  rw [short, shortId, Text.take, List.take_of_length_le, String.ofList_toList]
  rw [String.length_toList, h]

namespace Snapshot

variable {s : Snapshot} {start : String} {c : Commit}

theorem WellLinked.findBranch_of_mem (h : s.WellLinked) {b : Branch} (hb : b ∈ s.branches) :
    s.findBranch b.name = some b :=
  find?_of_nodup (f := Branch.name) h.names hb

theorem resolve_eq_some_iff (hne : start ≠ "") :
    s.resolve start = some c ↔ IsFirst (·.BeginsWith start) s.commits c := by
  refine ⟨Request.isFirst_of_resolve, ?_⟩
  rintro ⟨hc, before, after, hsplit, hbefore⟩
  rw [resolve, if_neg hne, List.find?_eq_some_iff_append]
  refine ⟨Commit.startsWith_id_iff.mpr hc, before, after, hsplit, fun other hother => ?_⟩
  rw [Bool.not_eq_true', ← Bool.not_eq_true]
  exact fun hstart => hbefore other hother (Commit.startsWith_id_iff.mp hstart)

theorem exists_isFirst (hne : start ≠ "") (h : ∃ c ∈ s.commits, c.BeginsWith start) :
    ∃ c, IsFirst (·.BeginsWith start) s.commits c := by
  have hfound : (s.resolve start).isSome := by
    rw [resolve, if_neg hne, List.find?_isSome]
    obtain ⟨c, hc, hstart⟩ := h
    exact ⟨c, hc, Commit.startsWith_id_iff.mpr hstart⟩
  obtain ⟨c, hc⟩ := Option.isSome_iff_exists.mp hfound
  exact ⟨c, (resolve_eq_some_iff hne).mp hc⟩

theorem isFirst_of_only (hc : c ∈ s.commits)
    (honly : ∀ other ∈ s.commits, other.BeginsWith start ↔ other = c) :
    IsFirst (·.BeginsWith start) s.commits c := by
  obtain ⟨before, after, hsplit, hnew⟩ := List.eq_append_cons_of_mem hc
  refine ⟨(honly c hc).mpr rfl, before, after, hsplit, fun other hother hstart => ?_⟩
  have hmem : other ∈ s.commits := by
    rw [hsplit]
    exact List.mem_append_left _ hother
  rw [(honly other hmem).mp hstart] at hother
  exact hnew hother

/-- Of ids of one length none begins with another. -/
theorem WellLinked.beginsWith_iff (h : s.WellLinked) {n : Nat} (hlength : ∀ id ∈ s.commitIds, id.length = n)
    {other : Commit} (hc : c ∈ s.commits) (hother : other ∈ s.commits) : other.BeginsWith c.id ↔ other = c := by
  constructor
  · intro hstart
    have hsame : c.id.toList.length = other.id.toList.length := by
      rw [String.length_toList, String.length_toList, hlength c.id (List.mem_map_of_mem hc),
        hlength other.id (List.mem_map_of_mem hother)]
    have hid : c.id = other.id := String.toList_inj.mp (hstart.eq_of_length hsame)
    exact List.inj_on_of_nodup_map h.ids hother hc hid.symm
  · rintro rfl
    exact List.prefix_refl _

end Snapshot

namespace Session

variable {source : Source} {t : Session} {target : String}

/-- The checkout succeeds. It takes HEAD to the commit `id`, on the branch `name` or on none, and changes
nothing else but the log. -/
structure Reaches (source : Source) (t : Session) (target name id : String) (detached : Bool) : Prop where
  succeeds : (t.interpret (checkoutLine target)).isError = false
  lands : ∃ log, (t.run source (checkoutLine target)).snapshot =
    { t.snapshot with currentBranch := name, head := id, detached, history := log }

theorem reaches_of_branch (hi : t.snapshot.initialized = true) (h : (Request.checkout target).Complete)
    {b : Branch} (hb : t.snapshot.findBranch target = some b) : t.Reaches source target target b.commit false where
  succeeds := by
    rw [interpret_checkoutLine hi h, GitCommand.checkoutOutcome, hb, Option.isSome_some, if_pos rfl]
    rfl
  lands := by
    obtain ⟨log, hrun⟩ := @run_checkoutLine source t target hi h
    exact ⟨log, by rw [hrun, Snapshot.visit_of_branch hb]⟩

theorem reaches_of_commit (hi : t.snapshot.initialized = true) (h : (Request.checkout target).Complete)
    (hb : t.snapshot.findBranch target = none) {c : Commit} (hc : t.snapshot.resolve target = some c) :
    t.Reaches source target "" c.id true where
  succeeds := by
    rw [interpret_checkoutLine hi h, GitCommand.checkoutOutcome, hb, hc, Option.isSome_none, Option.isSome_some,
      if_neg Bool.false_ne_true, if_pos rfl]
    rfl
  lands := by
    obtain ⟨log, hrun⟩ := @run_checkoutLine source t target hi h
    exact ⟨log, by rw [hrun, Snapshot.visit_of_commit hb hc]⟩

/-! ## Branches -/

/-- The word that asks for a new branch stands alone, also when a branch is named so. -/
theorem interpret_checkoutLine_flag (hi : t.snapshot.initialized = true) :
    t.interpret (checkoutLine "-b") = .failure GitCommand.checkoutUsage := by
  have hparse : Command.parse (checkoutLine "-b") = .git (.checkout none) := by decide +kernel
  exact interpret_inside hi hparse

/-- Whatever lines were run, whatever ids and times the source shows: every branch is checked out by its
name, unless that is `-b`. Then the answer is the usage, and the repository stays as it is. -/
theorem checkout_reaches_branch (source : Source) (lines : List String) {b : Branch}
    (hb : b ∈ (runAll source {} lines).snapshot.branches) :
    let t := runAll source {} lines
    (b.name ≠ "-b" → t.Reaches source b.name b.name b.commit false) ∧
      (b.name = "-b" → t.interpret (checkoutLine b.name) = .failure GitCommand.checkoutUsage ∧
        ∃ log, (t.run source (checkoutLine b.name)).snapshot = { t.snapshot with history := log }) := by
  intro t
  have hs : t.snapshot.Sound := sound_runAll source lines
  have hi : t.snapshot.initialized = true := hs.linked.initialized_of_branch hb
  constructor
  · intro hname
    exact reaches_of_branch hi ⟨hs.named.of_mem hb, hname⟩ (hs.linked.findBranch_of_mem hb)
  · intro hname
    have hanswer : t.interpret (checkoutLine b.name) = .failure GitCommand.checkoutUsage := by
      rw [hname, interpret_checkoutLine_flag hi]
    obtain ⟨log, hrun⟩ := @run_snapshot source t (checkoutLine b.name)
    refine ⟨hanswer, log, ?_⟩
    rw [hrun, act, hanswer]
    rfl

/-- A branch with an odd name, made before the first commit and checked out from a detached HEAD. -/
theorem checkout_reaches_branch_of_dashed :
    let lines := ["git init", "git branch --", "git add .", "git commit -m one", "git checkout c000001"]
    let t := runAll .sample {} lines
    let b : Branch := { name := "--", color := branchColor 1 }
    b ∈ t.snapshot.branches ∧ t.snapshot.detached = true ∧ t.Reaches .sample "--" "--" "" false := by
  intro lines t b
  have hb : b ∈ t.snapshot.branches := by decide +kernel
  have hname : b.name ≠ "-b" := by decide
  exact ⟨hb, by decide +kernel, (checkout_reaches_branch .sample lines hb).1 hname⟩

/-- A branch that its own name does not reach. -/
theorem not_reaches_flagNamed :
    let t := runAll .sample {} ["git init", "git branch -b"]
    let b : Branch := { name := "-b", color := branchColor 1 }
    b ∈ t.snapshot.branches ∧ ¬ t.Reaches .sample b.name b.name b.commit false := by
  intro t b
  have hb : b ∈ t.snapshot.branches := by decide +kernel
  have hfails : (t.interpret (checkoutLine b.name)).isError = true := by decide +kernel
  refine ⟨hb, fun h => ?_⟩
  rw [h.succeeds] at hfails
  cases hfails

/-! ## Commits -/

/-- A word that no branch is named leads to the oldest commit whose id begins with it. -/
theorem reaches_of_isFirst (hs : t.snapshot.Sound) (h : (Request.checkout target).Complete)
    (hbranch : ∀ b ∈ t.snapshot.branches, b.name ≠ target) {c : Commit}
    (hc : IsFirst (·.BeginsWith target) t.snapshot.commits c) : t.Reaches source target "" c.id true := by
  have hfound := (Snapshot.resolve_eq_some_iff h.1.1).mpr hc
  have hi := hs.linked.initialized_of_commit (Snapshot.resolve_mem hfound)
  exact reaches_of_commit hi h (Snapshot.findBranch_eq_none_iff.mpr hbranch) hfound

/-- Whatever lines were run: with ids of seven characters, what is shown of a commit leads back to it, unless a
branch is named so. With any ids, a word that no branch is named leads to the oldest commit whose id begins with
it, and so to the only one if there is only one. -/
theorem checkout_reaches_commit (source : Source) (lines : List String) :
    let t := runAll source {} lines
    ((∀ n, Text.IsWord (source.ids.nth n) ∧ (source.ids.nth n).length = 7) →
      ∀ c ∈ t.snapshot.commits, (∀ b ∈ t.snapshot.branches, b.name ≠ c.short) →
        t.Reaches source c.short "" c.id true) ∧
    ∀ start, Text.IsWord start → start ≠ "-b" → (∀ b ∈ t.snapshot.branches, b.name ≠ start) →
      ((∃ c ∈ t.snapshot.commits, c.BeginsWith start) →
        ∃ c, IsFirst (·.BeginsWith start) t.snapshot.commits c ∧ t.Reaches source start "" c.id true) ∧
      ∀ c ∈ t.snapshot.commits, (∀ other ∈ t.snapshot.commits, other.BeginsWith start ↔ other = c) →
        t.Reaches source start "" c.id true := by
  intro t
  have hs : t.snapshot.Sound := sound_runAll source lines
  constructor
  · intro hids c hc hbranch
    have hword : ∀ id ∈ t.snapshot.commitIds, Text.IsWord id ∧ id.length = 7 := forall_commitIds_runAll hids lines
    obtain ⟨hshort, hlength⟩ := hword c.id (List.mem_map_of_mem hc)
    have hflag : c.id ≠ "-b" := by
      intro he
      rw [he] at hlength
      exact absurd hlength (by decide)
    rw [Commit.short_of_length hlength] at hbranch ⊢
    refine reaches_of_isFirst hs ⟨hshort, hflag⟩ hbranch (Snapshot.isFirst_of_only hc fun other hother => ?_)
    exact hs.linked.beginsWith_iff (fun id hid => (hword id hid).2) hc hother
  · intro start hword hflag hbranch
    constructor
    · intro hc
      obtain ⟨c, hfirst⟩ := Snapshot.exists_isFirst hword.1 hc
      exact ⟨c, hfirst, reaches_of_isFirst hs ⟨hword, hflag⟩ hbranch hfirst⟩
    · intro c hc honly
      exact reaches_of_isFirst hs ⟨hword, hflag⟩ hbranch (Snapshot.isFirst_of_only hc honly)

/-- Two ids that begin alike: each is shown whole and leads to its commit, and what they share leads to the older. -/
theorem checkout_reaches_commit_of_alike :
    let source : Source :=
      { ids := { nth := fun n => if n = 0 then "a1b2c3d" else "a1b2fff" }, clock := fun _ => .sample }
    let lines := ["git init", "git add .", "git commit -m one", "touch a", "git add a", "git commit -m two",
      "git branch a1b"]
    (∀ n, Text.IsWord (source.ids.nth n) ∧ (source.ids.nth n).length = 7) ∧
      (∃ c ∈ (runAll source {} lines).snapshot.commits,
        c.short = "a1b2fff" ∧ Reaches source (runAll source {} lines) c.short "" c.id true) ∧
      ∃ c, IsFirst (·.BeginsWith "a1b2") (runAll source {} lines).snapshot.commits c ∧
        Reaches source (runAll source {} lines) "a1b2" "" c.id true := by
  intro source lines
  have hids : ∀ n, Text.IsWord (source.ids.nth n) ∧ (source.ids.nth n).length = 7 := by
    intro n
    show Text.IsWord (if n = 0 then "a1b2c3d" else "a1b2fff") ∧ (if n = 0 then "a1b2c3d" else "a1b2fff").length = 7
    split
    · decide +kernel
    · decide +kernel
  have hshort : ∃ c ∈ (runAll source {} lines).snapshot.commits, c.short = "a1b2fff" := by decide +kernel
  have hstart : ∃ c ∈ (runAll source {} lines).snapshot.commits, Text.startsWith c.id "a1b2" = true := by
    decide +kernel
  have hbranch : ∀ b ∈ (runAll source {} lines).snapshot.branches, b.name ≠ "a1b2fff" ∧ b.name ≠ "a1b2" := by
    decide +kernel
  have hword : Text.IsWord "a1b2" := by decide +kernel
  obtain ⟨hwhole, hbegun⟩ := checkout_reaches_commit source lines
  refine ⟨hids, ?_, ?_⟩
  · obtain ⟨c, hc, hc'⟩ := hshort
    refine ⟨c, hc, hc', hwhole hids c hc fun b hb => ?_⟩
    rw [hc']
    exact (hbranch b hb).1
  · obtain ⟨c, hc, hc'⟩ := hstart
    exact (hbegun "a1b2" hword (by decide) fun b hb => (hbranch b hb).2).1 ⟨c, hc, Commit.startsWith_id_iff.mp hc'⟩

end Session
end GitPractice
