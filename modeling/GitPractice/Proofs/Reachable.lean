import GitPractice.Proofs.Lookup
import Mathlib.Data.List.Nodup
import Mathlib.Data.List.Perm.Subperm
import Mathlib.Logic.Function.Iterate
import Mathlib.Order.Bounds.Basic

/-!
# What is reachable from an id

The walk along first parents is a loop: it meets an id, looks for its commit, and goes on from
the parent, until there is no id to go on from or it has been met already. Nothing is assumed of the
snapshot, so ids may be repeated, parents may be missing, and parents may run in a circle.

All ids that the walk has met but for the last belong to commits, and they are different, so
there are no more rounds than commits and one. What has been met when the walk ends is closed under
parents, and nothing is met that a closed set could do without (`Snapshot.reachableFrom_isLeast`).
-/

namespace GitPractice

/-- Where a walk along first parents stands. -/
structure Walk where
  /-- The id to go on from, if there is one. -/
  next : Option String
  met : List String := []

namespace Snapshot

/-- The id belongs to the set unless it is empty, and so does every parent that is found from there. -/
structure ClosedFrom (s : Snapshot) (id : String) (ids : Set String) : Prop where
  start : id ≠ "" → id ∈ ids
  parent : ∀ child ∈ ids, ∀ c parent, s.findCommit child = some c → c.parent = some parent → parent ≠ "" →
    parent ∈ ids

end Snapshot

namespace Walk

variable {s : Snapshot} {w : Walk} {id : String} {met : List String}

/-- Whether there is another round: there is an id to go on from, and it has not been met. -/
def GoesOn (w : Walk) : Prop := ∃ id, w.next = some id ∧ id ≠ "" ∧ id ∉ w.met

/-- One round: the id is met, and the parent of its commit is where to go on. -/
def round (s : Snapshot) (w : Walk) : Walk :=
  match w.next with
  | some id => { next := (s.findCommit id).bind (·.parent), met := w.met ++ [id] }
  | none => w

theorem round_of_some (h : w.next = some id) :
    w.round s = { next := (s.findCommit id).bind (·.parent), met := w.met ++ [id] } := by
  rw [round, h]

theorem not_goesOn_of_none (h : w.next = none) : ¬ w.GoesOn := by
  rintro ⟨id, hid, -⟩
  rw [h] at hid
  cases hid

/-! ## What every round keeps -/

/-- What holds of a walk from `id`, wherever it stands. -/
structure Sound (s : Snapshot) (id : String) (w : Walk) : Prop where
  nodup : w.met.Nodup
  /-- As long as there is an id to go on from, all that have been met belong to commits. -/
  known : ∀ next, w.next = some next → w.met ⊆ s.commitIds
  start : id ∈ w.met ∨ w.next = some id
  parent : ∀ child ∈ w.met, ∀ c parent, s.findCommit child = some c → c.parent = some parent →
    parent ∈ w.met ∨ w.next = some parent
  least : ∀ ids, s.ClosedFrom id ids → (∀ x ∈ w.met, x ∈ ids) ∧ ∀ next, w.next = some next → next ≠ "" → next ∈ ids

namespace Sound

theorem begin (s : Snapshot) (id : String) : Sound s id { next := some id } where
  nodup := List.nodup_nil
  known := fun _ _ => List.nil_subset _
  start := Or.inr rfl
  parent := fun _ hmem => absurd hmem List.not_mem_nil
  least := by
    intro ids hids
    refine ⟨fun _ hmem => absurd hmem List.not_mem_nil, fun next hnext hne => ?_⟩
    obtain rfl : id = next := Option.some_inj.mp hnext
    exact hids.start hne

theorem round (h : Sound s id w) (hgo : w.GoesOn) : Sound s id (w.round s) := by
  obtain ⟨here, hhere, hne, hnew⟩ := hgo
  have hmet : ∀ x, x ∈ w.met ∨ w.next = some x → x ∈ w.met ++ [here] := by
    rintro x (hx | hx)
    · exact List.mem_append_left _ hx
    · obtain rfl : here = x := Option.some_inj.mp (hhere.symm.trans hx)
      exact List.mem_append_right _ (List.mem_singleton_self _)
  rw [round_of_some hhere]
  constructor
  case nodup =>
    exact List.nodup_append.mpr ⟨h.nodup, List.nodup_singleton here, fun x hx y hy hxy =>
      hnew (List.mem_singleton.mp hy ▸ hxy ▸ hx)⟩
  case known =>
    -- there is a parent to go on from only if a commit has been found
    intro next hnext
    obtain ⟨c, hc, -⟩ := Option.bind_eq_some_iff.mp hnext
    have hid : c.id = here := by simpa using List.find?_some hc
    have hlast : here ∈ s.commitIds := hid ▸ List.mem_map_of_mem (List.mem_of_find?_eq_some hc)
    exact List.append_subset.mpr ⟨h.known here hhere, List.cons_subset.mpr ⟨hlast, List.nil_subset _⟩⟩
  case start => exact Or.inl (hmet id h.start)
  case parent =>
    intro child hchild c parent hc hparent
    rcases List.mem_append.mp hchild with hold | hlast
    · exact Or.inl (hmet parent (h.parent child hold c parent hc hparent))
    · obtain rfl := List.mem_singleton.mp hlast
      exact Or.inr (Option.bind_eq_some_iff.mpr ⟨c, hc, hparent⟩)
  case least =>
    intro ids hids
    obtain ⟨hbefore, hnext⟩ := h.least ids hids
    have hmem : here ∈ ids := hnext here hhere hne
    constructor
    · intro x hx
      rcases List.mem_append.mp hx with hold | hlast
      · exact hbefore x hold
      · exact List.mem_singleton.mp hlast ▸ hmem
    · intro next hnext hne'
      obtain ⟨c, hc, hparent⟩ := Option.bind_eq_some_iff.mp hnext
      exact hids.parent here hmem c next hc hparent hne'

/-- There is no other round when more ids have been met than there are commits. -/
theorem length_le (h : Sound s id w) (hgo : w.GoesOn) : w.met.length ≤ s.commits.length := by
  obtain ⟨here, hhere, -⟩ := hgo
  have hlength := (h.nodup.subperm (h.known here hhere)).length_le
  rwa [Snapshot.commitIds, List.length_map] at hlength

/-- What has been met when the walk ends is the least set that is closed. -/
theorem isLeast (h : Sound s id w) (hend : ¬ w.GoesOn) : IsLeast {ids | s.ClosedFrom id ids} {x | x ∈ w.met} := by
  have hmet : ∀ x, x ∈ w.met ∨ w.next = some x → x ≠ "" → x ∈ w.met := by
    rintro x (hx | hx) hne
    · exact hx
    · exact Classical.not_not.mp fun hnew => hend ⟨x, hx, hne, hnew⟩
  refine ⟨⟨hmet id h.start, ?_⟩, fun ids hids => (h.least ids hids).1⟩
  intro child hchild c parent hc hparent
  exact hmet parent (h.parent child hchild c parent hc hparent)

end Sound

/-! ## Rounds one after the other -/

theorem sound_rounds (s : Snapshot) (id : String) {rounds : Nat}
    (hgo : ∀ n < rounds, ((round s)^[n] { next := some id }).GoesOn) :
    Sound s id ((round s)^[rounds] { next := some id }) := by
  induction rounds with
  | zero => exact .begin s id
  | succ rounds ih =>
    rw [Function.iterate_succ_apply']
    exact (ih fun n hn => hgo n (Nat.lt_succ_of_lt hn)).round (hgo rounds (Nat.lt_succ_self rounds))

theorem length_met_rounds {rounds : Nat} (hgo : ∀ n < rounds, ((round s)^[n] w).GoesOn) :
    ((round s)^[rounds] w).met.length = w.met.length + rounds := by
  induction rounds with
  | zero => rfl
  | succ rounds ih =>
    obtain ⟨here, hhere, -⟩ := hgo rounds (Nat.lt_succ_self rounds)
    rw [Function.iterate_succ_apply', round_of_some hhere, List.length_append,
      ih fun n hn => hgo n (Nat.lt_succ_of_lt hn)]
    rfl

/-- The walk does not go on after one round more than there are commits. -/
theorem rounds_le (s : Snapshot) (id : String) {rounds : Nat}
    (hgo : ∀ n < rounds, ((round s)^[n] { next := some id }).GoesOn) : rounds ≤ s.commits.length + 1 := by
  cases rounds with
  | zero => exact Nat.zero_le _
  | succ rounds =>
    have hbefore : ∀ n < rounds, ((round s)^[n] { next := some id }).GoesOn :=
      fun n hn => hgo n (Nat.lt_succ_of_lt hn)
    have hlength := (sound_rounds s id hbefore).length_le (hgo rounds (Nat.lt_succ_self rounds))
    rw [length_met_rounds hbefore, List.length_nil, Nat.zero_add] at hlength
    exact Nat.succ_le_succ hlength

/-- A walk of at most so many steps makes rounds until it ends, or until it has made as many as there are steps. -/
theorem exists_rounds (s : Snapshot) (steps : Nat) (id : String) (met : List String) :
    ∃ rounds ≤ steps, (∀ n < rounds, ((round s)^[n] { next := some id, met }).GoesOn) ∧
      ((round s)^[rounds] { next := some id, met }).met = s.walkParents steps id met ∧
      (rounds = steps ∨ ¬ ((round s)^[rounds] { next := some id, met }).GoesOn) := by
  induction steps generalizing id met with
  | zero => exact ⟨0, Nat.le_refl 0, fun _ hn => absurd hn (Nat.not_lt_zero _), rfl, Or.inl rfl⟩
  | succ steps ih =>
    rw [Snapshot.walkParents]
    by_cases hstop : id = "" ∨ id ∈ met
    · rw [if_pos (by simpa using hstop)]
      refine ⟨0, Nat.zero_le _, fun _ hn => absurd hn (Nat.not_lt_zero _), rfl, Or.inr ?_⟩
      rintro ⟨here, hhere, hne, hnew⟩
      obtain rfl : id = here := Option.some_inj.mp hhere
      exact hstop.elim hne hnew
    · rw [if_neg (by simpa using hstop)]
      obtain ⟨hne, hnew⟩ := not_or.mp hstop
      have hfirst : GoesOn { next := some id, met } := ⟨id, rfl, hne, hnew⟩
      have hround : round s { next := some id, met } =
          { next := (s.findCommit id).bind (·.parent), met := met ++ [id] } := rfl
      cases hparent : (s.findCommit id).bind (·.parent) with
      | none =>
        rw [hparent] at hround
        refine ⟨1, Nat.succ_le_succ (Nat.zero_le steps), fun n hn => ?_, ?_, Or.inr ?_⟩
        · obtain rfl := Nat.lt_one_iff.mp hn
          exact hfirst
        · rw [Function.iterate_one, hround]
        · rw [Function.iterate_one, hround]
          exact not_goesOn_of_none rfl
      | some parent =>
        rw [hparent] at hround
        obtain ⟨rounds, hle, hgo, hmet, hend⟩ := ih parent (met ++ [id])
        refine ⟨rounds + 1, Nat.succ_le_succ hle, fun n hn => ?_, ?_, ?_⟩
        · cases n with
          | zero => exact hfirst
          | succ n =>
            rw [Function.iterate_succ_apply, hround]
            exact hgo n (Nat.lt_of_succ_lt_succ hn)
        · rw [Function.iterate_succ_apply, hround]
          exact hmet
        · rw [Function.iterate_succ_apply, hround]
          exact hend.imp_left (congrArg (· + 1))

end Walk

namespace Snapshot

/-- Whatever the snapshot and the id: the walk ends after at most one round more than there are commits. What it has
met then are the ids reachable from there, each of them once, and they are the least set with the id, unless that
is empty, and with every parent that is found from it. -/
theorem reachableFrom_isLeast (s : Snapshot) (id : String) :
    (∃ rounds ≤ s.commits.length + 1,
      (∀ n < rounds, ((Walk.round s)^[n] { next := some id }).GoesOn) ∧
      ¬ ((Walk.round s)^[rounds] { next := some id }).GoesOn ∧
      ((Walk.round s)^[rounds] { next := some id }).met = s.reachableFrom id) ∧
    (s.reachableFrom id).Nodup ∧
    IsLeast {ids | s.ClosedFrom id ids} {x | x ∈ s.reachableFrom id} := by
  obtain ⟨rounds, hle, hgo, hmet, hend⟩ := Walk.exists_rounds s (s.commits.length + 1) id []
  have hsound := Walk.sound_rounds s id hgo
  have hover : ¬ ((Walk.round s)^[rounds] { next := some id }).GoesOn := by
    -- if all of the steps were used up, another round would be one too many
    rcases hend with rfl | hend
    · intro hmore
      have hlonger : s.commits.length + 2 ≤ s.commits.length + 1 := Walk.rounds_le s id fun n hn => by
        rcases Nat.lt_succ_iff_lt_or_eq.mp hn with hn | rfl
        · exact hgo n hn
        · exact hmore
      exact absurd hlonger (Nat.not_succ_le_self _)
    · exact hend
  have hreachable : ((Walk.round s)^[rounds] { next := some id }).met = s.reachableFrom id := hmet
  refine ⟨⟨rounds, hle, hgo, hover, hreachable⟩, ?_, ?_⟩
  · exact hreachable ▸ hsound.nodup
  · exact hreachable ▸ hsound.isLeast hover

/-- Two commits that are the parents of each other, a second one with the id of the first, and one whose parent
is missing. -/
def tangled : Snapshot where
  commits := [{ id := "a", message := "", author := "", timestamp := .sample, branch := "", parent := some "b" },
    { id := "b", message := "", author := "", timestamp := .sample, branch := "", parent := some "a" },
    { id := "a", message := "", author := "", timestamp := .sample, branch := "", parent := some "c" },
    { id := "c", message := "", author := "", timestamp := .sample, branch := "", parent := some "d" }]

example : tangled.reachableFrom "b" = ["b", "a"] ∧ tangled.reachableFrom "c" = ["c", "d"] ∧
    tangled.reachableFrom "x" = ["x"] ∧ tangled.reachableFrom "" = [] := by
  decide +kernel

end Snapshot
end GitPractice
