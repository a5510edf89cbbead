import GitPractice.Proofs.Ids
import GitPractice.Proofs.Offer
import GitPractice.Session
import Mathlib.Logic.Relation

/-!
# Runs as chains of steps

A run of lines changes its repository in small steps. A step carries out an
action that was offered, or it writes the log; an id that it uses for a commit
comes from the source and is new. What every step keeps, every run keeps, which
is `Session.runAll_keeps`. A source that shows no new id within its patience is
covered too: then a line makes no step but the log entry.
-/

namespace GitPractice

open Text (IsWord)

/-- One change of the repository in a session that takes its ids from `ids`, together with what
holds where it happens. The results stand here in full: a property of all runs is proved by going
through this list. -/
inductive Snapshot.Step (ids : IdSource) (s : Snapshot) : Snapshot → Prop
  | create (hu : s.initialized = false) : Step ids s s.create
  | createFile {name : String} (hw : IsWord name) : Step ids s (s.createFile name)
  | modifyFile {name : String} (hf : (s.workingFile name).isSome) : Step ids s (s.modifyFile name)
  | stage {name : String} (hi : s.initialized = true) : Step ids s (s.stage [name])
  | commit {id : String} {ws : List String} (now : Timestamp) (hi : s.initialized = true)
      (hs : s.staged ≠ []) (hw : ∀ w ∈ ws, IsWord w) (hm : cleanMessage ws ≠ "")
      (hid : ids.Shows id) (hnew : id ∉ s.commitIds) :
      Step ids s { s with
        commits := s.commits ++ [s.commitAtHead id now (cleanMessage ws)]
        head := id
        staged := []
        detached := false
        branches := s.moveCurrent id }
  | checkout {b : Branch} (hi : s.initialized = true) (hb : s.findBranch b.name = some b) :
      Step ids s { s with currentBranch := b.name, head := b.commit, detached := false }
  | checkoutCommit {start : String} {c : Commit} (hi : s.initialized = true)
      (hc : s.resolve start = some c) :
      Step ids s { s with head := c.id, detached := true, currentBranch := "" }
  | createBranch {name : String} (hi : s.initialized = true) (hw : IsWord name)
      (hn : s.findBranch name = none) :
      Step ids s { s with branches := s.branches ++ [s.branchAtHead name] }
  | createAndCheckoutBranch {name : String} (hi : s.initialized = true) (hw : IsWord name)
      (hn : s.findBranch name = none) :
      Step ids s { s with
        branches := s.branches ++ [s.branchAtHead name]
        currentBranch := name
        detached := false }
  | merge {id name : String} {source : Branch} (now : Timestamp) (hi : s.initialized = true)
      (hs : s.mergeSource name = some source) (hid : ids.Shows id) (hnew : id ∉ s.commitIds) :
      Step ids s { s with
        commits := s.commits ++ [s.mergeAtHead id now source]
        head := id
        branches := s.moveCurrent id }
  | reset {parent : String} (hi : s.initialized = true) (hp : s.resetParent = some parent) :
      Step ids s { s with
        head := parent
        branches := s.moveCurrent parent
        staged := []
        working := [] }
  | resetAll : Step ids s empty
  | record (now : Timestamp) (command output : String) (isError : Bool) :
      Step ids s (s.record now command output isError)

namespace Snapshot

open Relation (ReflTransGen)

/-- Nobody asks for a log entry; the session writes it. -/
theorem Offers.ne_record {s : Snapshot} {a : Action} (ho : s.Offers a) (command output : String)
    (isError : Bool) : a ≠ .record command output isError := by
  rintro rfl
  cases ho

/-- An action that is offered is one step, unless it is a reset from a commit without a parent. -/
theorem Offers.steps {ids : IdSource} {s : Snapshot} {a : Action} (ho : s.Offers a) {id : String}
    (now : Timestamp) (hid : s.createsCommit a = true → ids.Shows id ∧ id ∉ s.commitIds) :
    ReflTransGen (Step ids) s (s.apply id now a) := by
  cases ho with
  | create hu => exact .single (.create hu)
  | createFile hw => exact .single (.createFile hw)
  | modifyFile hf => exact .single (.modifyFile hf)
  | stage hi => exact .single (.stage hi)
  | commit hi hs hw hm =>
    obtain ⟨hshows, hnew⟩ := hid (createsCommit_commit hs _)
    rw [apply, commit_of_staged hs]
    exact .single (.commit now hi hs hw hm hshows hnew)
  | checkout hi hb =>
    obtain ⟨b, hb⟩ := Option.isSome_iff_exists.mp hb
    rw [apply, checkout_of_found hb]
    obtain rfl := findBranch_name hb
    exact .single (.checkout hi hb)
  | checkoutCommit hi _ hc =>
    obtain ⟨c, hc⟩ := Option.isSome_iff_exists.mp hc
    rw [apply, checkoutCommit_of_found hc]
    exact .single (.checkoutCommit hi hc)
  | createBranch hi hw hn =>
    rw [apply, createBranch_of_new hn]
    exact .single (.createBranch hi hw hn)
  | createAndCheckoutBranch hi hw hn =>
    rw [apply, createAndCheckoutBranch_of_new hn]
    exact .single (.createAndCheckoutBranch hi hw hn)
  | merge hi hs =>
    obtain ⟨hshows, hnew⟩ := hid hs
    obtain ⟨source, hs⟩ := Option.isSome_iff_exists.mp hs
    rw [apply, merge_of_found hs]
    exact .single (.merge now hi hs hshows hnew)
  | reset hi _ =>
    rw [apply]
    cases hp : s.resetParent with
    | none =>
      rw [reset_of_no_parent hp]
    | some parent =>
      rw [reset_hard_of_parent hp]
      exact .single (.reset hi hp)

theorem Step.keeps {ids : IdSource} {P : Snapshot → Prop}
    (hstep : ∀ {s s'}, Step ids s s' → P s → P s') {s s' : Snapshot}
    (h : ReflTransGen (Step ids) s s') (hs : P s) : P s' := by
  induction h with
  | refl => exact hs
  | tail _ h ih => exact hstep h ih

/-- The ids of the commits come from the source, so they have whatever its ids have. -/
theorem Step.forall_commitIds {ids : IdSource} {P : String → Prop} (hP : ∀ n, P (ids.nth n))
    {s s' : Snapshot} (h : Step ids s s') (hs : ∀ id ∈ s.commitIds, P id) :
    ∀ id ∈ s'.commitIds, P id := by
  have hpushed {c : Commit} (hid : ids.Shows c.id) : ∀ id ∈ (s.commits ++ [c]).map (·.id), P id := by
    obtain ⟨n, hn⟩ := hid
    have hnew : P c.id := hn ▸ hP n
    rw [List.map_append, List.forall_mem_append]
    exact ⟨hs, List.forall_mem_singleton.mpr hnew⟩
  cases h with
  | commit _ _ _ _ _ hid | merge _ _ _ hid => exact hpushed hid
  | createFile =>
    rw [createFile_eq]
    exact hs
  | resetAll => exact fun _ hid => by cases hid
  | _ => exact hs

end Snapshot

/-- Numbered ids and a clock that stands still. -/
def Source.sample : Source := { ids := .ofList [] IdSource.numbered, clock := fun _ => .sample }

namespace Session

open Relation (ReflTransGen)
open Snapshot (Step)

variable {source : Source} {t : Session}

/-! ## What dispatching does to the snapshot -/

/-- An action that makes a commit takes the first new id. -/
theorem dispatch_of_createsCommit {a : Action} {id : String} {taken : Nat}
    (hc : t.snapshot.createsCommit a = true)
    (hid : source.ids.unused? t.snapshot.commitIds t.idsTaken = some (id, taken)) :
    t.dispatch source a =
      { snapshot := t.snapshot.apply id (source.clock t.clockReads) a, idsTaken := taken
        clockReads := t.clockReads + 1 } := by
  simp only [dispatch, hc, hid, if_true]

/-- When the source has no new id, nothing happens. -/
theorem dispatch_of_exhausted {a : Action} (hc : t.snapshot.createsCommit a = true)
    (hid : source.ids.unused? t.snapshot.commitIds t.idsTaken = none) :
    t.dispatch source a = t := by
  simp only [dispatch, hc, hid, if_true]

/-- Any other action that is offered is applied, and takes nothing from the source. -/
theorem dispatch_of_not_createsCommit {a : Action} (hc : t.snapshot.createsCommit a = false)
    (ho : t.snapshot.Offers a) :
    t.dispatch source a =
      { t with snapshot := t.snapshot.apply "" (source.clock t.clockReads) a } := by
  simp only [dispatch, hc, Bool.false_eq_true, if_false]
  split
  · next command output isError => exact absurd rfl (ho.ne_record command output isError)
  · rfl

theorem dispatch_record (command output : String) (isError : Bool) :
    t.dispatch source (.record command output isError) =
      { t with
        snapshot := t.snapshot.record (source.clock t.clockReads) command output isError
        clockReads := t.clockReads + 1 } := rfl

/-- An action that makes a commit may find no new id. It is applied otherwise, as any other is, and
the id that it finds comes from the source. -/
theorem dispatch_snapshot (a : Action) :
    (t.dispatch source a).snapshot = t.snapshot ∧ t.snapshot.createsCommit a = true ∨
      ∃ id now, (t.dispatch source a).snapshot = t.snapshot.apply id now a ∧
        (t.snapshot.createsCommit a = true → source.ids.Shows id ∧ id ∉ t.snapshot.commitIds) := by
  cases hc : t.snapshot.createsCommit a with
  | true =>
    cases hid : source.ids.unused? t.snapshot.commitIds t.idsTaken with
    | none => exact Or.inl ⟨by rw [dispatch_of_exhausted hc hid], rfl⟩
    | some found =>
      obtain ⟨id, taken⟩ := found
      refine Or.inr ⟨id, _, by rw [dispatch_of_createsCommit hc hid], fun _ => ?_⟩
      exact ⟨IdSource.shows_of_search hid, IdSource.unused?_not_mem hid⟩
  | false =>
    refine Or.inr ⟨"", source.clock t.clockReads, ?_, fun h => by cases h⟩
    simp only [dispatch, hc, Bool.false_eq_true, if_false]
    cases a <;> rfl

theorem dispatch_steps {a : Action} (ho : t.snapshot.Offers a) :
    ReflTransGen (Step source.ids) t.snapshot (t.dispatch source a).snapshot := by
  rcases @dispatch_snapshot source t a with ⟨hsame, -⟩ | ⟨id, now, happly, hid⟩
  · rw [hsame]
  · rw [happly]
    exact ho.steps now hid

/-! ## Lines and runs -/

/-- The session after the action of the answer and before the log entry. -/
def act (source : Source) (t : Session) (answer : Outcome) : Session :=
  match answer.action with
  | some a => t.dispatch source a
  | none => t

theorem run_eq (line : String) :
    t.run source line =
      if (t.interpret line).recorded then
        (t.act source (t.interpret line)).dispatch source
          (.record (Text.strip line) (t.interpret line).output (t.interpret line).isError)
      else t.act source (t.interpret line) := rfl

/-- The blanks around a line leave no trace. -/
theorem run_strip (source : Source) (t : Session) (line : String) :
    t.run source (Text.strip line) = t.run source line := by
  rw [run, interpret, interpret_strip, conclude, Text.strip_strip]
  rfl

theorem act_steps (line : String) :
    ReflTransGen (Step source.ids) t.snapshot (t.act source (t.interpret line)).snapshot := by
  by_cases hc : Command.parse line = .clear
  · rw [interpret, interpret_of_clear hc]
    exact .single .resetAll
  · rw [act]
    split
    · next a ha => exact dispatch_steps (interpret_offers hc ha)
    · exact .refl

theorem run_steps (line : String) :
    ReflTransGen (Step source.ids) t.snapshot (t.run source line).snapshot := by
  rw [run_eq]
  split
  · rw [dispatch_record]
    exact (act_steps line).tail (.record _ _ _ _)
  · exact act_steps line

/-- Writing the log changes nothing else. -/
theorem run_snapshot (line : String) :
    ∃ log, (t.run source line).snapshot =
      { (t.act source (t.interpret line)).snapshot with history := log } := by
  rw [run_eq]
  split
  · exact ⟨_, rfl⟩
  · exact ⟨_, rfl⟩

theorem runAll_cons (line : String) (lines : List String) :
    t.runAll source (line :: lines) = (t.run source line).runAll source lines := rfl

theorem answers_concat (lines : List String) (line : String) :
    answers source t (lines ++ [line]) =
      answers source t lines ++ [(t.runAll source lines).interpret line] := by
  induction lines generalizing t with
  | nil => rfl
  | cons first lines ih => rw [List.cons_append, answers, ih, answers, List.cons_append, runAll_cons]

theorem runAll_steps (lines : List String) :
    ReflTransGen (Step source.ids) t.snapshot (t.runAll source lines).snapshot := by
  induction lines generalizing t with
  | nil => exact .refl
  | cons line lines ih =>
    rw [runAll_cons]
    exact (run_steps line).trans ih

/-- What holds at the start and is kept by every step holds after every run. -/
theorem runAll_keeps {P : Snapshot → Prop} (hstart : P t.snapshot)
    (hstep : ∀ {s s'}, Step source.ids s s' → P s → P s') (lines : List String) :
    P (t.runAll source lines).snapshot :=
  Step.keeps hstep (runAll_steps lines) hstart

theorem forall_commitIds_runAll {P : String → Prop} (hP : ∀ n, P (source.ids.nth n))
    (lines : List String) : ∀ id ∈ (runAll source {} lines).snapshot.commitIds, P id :=
  runAll_keeps (P := fun s => ∀ id ∈ s.commitIds, P id) (fun _ hid => by cases hid)
    (fun hs => hs.forall_commitIds hP) lines

end Session
end GitPractice
