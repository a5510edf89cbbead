import GitPractice.Proofs.CommitGraph
import GitPractice.Proofs.Line
import Mathlib.Data.List.Find
import Mathlib.Data.Set.Function

/-!
# The same repository under other ids

Renaming the ids of a snapshot renames the commits, the parents, the pointers of
the branches and HEAD. No action but a checkout of a commit looks at an id: ids
are only compared with each other, and with the pointer that points nowhere. So
an action does the same before and after a renaming that keeps different ids
apart (`Snapshot.apply_rename`), and the answers differ in their texts at most
(`Snapshot.interpret_rename`).

The log is replaced at the same time, as it holds texts with ids in them.
-/

namespace GitPractice

def Commit.rename (ρ : String → String) (c : Commit) : Commit :=
  { c with id := ρ c.id, parent := c.parent.map ρ, parents := c.parents.map (·.map ρ) }

def Branch.rename (ρ : String → String) (b : Branch) : Branch := { b with commit := ρ b.commit }

/-- The answer but for its text. -/
def Outcome.withoutOutput (o : Outcome) : Outcome := { o with output := "" }

/-- Answers that are equal but for their texts. -/
theorem Outcome.withoutOutput_eq_iff {o o' : Outcome} :
    o.withoutOutput = o'.withoutOutput ↔
      o.isError = o'.isError ∧ o.action = o'.action ∧ o.recorded = o'.recorded := by
  simp [withoutOutput]

@[simp]
theorem Outcome.withoutOutput_success (output : String) (action : Option Action) :
    (success output action).withoutOutput = success "" action := rfl

/-- The entry but for the text of the answer. -/
def HistoryEntry.withoutOutput (e : HistoryEntry) : HistoryEntry := { e with output := "" }

namespace Snapshot

/-- The repository under other ids and with another log. -/
def rename (ρ : String → String) (log : List HistoryEntry) (s : Snapshot) : Snapshot :=
  { s with
    commits := s.commits.map (·.rename ρ)
    branches := s.branches.map (·.rename ρ)
    head := ρ s.head
    history := log }

/-- Different pointers stay different, and the one that points nowhere stays as it is. -/
structure Renames (ρ : String → String) (s : Snapshot) : Prop where
  nowhere : ∀ id, ρ id = "" ↔ id = ""
  injOn : Set.InjOn ρ {id | s.Points id}

/-- Whether the line is no checkout, or one of a branch that exists. -/
def checksOutBranch (s : Snapshot) (line : String) : Bool :=
  match Command.parse line with
  | .git (.checkout (some target)) => (s.findBranch target).isSome
  | _ => true

variable {s : Snapshot} {ρ : String → String} {log : List HistoryEntry}

theorem Renames.empty (h : s.Renames ρ) : ρ "" = "" := (h.nowhere "").mpr rfl

theorem commitIds_rename : (s.rename ρ log).commitIds = s.commitIds.map ρ := by
  rw [commitIds, rename, List.map_map, commitIds, List.map_map]
  rfl

/-! ## Look-ups -/

theorem findBranch_rename (name : String) :
    (s.rename ρ log).findBranch name = (s.findBranch name).map (·.rename ρ) := by
  rw [findBranch, rename, List.find?_map]
  rfl

theorem isSome_findBranch_rename (name : String) :
    ((s.rename ρ log).findBranch name).isSome = (s.findBranch name).isSome := by
  rw [findBranch_rename, Option.isSome_map]

/-- The first commit of an id is the first one of the new id, since no other id becomes it. -/
theorem findCommit_rename (h : s.Renames ρ) {id : String} (hp : s.Points id) :
    (s.rename ρ log).findCommit (ρ id) = (s.findCommit id).map (·.rename ρ) := by
  rw [findCommit, rename, List.find?_map, findCommit]
  congr 1
  refine List.find?_congr fun c hc => ?_
  have hpoints : s.Points c.id := Or.inr (List.mem_map_of_mem hc)
  exact decide_eq_decide.mpr (h.injOn.eq_iff hpoints hp)

theorem headCommit_rename (h : s.Renames ρ) (hl : s.WellLinked) :
    (s.rename ρ log).headCommit = s.headCommit.map (·.rename ρ) := by
  have hhead : ρ s.head = "" ↔ s.head = "" := h.nowhere s.head
  rw [headCommit, headCommit]
  show (if ρ s.head = "" then none else (s.rename ρ log).findCommit (ρ s.head)) = _
  rw [findCommit_rename h hl.head]
  simp only [hhead]
  split <;> rfl

theorem resetParent_rename (h : s.Renames ρ) (hl : s.WellLinked) :
    (s.rename ρ log).resetParent = s.resetParent.map ρ := by
  have hparent : (s.rename ρ log).headCommit.bind (·.parent) =
      (s.headCommit.bind (·.parent)).map ρ := by
    rw [headCommit_rename h hl, Option.bind_map, Option.map_bind]
    rfl
  have hnowhere : ((fun id => decide (id ≠ "")) ∘ ρ) = fun id => decide (id ≠ "") := by
    funext id
    simp [h.nowhere id]
  rw [resetParent, hparent, Option.filter_map, hnowhere]
  rfl

theorem mergeSource_rename (h : s.Renames ρ) (name : String) :
    (s.rename ρ log).mergeSource name = (s.mergeSource name).map (·.rename ρ) := by
  rw [mergeSource, findBranch_rename, Option.filter_map, mergeSource]
  congr 2
  funext b
  show (b.name ≠ s.currentBranch && ρ b.commit ≠ "" && ρ s.head ≠ "") = _
  simp [h.nowhere]

theorem moveCurrent_rename (id : String) :
    (s.rename ρ log).moveCurrent (ρ id) = (s.moveCurrent id).map (·.rename ρ) := by
  rw [moveCurrent, rename, List.map_map, moveCurrent, List.map_map]
  refine List.map_congr_left fun b _ => ?_
  show (if b.name = s.currentBranch then { b.rename ρ with commit := ρ id } else b.rename ρ) =
    (if b.name = s.currentBranch then { b with commit := id } else b).rename ρ
  split <;> rfl

theorem createsCommit_rename (h : s.Renames ρ) (a : Action) :
    (s.rename ρ log).createsCommit a = s.createsCommit a := by
  cases a with
  | merge name => rw [createsCommit, mergeSource_rename h, Option.isSome_map, createsCommit]
  | _ => rfl

/-! ## Actions -/

theorem commitAtHead_rename (h : s.Renames ρ) (id : String) (now : Timestamp) (message : String) :
    (s.rename ρ log).commitAtHead (ρ id) now message =
      (s.commitAtHead id now message).rename ρ := by
  have hparent : (if ρ s.head = "" then none else some (ρ s.head)) =
      (if s.head = "" then none else some s.head).map ρ := by
    simp only [h.nowhere s.head]
    split <;> rfl
  rw [commitAtHead, commitAtHead, Commit.rename]
  simp only [← hparent]
  rfl

theorem branchAtHead_rename (name : String) :
    (s.rename ρ log).branchAtHead name = (s.branchAtHead name).rename ρ := by
  rw [branchAtHead, branchAtHead, Branch.rename]
  simp only [rename, List.length_map]

/-- An action that is offered does the same under the new ids. -/
theorem apply_rename (h : s.Renames ρ) (hl : s.WellLinked) {a : Action} (ho : s.Offers a)
    (hc : ∀ start, a ≠ .checkoutCommit start) (id : String) (now : Timestamp) :
    (s.rename ρ log).apply (ρ id) now a = (s.apply id now a).rename ρ log := by
  -- What the offer says is looked up holds under the new ids too, so both sides take the same way.
  cases ho with
  | create =>
    show (s.rename ρ log).create = s.create.rename ρ log
    simp [create, rename, Branch.rename, h.empty]
  | @createFile name =>
    show (s.rename ρ log).createFile name = (s.createFile name).rename ρ log
    cases hk : s.hasFile name with
    | true =>
      have hk' : (s.rename ρ log).hasFile name = true := hk
      rw [createFile_of_known hk', createFile_of_known hk]
    | false =>
      have hk' : (s.rename ρ log).hasFile name = false := hk
      rw [createFile_of_new hk', createFile_of_new hk]
      rfl
  | modifyFile | stage => rfl
  | @commit ws _ hs =>
    have hs' : (s.rename ρ log).staged ≠ [] := hs
    show (s.rename ρ log).commit (ρ id) now _ = (s.commit id now _).rename ρ log
    rw [commit_of_staged hs', commit_of_staged hs, commitAtHead_rename h, moveCurrent_rename]
    simp only [rename, List.map_append, List.map_singleton]
  | @checkout name _ hb =>
    obtain ⟨b, hb⟩ := Option.isSome_iff_exists.mp hb
    have hb' : (s.rename ρ log).findBranch name = some (b.rename ρ) := by
      rw [findBranch_rename, hb]
      rfl
    show (s.rename ρ log).checkout name = (s.checkout name).rename ρ log
    rw [checkout_of_found hb', checkout_of_found hb]
    rfl
  | @checkoutCommit start => exact absurd rfl (hc start)
  | @createBranch name _ _ hn =>
    have hn' : (s.rename ρ log).findBranch name = none := by rw [findBranch_rename, hn]; rfl
    show (s.rename ρ log).createBranch name none = (s.createBranch name none).rename ρ log
    rw [createBranch_of_new hn', createBranch_of_new hn, branchAtHead_rename]
    simp only [rename, List.map_append, List.map_singleton]
  | @createAndCheckoutBranch name _ _ hn =>
    have hn' : (s.rename ρ log).findBranch name = none := by rw [findBranch_rename, hn]; rfl
    show (s.rename ρ log).createAndCheckoutBranch name =
      (s.createAndCheckoutBranch name).rename ρ log
    rw [createAndCheckoutBranch_of_new hn', createAndCheckoutBranch_of_new hn, branchAtHead_rename]
    simp only [rename, List.map_append, List.map_singleton]
  | @merge name _ hs =>
    obtain ⟨source, hs⟩ := Option.isSome_iff_exists.mp hs
    have hs' : (s.rename ρ log).mergeSource name = some (source.rename ρ) := by
      rw [mergeSource_rename h, hs]
      rfl
    show (s.rename ρ log).merge (ρ id) now name = (s.merge id now name).rename ρ log
    rw [merge_of_found hs', merge_of_found hs, moveCurrent_rename]
    simp only [rename, List.map_append, List.map_singleton]
    rfl
  | reset =>
    show (s.rename ρ log).reset .hard resetTarget = (s.reset .hard resetTarget).rename ρ log
    cases hp : s.resetParent with
    | none =>
      have hp' : (s.rename ρ log).resetParent = none := by rw [resetParent_rename h hl, hp]; rfl
      rw [reset_of_no_parent hp', reset_of_no_parent hp]
    | some parent =>
      have hp' : (s.rename ρ log).resetParent = some (ρ parent) := by
        rw [resetParent_rename h hl, hp]
        rfl
      rw [reset_hard_of_parent hp', reset_hard_of_parent hp, moveCurrent_rename]
      rfl

/-! ## Answers -/

theorem outcomeInside_rename (h : s.Renames ρ) {command : GitCommand}
    (hc : ∀ target, command = .checkout (some target) → (s.findBranch target).isSome) :
    (command.outcomeInside (s.rename ρ log)).withoutOutput =
      (command.outcomeInside s).withoutOutput := by
  have hempty : (s.rename ρ log).commits.isEmpty = s.commits.isEmpty := by
    rw [rename, List.isEmpty_map]
  cases command with
  | missing | unrecognized | init | add => rfl
  | status => simp only [GitCommand.outcomeInside, Outcome.withoutOutput_success]
  | commit message =>
    have hstaged : (s.rename ρ log).staged = s.staged := rfl
    simp only [GitCommand.outcomeInside, GitCommand.commitOutcome, hstaged]
    split
    · rfl
    · cases message with
      | none => rfl
      | some message => simp only; split <;> simp only [Outcome.withoutOutput_success]
  | checkout target =>
    cases target with
    | none => rfl
    | some target =>
      have hb := hc target rfl
      have hb' : ((s.rename ρ log).findBranch target).isSome := by rwa [isSome_findBranch_rename]
      simp only [GitCommand.outcomeInside, GitCommand.checkoutOutcome, hb, hb', if_true]
  | checkoutNew name =>
    simp only [GitCommand.outcomeInside, GitCommand.checkoutNewOutcome, isSome_findBranch_rename]
  | branch name =>
    cases name with
    | none =>
      simp only [GitCommand.outcomeInside, GitCommand.branchOutcome, Outcome.withoutOutput_success]
    | some name =>
      simp only [GitCommand.outcomeInside, GitCommand.branchOutcome, isSome_findBranch_rename]
  | merge name =>
    cases name with
    | none => rfl
    | some name =>
      have hcurrent : (s.rename ρ log).currentBranch = s.currentBranch := rfl
      have hhead : (s.rename ρ log).head = "" ↔ s.head = "" := h.nowhere s.head
      have hsource : (((s.rename ρ log).findBranch name).filter (·.commit ≠ "")).isNone =
          ((s.findBranch name).filter (·.commit ≠ "")).isNone := by
        have hcommit : ((fun b : Branch => decide (b.commit ≠ "")) ∘ (·.rename ρ)) =
            fun b : Branch => decide (b.commit ≠ "") := by
          funext b
          simp [Branch.rename, h.nowhere]
        rw [findBranch_rename, Option.filter_map, hcommit, Option.isNone_map]
      simp only [GitCommand.outcomeInside, GitCommand.mergeOutcome, hcurrent, hsource, hhead]
  | log =>
    simp only [GitCommand.outcomeInside, hempty]
    split
    · rfl
    · simp only [Outcome.withoutOutput_success]
  | reset wellFormed =>
    simp only [GitCommand.outcomeInside, GitCommand.resetOutcome, hempty]
    split
    · rfl
    · split
      · rfl
      · simp only [Outcome.withoutOutput_success]

/-- Under other ids a line is answered with the same action and the same flags. -/
theorem interpret_rename (h : s.Renames ρ) {line : String} (hb : s.checksOutBranch line = true) :
    (interpret (s.rename ρ log) line).withoutOutput = (interpret s line).withoutOutput := by
  rw [interpret, interpret]
  cases hparse : Command.parse line with
  | blank | write | echo | clear | help | unknown => rfl
  | touch name => cases name <;> rfl
  | git command =>
    have hc : ∀ target, command = .checkout (some target) → (s.findBranch target).isSome := by
      rintro target rfl
      rwa [checksOutBranch, hparse] at hb
    show (command.outcome (s.rename ρ log)).withoutOutput = (command.outcome s).withoutOutput
    rw [GitCommand.outcome, GitCommand.outcome]
    show (if s.initialized then _ else _ : Outcome).withoutOutput = _
    split
    · exact outcomeInside_rename h hc
    · rfl

/-- Only a checkout of what is no branch goes to a commit. -/
theorem checkout_of_checkoutCommit {command : GitCommand} {start : String}
    (h : (command.outcomeInside s).action = some (.checkoutCommit start)) :
    command = .checkout (some start) ∧ (s.findBranch start).isSome = false := by
  cases command with
  | missing | unrecognized | init | status => simp [GitCommand.outcomeInside] at h
  | checkout target =>
    cases target with
    | none => simp [GitCommand.outcomeInside, GitCommand.checkoutOutcome] at h
    | some target =>
      rw [GitCommand.outcomeInside, GitCommand.checkoutOutcome_action] at h
      split at h
      · cases h
      · next hb =>
        split at h
        · cases h
          exact ⟨rfl, by simpa using hb⟩
        · cases h
  | add name =>
    cases name with
    | none => simp [GitCommand.outcomeInside, GitCommand.addOutcome] at h
    | some name =>
      rw [GitCommand.outcomeInside, GitCommand.addOutcome_action] at h
      split at h <;> cases h
  | commit message =>
    cases message <;>
      simp [GitCommand.outcomeInside, GitCommand.commitOutcome, apply_ite Outcome.action] at h
  | checkoutNew name =>
    simp [GitCommand.outcomeInside, GitCommand.checkoutNewOutcome, apply_ite Outcome.action] at h
  | branch name =>
    cases name <;>
      simp [GitCommand.outcomeInside, GitCommand.branchOutcome, apply_ite Outcome.action] at h
  | merge name =>
    cases name <;>
      simp [GitCommand.outcomeInside, GitCommand.mergeOutcome, apply_ite Outcome.action] at h
  | log => simp [GitCommand.outcomeInside, apply_ite Outcome.action] at h
  | reset wellFormed =>
    simp [GitCommand.outcomeInside, GitCommand.resetOutcome, apply_ite Outcome.action] at h

theorem ne_checkoutCommit {line : String} {a : Action} (hb : s.checksOutBranch line = true)
    (ha : (interpret s line).action = some a) (start : String) : a ≠ .checkoutCommit start := by
  rintro rfl
  rw [interpret] at ha
  cases hparse : Command.parse line with
  | git command =>
    rw [hparse, Command.outcome, GitCommand.outcome] at ha
    split at ha
    · obtain ⟨rfl, hnone⟩ := checkout_of_checkoutCommit ha
      rw [checksOutBranch, hparse] at hb
      simp only [hnone] at hb
      cases hb
    · split at ha <;> cases ha
  | touch name => cases name <;> simp [hparse, Command.outcome] at ha
  | write name =>
    simp only [hparse, Command.outcome, Command.writeOutcome, apply_ite Outcome.action] at ha
    split at ha
    · cases ha
    · split at ha <;> cases ha
  | _ => simp [hparse, Command.outcome] at ha

/-! ## Lines -/

/-- An entry may be written after the renaming, or before it with any text. -/
theorem record_rename (now : Timestamp) (command output output' : String) (isError : Bool) :
    (s.rename ρ log).record now command output' isError =
      (s.record now command output isError).rename ρ
        (log ++ [{ command, output := output', isError, timestamp := now }]) := rfl

theorem makesCommit_rename (h : s.Renames ρ) {line : String} (hb : s.checksOutBranch line = true) :
    (s.rename ρ log).makesCommit line = s.makesCommit line := by
  obtain ⟨-, haction, -⟩ := Outcome.withoutOutput_eq_iff.mp (interpret_rename h hb)
  rw [makesCommit, makesCommit, haction, funext (createsCommit_rename h)]

theorem afterAction_rename (h : s.Renames ρ) (hl : s.WellLinked) {line : String}
    (hb : s.checksOutBranch line = true) (hc : Command.parse line ≠ .clear) (id : String)
    (now : Timestamp) :
    (s.rename ρ log).afterAction (ρ id) now (interpret (s.rename ρ log) line) =
      (s.afterAction id now (interpret s line)).rename ρ log := by
  obtain ⟨-, haction, -⟩ := Outcome.withoutOutput_eq_iff.mp (interpret_rename h hb)
  rw [afterAction, afterAction, haction]
  cases ha : (interpret s line).action with
  | none => rfl
  | some a => exact apply_rename h hl (interpret_offers hc ha) (ne_checkoutCommit hb ha) id now

/-- A line keeps the correspondence, with a log that differs in texts of answers only. -/
theorem afterLine_rename (h : s.Renames ρ) (hl : s.WellLinked) {line : String}
    (hb : s.checksOutBranch line = true)
    (hlog : log.map (·.withoutOutput) = s.history.map (·.withoutOutput)) (id : String)
    (now : Timestamp) :
    ∃ log', (s.rename ρ log).afterLine (ρ id) now line = (s.afterLine id now line).rename ρ log' ∧
      log'.map (·.withoutOutput) = (s.afterLine id now line).history.map (·.withoutOutput) := by
  by_cases hblank : Command.parse line = .blank
  · rw [afterLine_of_blank hblank, afterLine_of_blank hblank]
    exact ⟨log, rfl, hlog⟩
  · by_cases hclear : Command.parse line = .clear
    · rw [afterLine_of_clear hclear, afterLine_of_clear hclear]
      refine ⟨[], ?_, rfl⟩
      simp [empty, rename, h.empty]
    · obtain ⟨herror, -, -⟩ := Outcome.withoutOutput_eq_iff.mp (interpret_rename h hb)
      refine ⟨log ++ [{ command := Text.strip line
                        output := (interpret (s.rename ρ log) line).output
                        isError := (interpret s line).isError
                        timestamp := now }], ?_, ?_⟩
      · rw [afterLine_of_logged hblank hclear, afterLine_of_logged hblank hclear,
          afterAction_rename h hl hb hclear, herror]
        exact record_rename _ _ _ _ _
      · rw [history_afterLine hblank hclear, List.map_append, List.map_append, hlog]
        simp only [List.map_cons, List.map_nil, HistoryEntry.withoutOutput]

end Snapshot
end GitPractice
