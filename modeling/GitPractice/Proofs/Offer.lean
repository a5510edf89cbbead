import GitPractice.Command.Outcome
import GitPractice.Proofs.Staging
import GitPractice.Proofs.Words

/-!
# What an answer may ask for

The answer to a line carries at most one action, and only after looking at the
state. `Offers` lists these actions together with all that was looked at, so
that an argument about a run never has to open the commands again. There are
fewer of them than there are actions: nobody asks for a soft reset, for several
names to be staged at once, or for a branch that starts elsewhere than at HEAD.

The main statement is `interpret_offers`.
-/

namespace GitPractice

open Text (IsWord)

/-! ## What is read from a line -/

namespace GitCommand

/-- Whether the names in the command are words and its message was cleaned. This holds of
everything that is read from a line. -/
def Readable : GitCommand → Prop
  | add name | checkout name | branch name | merge name => ∀ w ∈ name, IsWord w
  | checkoutNew name => IsWord name
  | commit message => ∀ m ∈ message, ∃ ws, (∀ w ∈ ws, IsWord w) ∧ m = cleanMessage ws
  | _ => True

theorem readable_ofCheckout {ws : List String} (h : ∀ w ∈ ws, IsWord w) :
    (ofCheckout ws).Readable := by
  match ws with
  | [] => simp [ofCheckout, Readable]
  | [target] =>
    rw [ofCheckout]
    split
    · simp [Readable]
    · simpa [Readable] using h
  | target :: name :: rest =>
    rw [ofCheckout]
    split
    · exact h name (by simp)
    · simpa [Readable] using h target List.mem_cons_self

theorem readable_ofCommit {ws : List String} (h : ∀ w ∈ ws, IsWord w) :
    (ofCommit ws).Readable := by
  match ws with
  | [] | [_] => simp [ofCommit, Readable]
  | flag :: word :: rest =>
    rw [ofCommit]
    intro m hm
    refine ⟨word :: rest, fun w hw => h w (List.mem_cons_of_mem flag hw), ?_⟩
    split at hm
    · exact (Option.some.inj hm).symm
    · simp at hm

theorem readable_ofWords {ws : List String} (h : ∀ w ∈ ws, IsWord w) :
    (ofWords ws).Readable := by
  have hrest : ∀ verb args, ws = verb :: args → ∀ w ∈ args, IsWord w := by
    rintro verb args rfl w hw
    exact h w (List.mem_cons_of_mem verb hw)
  have hfirst : ∀ verb args, ws = verb :: args → ∀ w ∈ args.head?, IsWord w :=
    fun verb args e w hw => hrest verb args e w (List.mem_of_mem_head? hw)
  unfold ofWords
  split
  case h_3 args => exact hfirst "add" args rfl
  case h_4 args => exact readable_ofCommit (hrest "commit" args rfl)
  case h_5 args => exact readable_ofCheckout (hrest "checkout" args rfl)
  case h_6 args => exact hfirst "branch" args rfl
  case h_7 args => exact hfirst "merge" args rfl
  all_goals exact trivial

end GitCommand

namespace Command

/-- Whether the names in the command are words, and a git command in it is readable. -/
def Readable : Command → Prop
  | git command => command.Readable
  | touch name => ∀ w ∈ name, IsWord w
  | write name => IsWord name
  | _ => True

theorem readable_ofEcho {ws : List String} (h : ∀ w ∈ ws, IsWord w) : (ofEcho ws).Readable := by
  unfold ofEcho
  split
  · next name mark _ _ heq =>
    split
    · have hname : name ∈ ws := by
        rw [← List.mem_reverse, heq]
        exact List.mem_cons_self
      exact h name hname
    · exact trivial
  · exact trivial

theorem readable_ofWords {ws : List String} (h : ∀ w ∈ ws, IsWord w) :
    (ofWords ws).Readable := by
  have hrest : ∀ verb args, ws = verb :: args → ∀ w ∈ args, IsWord w := by
    rintro verb args rfl w hw
    exact h w (List.mem_cons_of_mem verb hw)
  unfold ofWords
  split
  case h_2 args => exact GitCommand.readable_ofWords (hrest "git" args rfl)
  case h_3 args =>
    exact fun w hw => hrest "touch" args rfl w (List.mem_of_mem_head? hw)
  case h_4 args => exact readable_ofEcho (hrest "echo" args rfl)
  all_goals exact trivial

theorem readable_parse (line : String) : (parse line).Readable :=
  readable_ofWords fun _ hw => Text.isWord_of_mem_words hw

end Command

/-! ## Actions that are asked for -/

/-- The actions that an answer given in this state may carry, but for the one that discards
everything. -/
inductive Snapshot.Offers (s : Snapshot) : Action → Prop
  | create (h : s.initialized = false) : Offers s .create
  | createFile {name : String} (hw : IsWord name) : Offers s (.createFile name)
  | modifyFile {name : String} (h : (s.workingFile name).isSome) : Offers s (.modifyFile name)
  | stage {name : String} (hi : s.initialized = true) (h : s.namesToStage [name] ≠ []) :
      Offers s (.stage [name])
  | commit {ws : List String} (hi : s.initialized = true) (h : s.staged ≠ [])
      (hw : ∀ w ∈ ws, IsWord w) (hm : cleanMessage ws ≠ "") : Offers s (.commit (cleanMessage ws))
  | checkout {name : String} (hi : s.initialized = true) (h : (s.findBranch name).isSome) :
      Offers s (.checkout name)
  | checkoutCommit {start : String} (hi : s.initialized = true) (hb : s.findBranch start = none)
      (h : (s.resolve start).isSome) : Offers s (.checkoutCommit start)
  | createBranch {name : String} (hi : s.initialized = true) (hw : IsWord name)
      (h : s.findBranch name = none) : Offers s (.createBranch name none)
  | createAndCheckoutBranch {name : String} (hi : s.initialized = true) (hw : IsWord name)
      (h : s.findBranch name = none) : Offers s (.createAndCheckoutBranch name)
  | merge {name : String} (hi : s.initialized = true) (h : (s.mergeSource name).isSome) :
      Offers s (.merge name)
  | reset (hi : s.initialized = true) (h : s.commits ≠ []) : Offers s (.reset .hard resetTarget)

namespace Outcome

@[simp] theorem success_action (output : String) (a : Option Action) :
    (success output a).action = a := rfl

@[simp] theorem failure_action (output : String) : (failure output).action = none := rfl

/-- The answers that a command may give: a success with or without an action, and a failure, which
has none. -/
inductive IsReply : Outcome → Prop
  | success (output : String) (a : Option Action) : IsReply (.success output a)
  | failure (output : String) : IsReply (.failure output)

namespace IsReply

variable {o o' : Outcome}

theorem ite {c : Prop} [Decidable c] (h : o.IsReply) (h' : o'.IsReply) :
    (if c then o else o').IsReply := by
  split
  · exact h
  · exact h'

theorem recorded (h : o.IsReply) : o.recorded = true := by
  cases h <;> rfl

theorem action_of_isError (h : o.IsReply) (he : o.isError = true) : o.action = none := by
  cases h with
  | success => cases he
  | failure => rfl

end IsReply
end Outcome

section

variable {s : Snapshot} {a : Action}

namespace GitCommand

/-! ### The action of an answer

Each answer carries its action exactly when the transition would find something to do. -/

theorem addOutcome_action (s : Snapshot) (name : String) :
    (addOutcome s (some name)).action =
      if s.namesToStage [name] = [] then none else some (.stage [name]) := by
  rw [addOutcome]
  by_cases hall : name = stageAll
  · rw [if_pos hall, hall]
    cases hw : s.working with
    | nil => simp [Snapshot.namesToStage, hw]
    | cons f fs =>
      have hmem : f.name ∈ s.namesToStage [stageAll] := by
        rw [Snapshot.mem_namesToStage_iff, hw]
        simp
      rw [if_neg (List.ne_nil_of_mem hmem)]
      rfl
  · rw [if_neg hall]
    by_cases hf : (s.workingFile name).isSome
    · have hmem : name ∈ s.namesToStage [name] :=
        Snapshot.mem_namesToStage_iff.mpr
          ⟨Snapshot.workingFile_isSome_iff.mp hf, Or.inr List.mem_cons_self⟩
      rw [if_pos hf, if_neg (List.ne_nil_of_mem hmem)]
      rfl
    · have hnil : s.namesToStage [name] = [] := by
        simp [Snapshot.namesToStage, Ne.symm hall, hf]
      rw [if_neg hf, if_pos hnil]
      rfl

theorem commitOutcome_action (s : Snapshot) {message : String} (hm : message ≠ "") :
    (commitOutcome s (some message)).action =
      if s.staged = [] then none else some (.commit message) := by
  rw [commitOutcome]
  cases s.staged with
  | nil => rfl
  | cons f fs =>
    rw [if_neg (by simp), if_neg hm, if_neg (by simp)]
    rfl

theorem checkoutOutcome_action (s : Snapshot) (target : String) :
    (checkoutOutcome s (some target)).action =
      if (s.findBranch target).isSome then some (.checkout target)
      else if (s.resolve target).isSome then some (.checkoutCommit target)
      else none := by
  rw [checkoutOutcome]
  split
  · rfl
  · split <;> rfl

theorem checkoutNewOutcome_action (s : Snapshot) (name : String) :
    (checkoutNewOutcome s name).action =
      if (s.findBranch name).isSome then none else some (.createAndCheckoutBranch name) := by
  rw [checkoutNewOutcome]
  split <;> rfl

theorem branchOutcome_action (s : Snapshot) (name : String) :
    (branchOutcome s (some name)).action =
      if (s.findBranch name).isSome then none else some (.createBranch name none) := by
  rw [branchOutcome]
  split <;> rfl

/-- The answer and the transition look at the same things, one after the other and all at once. -/
theorem mergeOutcome_action (s : Snapshot) (name : String) :
    (mergeOutcome s (some name)).action =
      if (s.mergeSource name).isSome then some (.merge name) else none := by
  rw [mergeOutcome]
  by_cases hcurrent : name = s.currentBranch
  · have hnone : s.mergeSource name = none := by
      rw [Option.eq_none_iff_forall_ne_some]
      intro b hb
      obtain ⟨hfound, hne, -⟩ := Snapshot.mergeSource_eq_some_iff.mp hb
      exact hne ((Snapshot.findBranch_name hfound).trans hcurrent)
    rw [if_pos hcurrent, hnone]
    rfl
  · rw [if_neg hcurrent, Snapshot.mergeSource]
    cases hb : s.findBranch name with
    | none => simp
    | some b =>
      have hn : b.name ≠ s.currentBranch := by
        rw [Snapshot.findBranch_name hb]
        exact hcurrent
      by_cases hc : b.commit = ""
      · simp [hc]
      · by_cases hh : s.head = ""
        · simp [hc, hh]
        · simp [hc, hh, hn]

theorem addOutcome_offers (hi : s.initialized = true) {name : Option String}
    (h : (addOutcome s name).action = some a) : s.Offers a := by
  cases name with
  | none => simp [addOutcome] at h
  | some name =>
    rw [addOutcome_action] at h
    split at h
    · simp at h
    · next hn =>
      cases h
      exact .stage hi hn

theorem commitOutcome_offers (hi : s.initialized = true) {message : Option String}
    (hr : (commit message).Readable) (h : (commitOutcome s message).action = some a) :
    s.Offers a := by
  cases message with
  | none =>
    rw [commitOutcome] at h
    split at h <;> simp at h
  | some message =>
    obtain ⟨ws, hws, rfl⟩ := hr message rfl
    by_cases hm : cleanMessage ws = ""
    · rw [commitOutcome, if_pos hm] at h
      split at h <;> simp at h
    · rw [commitOutcome_action s hm] at h
      split at h
      · simp at h
      · next hs =>
        cases h
        exact .commit hi hs hws hm

theorem checkoutOutcome_offers (hi : s.initialized = true) {target : Option String}
    (h : (checkoutOutcome s target).action = some a) : s.Offers a := by
  cases target with
  | none => simp [checkoutOutcome] at h
  | some target =>
    rw [checkoutOutcome_action] at h
    split at h
    · next hb =>
      cases h
      exact .checkout hi hb
    · next hb =>
      split at h
      · next hc =>
        cases h
        exact .checkoutCommit hi (by simpa using hb) hc
      · simp at h

theorem checkoutNewOutcome_offers (hi : s.initialized = true) {name : String} (hw : IsWord name)
    (h : (checkoutNewOutcome s name).action = some a) : s.Offers a := by
  rw [checkoutNewOutcome_action] at h
  split at h
  · simp at h
  · next hb =>
    cases h
    exact .createAndCheckoutBranch hi hw (by simpa using hb)

theorem branchOutcome_offers (hi : s.initialized = true) {name : Option String}
    (hr : (branch name).Readable) (h : (branchOutcome s name).action = some a) :
    s.Offers a := by
  cases name with
  | none => simp [branchOutcome] at h
  | some name =>
    rw [branchOutcome_action] at h
    split at h
    · simp at h
    · next hb =>
      cases h
      exact .createBranch hi (hr name rfl) (by simpa using hb)

theorem mergeOutcome_offers (hi : s.initialized = true) {name : Option String}
    (h : (mergeOutcome s name).action = some a) : s.Offers a := by
  cases name with
  | none => simp [mergeOutcome] at h
  | some name =>
    rw [mergeOutcome_action] at h
    split at h
    · next hs =>
      cases h
      exact .merge hi hs
    · simp at h

theorem resetOutcome_offers (hi : s.initialized = true) {wellFormed : Bool}
    (h : (resetOutcome s wellFormed).action = some a) : s.Offers a := by
  rw [resetOutcome] at h
  split at h
  · simp at h
  · split at h
    · simp at h
    · next hc =>
      cases h
      exact .reset hi (by simpa using hc)

theorem outcome_offers {command : GitCommand} (hr : command.Readable)
    (h : (command.outcome s).action = some a) : s.Offers a := by
  rw [outcome] at h
  split at h
  · next hi =>
    cases command with
    | missing | unrecognized | init | status => simp [outcomeInside] at h
    | log =>
      rw [outcomeInside] at h
      split at h <;> simp at h
    | add name => exact addOutcome_offers hi h
    | commit message => exact commitOutcome_offers hi hr h
    | checkout target => exact checkoutOutcome_offers hi h
    | checkoutNew name => exact checkoutNewOutcome_offers hi hr h
    | branch name => exact branchOutcome_offers hi hr h
    | merge name => exact mergeOutcome_offers hi h
    | reset wellFormed => exact resetOutcome_offers hi h
  · next hi =>
    split at h
    · cases h
      exact .create (by simpa using hi)
    · simp at h

theorem isReply_outcomeInside (s : Snapshot) (command : GitCommand) :
    (outcomeInside s command).IsReply := by
  cases command with
  | missing | unrecognized => exact .failure _
  | init | status => exact .success _ _
  | log => exact .ite (.failure _) (.success _ _)
  | add name =>
    cases name with
    | none => exact .failure _
    | some name => exact .ite (.ite (.success _ _) (.success _ _)) (.ite (.success _ _) (.failure _))
  | commit message =>
    cases message with
    | none => exact .ite (.failure _) (.failure _)
    | some message => exact .ite (.failure _) (.ite (.failure _) (.success _ _))
  | checkout target =>
    cases target with
    | none => exact .failure _
    | some target => exact .ite (.success _ _) (.ite (.success _ _) (.failure _))
  | checkoutNew name => exact .ite (.failure _) (.success _ _)
  | branch name =>
    cases name with
    | none => exact .success _ _
    | some name => exact .ite (.failure _) (.success _ _)
  | merge name =>
    cases name with
    | none => exact .failure _
    | some name =>
      exact .ite (.success _ _) (.ite (.failure _) (.ite (.failure _) (.success _ _)))
  | reset wellFormed => exact .ite (.failure _) (.ite (.failure _) (.success _ _))

theorem isReply_outcome (s : Snapshot) (command : GitCommand) : (command.outcome s).IsReply :=
  .ite (isReply_outcomeInside s command) (.ite (.success _ _) (.failure _))

end GitCommand

namespace Command

theorem outcome_offers {command : Command} (hr : command.Readable) (hc : command ≠ clear)
    (h : (command.outcome s).action = some a) : s.Offers a := by
  cases command with
  | blank | echo | help | unknown => simp [outcome] at h
  | git command => exact GitCommand.outcome_offers hr h
  | clear => exact absurd rfl hc
  | touch name =>
    cases name with
    | none => simp [outcome] at h
    | some name =>
      cases h
      exact .createFile (hr name rfl)
  | write name =>
    rw [outcome, writeOutcome] at h
    split at h
    · next hw =>
      cases h
      exact .modifyFile hw
    · split at h
      · simp at h
      · cases h
        exact .createFile hr

/-- Only a line without a word and the line that clears everything are answered otherwise. -/
theorem isReply_outcome (s : Snapshot) {command : Command} (hb : command ≠ blank)
    (hc : command ≠ clear) : (command.outcome s).IsReply := by
  cases command with
  | blank => exact absurd rfl hb
  | clear => exact absurd rfl hc
  | git command => exact GitCommand.isReply_outcome s command
  | touch name =>
    cases name with
    | none => exact .failure _
    | some name => exact .success _ _
  | write name => exact .ite (.success _ _) (.ite (.success _ _) (.success _ _))
  | echo | help => exact .success _ _
  | unknown => exact .failure _

end Command

/-- What a line asks for is offered in the state that it is answered in. -/
theorem interpret_offers {line : String} (hc : Command.parse line ≠ .clear)
    (h : (interpret s line).action = some a) : s.Offers a :=
  Command.outcome_offers (Command.readable_parse line) hc h

theorem interpret_of_blank {line : String} (h : Command.parse line = .blank) :
    interpret s line = { recorded := false } := by
  rw [interpret, h]
  rfl

theorem interpret_of_clear {line : String} (h : Command.parse line = .clear) :
    interpret s line = { action := some .resetAll, recorded := false } := by
  rw [interpret, h]
  rfl

theorem interpret_inside {line : String} {command : GitCommand} (hi : s.initialized = true)
    (h : Command.parse line = .git command) : interpret s line = command.outcomeInside s := by
  rw [interpret, h]
  show command.outcome s = _
  rw [GitCommand.outcome, if_pos hi]

/-- Any other line is replied to. -/
theorem isReply_interpret {line : String} (hb : Command.parse line ≠ .blank)
    (hc : Command.parse line ≠ .clear) : (interpret s line).IsReply :=
  Command.isReply_outcome s hb hc

/-- The blanks around a line mean nothing. -/
theorem interpret_strip (s : Snapshot) (line : String) :
    interpret s (Text.strip line) = interpret s line := by
  rw [interpret, Command.parse, Text.words_strip]
  rfl

end

end GitPractice
