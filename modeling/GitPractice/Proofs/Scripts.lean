import GitPractice.Proofs.Log
import GitPractice.Script

/-!
# Scripts

A script may hold blank lines and comments, which are passed over when it is run.
Typed one after the other its lines do the same: a blank line does nothing, and a
comment is an unknown command, so that it is answered by a failure and leaves
nothing but an entry in the log. `Session.runAll_select` says that both ways end
in the same repository, with a log that lacks the comments in the first case.

On the way the two sessions differ in their logs, which no answer and no action
looks at.
-/

namespace GitPractice

namespace Text

/-- The first word begins with the first character that is no blank. -/
theorem splitWords_cons_of_not_blank {c : Char} (hc : isBlank c = false) (cs : List Char) :
    ∃ w ws, splitWords (c :: cs) = (c :: w) :: ws := by
  rw [splitWords, hc]
  simp only [Bool.false_eq_true, if_false]
  split
  · cases splitWords cs with
    | nil => exact ⟨[], [], rfl⟩
    | cons v vs => exact ⟨v, vs, rfl⟩
  · exact ⟨[], splitWords cs, rfl⟩

theorem head?_words_of_startsWith {line : String} {c : Char} (hc : isBlank c = false)
    (h : startsWith (strip line) (String.singleton c) = true) :
    ∃ w ws, words line = w :: ws ∧ w.toList.head? = some c := by
  rw [startsWith, String.toList_singleton, List.isPrefixOf_iff_prefix] at h
  obtain ⟨rest, hrest⟩ := h
  obtain ⟨w, ws, hsplit⟩ := splitWords_cons_of_not_blank hc rest
  refine ⟨String.ofList (c :: w), ws.map String.ofList, ?_, by rw [String.toList_ofList]; rfl⟩
  rw [← words_strip, words, ← hrest, List.singleton_append, hsplit]
  rfl

end Text

namespace Command

theorem ofWords_of_unknown {word : String} (rest : List String)
    (h : word ∉ ["git", "touch", "echo", "clear", "help"]) :
    ofWords (word :: rest) = unknown word := by
  unfold ofWords
  split <;> simp_all

/-- A comment is read as a command that is not known. -/
theorem parse_of_comment {line : String} (h : Text.startsWith (Text.strip line) "#" = true) :
    ∃ word, parse line = unknown word := by
  obtain ⟨word, rest, hwords, hhead⟩ := Text.head?_words_of_startsWith (c := '#') (by decide) h
  have hunknown : word ∉ ["git", "touch", "echo", "clear", "help"] := by
    intro hmem
    have hverbs : ∀ verb ∈ ["git", "touch", "echo", "clear", "help"],
        verb.toList.head? ≠ some '#' := by decide
    exact hverbs word hmem hhead
  exact ⟨word, by rw [parse, hwords, ofWords_of_unknown rest hunknown]⟩

end Command

/-! ## The log plays no part -/

namespace Snapshot

/-- The repository with another log. -/
def withLog (s : Snapshot) (log : List HistoryEntry) : Snapshot := { s with history := log }

/-- The repository with a log in which no comment stands. -/
def withoutComments (s : Snapshot) : Snapshot :=
  s.withLog (s.history.filter fun e => !Text.startsWith e.command "#")

variable {s : Snapshot} {a : Action} {id command : String} {now : Timestamp}

theorem walkParents_withLog (s : Snapshot) (log : List HistoryEntry) (steps : Nat) (id : String)
    (met : List String) : (s.withLog log).walkParents steps id met = s.walkParents steps id met := by
  induction steps generalizing id met with
  | zero => rfl
  | succ steps ih =>
    simp only [walkParents, ih]
    rfl

theorem outcomeInside_withLog (s : Snapshot) (log : List HistoryEntry) (command : GitCommand) :
    command.outcomeInside (s.withLog log) = command.outcomeInside s := by
  cases command with
  | add name | commit name | checkout name | branch name | merge name => cases name <;> rfl
  | log =>
    -- The walk from HEAD is the one part that recurses.
    rw [GitCommand.outcomeInside, GitCommand.loggedCommits, reachableFrom, walkParents_withLog]
    rfl
  | _ => rfl

theorem interpret_withLog (s : Snapshot) (log : List HistoryEntry) (line : String) :
    interpret (s.withLog log) line = interpret s line := by
  rw [interpret, interpret]
  cases Command.parse line with
  | git command =>
    show (if s.initialized then command.outcomeInside (s.withLog log) else _) =
      if s.initialized then _ else _
    rw [outcomeInside_withLog]
  | touch name => cases name <;> rfl
  | _ => rfl

theorem createsCommit_withLog (s : Snapshot) (log : List HistoryEntry) (a : Action) :
    (s.withLog log).createsCommit a = s.createsCommit a := by
  cases a <;> rfl

/-- An action that is offered does the same with another log. -/
theorem Offers.apply_withLog (ho : s.Offers a) (log : List HistoryEntry) (id : String)
    (now : Timestamp) : (s.withLog log).apply id now a = (s.apply id now a).withLog log := by
  -- What is looked up does not depend on the log, so both sides take the same way.
  cases ho with
  | create | modifyFile | stage => rfl
  | @createFile name =>
    rw [apply, apply, Snapshot.createFile, Snapshot.createFile, apply_ite (withLog · log)]
    rfl
  | commit _ hs =>
    have hs' : (s.withLog log).staged ≠ [] := hs
    rw [apply, apply, commit_of_staged hs', commit_of_staged hs]
    rfl
  | @checkout name _ hb =>
    obtain ⟨b, hb⟩ := Option.isSome_iff_exists.mp hb
    have hb' : (s.withLog log).findBranch name = some b := hb
    rw [apply, apply, checkout_of_found hb', checkout_of_found hb]
    rfl
  | @checkoutCommit start _ _ hc =>
    obtain ⟨c, hc⟩ := Option.isSome_iff_exists.mp hc
    have hc' : (s.withLog log).resolve start = some c := hc
    rw [apply, apply, checkoutCommit_of_found hc', checkoutCommit_of_found hc]
    rfl
  | @createBranch name _ _ hn =>
    have hn' : (s.withLog log).findBranch name = none := hn
    rw [apply, apply, createBranch_of_new hn', createBranch_of_new hn]
    rfl
  | @createAndCheckoutBranch name _ _ hn =>
    have hn' : (s.withLog log).findBranch name = none := hn
    rw [apply, apply, createAndCheckoutBranch_of_new hn', createAndCheckoutBranch_of_new hn]
    rfl
  | @merge name _ hs =>
    obtain ⟨source, hs⟩ := Option.isSome_iff_exists.mp hs
    have hs' : (s.withLog log).mergeSource name = some source := hs
    rw [apply, apply, merge_of_found hs', merge_of_found hs]
    rfl
  | reset =>
    rw [apply, apply]
    cases hp : s.resetParent with
    | none =>
      have hp' : (s.withLog log).resetParent = none := hp
      rw [reset_of_no_parent hp', reset_of_no_parent hp]
    | some parent =>
      have hp' : (s.withLog log).resetParent = some parent := hp
      rw [reset_hard_of_parent hp', reset_hard_of_parent hp]
      rfl

theorem Offers.apply_withoutComments (ho : s.Offers a) (id : String) (now : Timestamp) :
    s.withoutComments.apply id now a = (s.apply id now a).withoutComments := by
  rw [withoutComments, ho.apply_withLog, withoutComments, (ho.commitIds_history id now).2]

theorem withoutComments_record_of_comment (h : Text.startsWith command "#" = true)
    (output : String) (isError : Bool) :
    (s.record now command output isError).withoutComments = s.withoutComments := by
  rw [withoutComments, record, withoutComments, List.filter_append,
    List.filter_cons_of_neg (by simp [h]), List.filter_nil, List.append_nil]
  rfl

theorem withoutComments_record (h : Text.startsWith command "#" = false) (output : String)
    (isError : Bool) :
    (s.record now command output isError).withoutComments =
      s.withoutComments.record now command output isError := by
  rw [withoutComments, record, List.filter_append, List.filter_cons_of_pos (by simp [h]),
    List.filter_nil]
  rfl

end Snapshot

/-! ## The lines that are run -/

namespace Script

variable {line : String} {lines : List String}

theorem isRun_iff : isRun line = true ↔ line ≠ "" ∧ Text.startsWith line "#" = false := by
  simp [isRun]

theorem select_cons_of_isRun (h : isRun (Text.strip line) = true) :
    select (line :: lines) = Text.strip line :: select lines :=
  List.filter_cons_of_pos h

theorem select_cons_of_not_isRun (h : isRun (Text.strip line) = false) :
    select (line :: lines) = select lines :=
  List.filter_cons_of_neg (by simp [h])

/-- The lines that are run are all run again, as they are. -/
theorem select_select (lines : List String) : select (select lines) = select lines := by
  induction lines with
  | nil => rfl
  | cons line lines ih =>
    cases h : isRun (Text.strip line) with
    | false => rw [select_cons_of_not_isRun h, ih]
    | true =>
      have hagain : isRun (Text.strip (Text.strip line)) = true := by rwa [Text.strip_strip]
      rw [select_cons_of_isRun h, select_cons_of_isRun hagain, Text.strip_strip, ih]

end Script

/-! ## Two sessions -/

namespace Session

/-- The second session stands where the first one does, with a log that lacks the comments. -/
structure SkipsComments (t u : Session) : Prop where
  snapshot : u.snapshot = t.snapshot.withoutComments
  idsTaken : u.idsTaken = t.idsTaken

variable {source : Source} {t u : Session} {line : String} {now : Timestamp}

theorem SkipsComments.interpret (h : SkipsComments t u) (line : String) :
    u.interpret line = t.interpret line := by
  rw [Session.interpret, h.snapshot]
  exact Snapshot.interpret_withLog _ _ line

theorem SkipsComments.dispatch (h : SkipsComments t u) (hclock : ∀ n, source.clock n = now)
    {a : Action} (ho : t.snapshot.Offers a) (ho' : u.snapshot.Offers a) :
    SkipsComments (t.dispatch source a) (u.dispatch source a) := by
  have hcreates : u.snapshot.createsCommit a = t.snapshot.createsCommit a := by
    rw [h.snapshot]
    exact Snapshot.createsCommit_withLog _ _ a
  have hids : u.snapshot.commitIds = t.snapshot.commitIds := by
    rw [h.snapshot]
    rfl
  have happly (id : String) :
      u.snapshot.apply id now a = (t.snapshot.apply id now a).withoutComments := by
    rw [h.snapshot, ho.apply_withoutComments]
  cases hc : t.snapshot.createsCommit a with
  | false =>
    rw [dispatch_of_not_createsCommit hc ho, dispatch_of_not_createsCommit (hcreates.trans hc) ho',
      hclock, hclock]
    exact ⟨happly "", h.idsTaken⟩
  | true =>
    have hc' := hcreates.trans hc
    cases hid : source.ids.unused? t.snapshot.commitIds t.idsTaken with
    | none =>
      have hid' := hid
      rw [← hids, ← h.idsTaken] at hid'
      rw [dispatch_of_exhausted hc hid, dispatch_of_exhausted hc' hid']
      exact h
    | some found =>
      have hid' := hid
      rw [← hids, ← h.idsTaken] at hid'
      rw [dispatch_of_createsCommit hc hid, dispatch_of_createsCommit hc' hid', hclock, hclock]
      exact ⟨happly found.1, rfl⟩

theorem SkipsComments.act (h : SkipsComments t u) (hclock : ∀ n, source.clock n = now)
    (hc : Command.parse line ≠ .clear) :
    SkipsComments (t.act source (t.interpret line)) (u.act source (t.interpret line)) := by
  rw [Session.act, Session.act]
  cases ha : (t.interpret line).action with
  | none => exact h
  | some a =>
    have ha' : (u.interpret line).action = some a := by rw [h.interpret, ha]
    exact h.dispatch hclock (interpret_offers hc ha) (interpret_offers hc ha')

/-- A line that is no comment is run by both sessions. -/
theorem SkipsComments.run (h : SkipsComments t u) (hclock : ∀ n, source.clock n = now)
    (hrun : Script.isRun (Text.strip line) = true) :
    SkipsComments (t.run source line) (u.run source line) := by
  obtain ⟨hne, hcomment⟩ := Script.isRun_iff.mp hrun
  by_cases hc : Command.parse line = .clear
  · rw [run_of_clear hc, run_of_clear hc]
    exact ⟨rfl, h.idsTaken⟩
  · have hb : Command.parse line ≠ .blank := fun hb => hne ((Command.parse_eq_blank_iff line).mp hb)
    have hreply : (t.interpret line).IsReply := isReply_interpret hb hc
    have hreply' : (u.interpret line).IsReply := isReply_interpret hb hc
    have hact := h.act hclock hc
    rw [run_of_isReply hreply, run_of_isReply hreply', h.interpret, dispatch_record, dispatch_record,
      hclock, hclock]
    refine ⟨?_, hact.idsTaken⟩
    rw [Snapshot.withoutComments_record hcomment, ← hact.snapshot]

/-- Any other line is no concern of the second session. -/
theorem SkipsComments.skip (h : SkipsComments t u)
    (hrun : Script.isRun (Text.strip line) = false) : SkipsComments (t.run source line) u := by
  by_cases hb : Command.parse line = .blank
  · rw [run_of_blank hb]
    exact h
  · have hne : Text.strip line ≠ "" := fun he => hb ((Command.parse_eq_blank_iff line).mpr he)
    have hcomment : Text.startsWith (Text.strip line) "#" = true := by
      simpa [Script.isRun, hne] using hrun
    obtain ⟨word, hparse⟩ := Command.parse_of_comment hcomment
    have hreply : (t.interpret line).IsReply := by
      rw [Session.interpret, GitPractice.interpret, hparse]
      exact .failure _
    have hact : t.act source (t.interpret line) = t := by
      rw [Session.act, Session.interpret, GitPractice.interpret, hparse]
      rfl
    rw [run_of_isReply hreply, hact, dispatch_record]
    refine ⟨?_, h.idsTaken⟩
    rw [Snapshot.withoutComments_record_of_comment hcomment]
    exact h.snapshot

theorem SkipsComments.runAll (h : SkipsComments t u) (hclock : ∀ n, source.clock n = now)
    (lines : List String) :
    SkipsComments (t.runAll source lines) (u.runAll source (Script.select lines)) := by
  induction lines generalizing t u with
  | nil => exact h
  | cons line lines ih =>
    cases hrun : Script.isRun (Text.strip line) with
    | true =>
      rw [Script.select_cons_of_isRun hrun, runAll_cons, runAll_cons, run_strip]
      exact ih (h.run hclock hrun)
    | false =>
      rw [Script.select_cons_of_not_isRun hrun, runAll_cons]
      exact ih (h.skip hrun)

/-- With a clock that stands still, the lines of a script that are run lead to the same repository as
all its lines typed one after the other, and to the same log but for the comments. Selecting lines
from those that are run takes all of them. -/
theorem runAll_select (hclock : ∀ n, source.clock n = now) (lines : List String) :
    (Session.runAll source {} (Script.select lines)).snapshot =
        { (Session.runAll source {} lines).snapshot with
          history := (Session.runAll source {} lines).snapshot.history.filter fun e =>
            !Text.startsWith e.command "#" } ∧
      Script.select (Script.select lines) = Script.select lines := by
  have hstart : SkipsComments {} {} := ⟨rfl, rfl⟩
  exact ⟨(hstart.runAll hclock lines).snapshot, Script.select_select lines⟩

/-- Comments of several kinds, lines of blanks, and everything cleared on the way. -/
theorem runAll_select_of_commented :
    let lines := ["# before", "git init", " \u2003 ", "#git add .", "clear", "  # again \n", "",
      " git init\n", "git add .", "git commit -m one", "#", "git log"]
    (∀ n, Source.sample.clock n = .sample) ∧
      Script.select lines = ["git init", "clear", "git init", "git add .", "git commit -m one",
        "git log"] ∧
      (Session.runAll .sample {} lines).snapshot.history.map (·.command) =
        ["# again", "git init", "git add .", "git commit -m one", "#", "git log"] ∧
      (Session.runAll .sample {} (Script.select lines)).snapshot =
        { (Session.runAll .sample {} lines).snapshot with
          history := (Session.runAll .sample {} lines).snapshot.history.filter fun e =>
            !Text.startsWith e.command "#" } := by
  intro lines
  have hclock : ∀ n, Source.sample.clock n = .sample := fun _ => rfl
  exact ⟨hclock, by decide +kernel, by decide +kernel, (runAll_select hclock lines).1⟩

end Session
end GitPractice
