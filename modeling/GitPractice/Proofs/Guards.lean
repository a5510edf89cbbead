import GitPractice.Proofs.Offer
import GitPractice.Proofs.Staging

/-!
# Answers and transitions agree

A change is checked twice: by the answer, which has to say why nothing happens,
and by the transition, which leaves a state alone that it does not fit. The two
checks are written differently and look at things in different orders. For the
six requests that name what is to be changed, `Request.answer_agrees` says that
they never differ, in any state of a repository that is set up, be it one that a
run can reach or not: an action that is asked for is carried out in full, and
where none is asked for, the transition would have done nothing.
-/

namespace GitPractice

open Text (IsWord)

/-- `x` is the first of the list for which `p` holds. -/
def IsFirst {α : Type} (p : α → Prop) (xs : List α) (x : α) : Prop :=
  p x ∧ ∃ before after, xs = before ++ x :: after ∧ ∀ y ∈ before, ¬ p y

/-- A line that asks for one change: a verb and what it is to be done to. -/
inductive Request where
  | add (name : String)
  | commit (message : String)
  | checkout (target : String)
  | checkoutNew (name : String)
  | branch (name : String)
  | merge (name : String)

namespace Request

def verb : Request → String
  | add _ => "git add"
  | commit _ => "git commit -m"
  | checkout _ => "git checkout"
  | checkoutNew _ => "git checkout -b"
  | branch _ => "git branch"
  | merge _ => "git merge"

def argument : Request → String
  | add name | checkoutNew name | branch name | merge name => name
  | commit message => message
  | checkout target => target

def line (r : Request) : String := r.verb ++ " " ++ r.argument

/-- The argument is one word. A message is any text with something in it besides blanks, and
without quotes. -/
def Complete : Request → Prop
  | commit message => (∃ c ∈ message.toList, Text.isBlank c = false) ∧
      ∀ c ∈ message.toList, c ≠ '"' ∧ c ≠ '\''
  | checkout target => IsWord target ∧ target ≠ "-b"
  | add name | checkoutNew name | branch name | merge name => IsWord name

/-- The message as it is kept: its words, single spaces between them. -/
def keptMessage (message : String) : String := Text.join " " (Text.words message)

/-- What the request would have the store do. A target to check out may be a branch or the
beginning of an id. -/
def actions : Request → List Action
  | add name => [.stage [name]]
  | commit message => [.commit (keptMessage message)]
  | checkout target => [.checkout target, .checkoutCommit target]
  | checkoutNew name => [.createAndCheckoutBranch name]
  | branch name => [.createBranch name none]
  | merge name => [.merge name]

/-- The request, made in the state `s` and answered by `answer`, has been carried out in `s'`. -/
def TakesEffect (s : Snapshot) (answer : Outcome) (s' : Snapshot) : Request → Prop
  | add name =>
    s' = { s with staged := s'.staged, working := s'.working } ∧
      (∃ f ∈ s.working, name = stageAll ∨ f.name = name) ∧
      ∀ f ∈ s.working, name = stageAll ∨ f.name = name →
        (s'.staged.map (·.name)).count f.name = 1 ∧ f.name ∉ s'.working.map (·.name)
  | commit message =>
    ∃ c, s'.commits = s.commits ++ [c] ∧ s'.head = c.id ∧ s'.staged = [] ∧
      c.message = keptMessage message ∧
      answer.output = "[" ++ s.currentBranch ++ " " ++ shortId s.head ++ "] " ++ c.message ++
        "\n " ++ toString s.staged.length ++ " file(s) changed"
  | checkout target =>
    (∃ b, IsFirst (·.name = target) s.branches b ∧
      s' = { s with currentBranch := target, head := b.commit, detached := false }) ∨
    ((∀ b ∈ s.branches, b.name ≠ target) ∧
      ∃ c, IsFirst (fun c => target.toList <+: c.id.toList) s.commits c ∧
        s' = { s with currentBranch := "", head := c.id, detached := true })
  | checkoutNew name =>
    (∀ b ∈ s.branches, b.name ≠ name) ∧ ∃ b : Branch, b.name = name ∧ b.commit = s.head ∧
      s' = { s with
        branches := s.branches ++ [b], currentBranch := name, head := b.commit, detached := false }
  | branch name =>
    (∀ b ∈ s.branches, b.name ≠ name) ∧ ∃ b : Branch, b.name = name ∧ b.commit = s.head ∧
      s' = { s with branches := s.branches ++ [b] }
  | merge name =>
    ∃ b c, IsFirst (·.name = name) s.branches b ∧ b.commit ≠ "" ∧ s.head ≠ "" ∧
      s'.commits = s.commits ++ [c] ∧ s'.head = c.id ∧ c.isMerge = true ∧
      c.parent = some s.head ∧ c.parents = some [s.head, b.commit]

/-! ## Reading the line -/

/-- The command that the line is read as. -/
def command : Request → GitCommand
  | add name => .add (some name)
  | commit message => .commit (some (keptMessage message))
  | checkout target => .checkout (some target)
  | checkoutNew name => .checkoutNew name
  | branch name => .branch (some name)
  | merge name => .merge (some name)

/-- Without quotes in it, a message is only stripped and its blanks are evened out. -/
theorem cleanMessage_words {message : String}
    (h : ∀ c ∈ message.toList, c ≠ '"' ∧ c ≠ '\'') :
    cleanMessage (Text.words message) = keptMessage message := by
  have hquote : ∀ c ∈ (keptMessage message).toList, (c ≠ '"' && c ≠ '\'') = true := by
    intro c hc
    rcases Text.mem_join hc with hspace | ⟨w, hw, hcw⟩
    · rw [List.mem_singleton.mp hspace]
      decide
    · simpa using h c (Text.mem_of_mem_words hw hcw)
  rw [cleanMessage]
  show Text.strip (String.ofList ((keptMessage message).toList.filter _)) = _
  rw [List.filter_eq_self.mpr hquote, String.ofList_toList]
  exact Text.strip_join fun w hw => Text.isWord_of_mem_words hw

theorem parse_line {r : Request} (h : r.Complete) : Command.parse r.line = .git r.command := by
  rw [Command.parse, line, Text.words_append_space]
  cases r with
  | add name =>
    rw [argument, Text.words_of_isWord h, verb,
      show Text.words "git add" = ["git", "add"] by decide +kernel]
    rfl
  | commit message =>
    obtain ⟨⟨c, hc, hblank⟩, hquotes⟩ := h
    rw [argument, verb,
      show Text.words "git commit -m" = ["git", "commit", "-m"] by decide +kernel, command,
      ← cleanMessage_words hquotes]
    cases hw : Text.words message with
    | nil => exact absurd hw (Text.words_ne_nil_of_mem hc hblank)
    | cons w ws => rfl
  | checkout target =>
    rw [argument, Text.words_of_isWord h.1, verb,
      show Text.words "git checkout" = ["git", "checkout"] by decide +kernel]
    show Command.git (GitCommand.ofCheckout [target]) = _
    rw [GitCommand.ofCheckout, if_neg h.2]
    rfl
  | checkoutNew name =>
    rw [argument, Text.words_of_isWord h, verb,
      show Text.words "git checkout -b" = ["git", "checkout", "-b"] by decide +kernel]
    rfl
  | branch name =>
    rw [argument, Text.words_of_isWord h, verb,
      show Text.words "git branch" = ["git", "branch"] by decide +kernel]
    rfl
  | merge name =>
    rw [argument, Text.words_of_isWord h, verb,
      show Text.words "git merge" = ["git", "merge"] by decide +kernel]
    rfl

theorem interpret_line {s : Snapshot} (hi : s.initialized = true) {r : Request} (h : r.Complete) :
    interpret s r.line = r.command.outcomeInside s :=
  interpret_inside hi (parse_line h)

/-! ## An action that is asked for takes effect -/

theorem isFirst_of_find? {α : Type} {p : α → Bool} {xs : List α} {x : α}
    (h : xs.find? p = some x) : IsFirst (fun y => p y = true) xs x := by
  obtain ⟨hx, before, after, hsplit, hbefore⟩ := List.find?_eq_some_iff_append.mp h
  exact ⟨hx, before, after, hsplit, fun y hy => by simpa using hbefore y hy⟩

theorem isFirst_of_findBranch {s : Snapshot} {name : String} {b : Branch}
    (h : s.findBranch name = some b) : IsFirst (·.name = name) s.branches b := by
  simpa using isFirst_of_find? h

theorem isFirst_of_resolve {s : Snapshot} {start : String} {c : Commit}
    (h : s.resolve start = some c) :
    IsFirst (fun c => start.toList <+: c.id.toList) s.commits c := by
  rw [Snapshot.resolve] at h
  split at h
  · simp at h
  · simpa [Text.startsWith] using isFirst_of_find? h

variable {s : Snapshot} {answer : Outcome}

theorem add_takesEffect {name : String} (hn : s.namesToStage [name] ≠ []) :
    (add name).TakesEffect s answer (s.stage [name]) := by
  have hmeant {f : FileEntry} (hf : f ∈ s.working) (h : name = stageAll ∨ f.name = name) :
      f.name ∈ s.namesToStage [name] := by
    rw [Snapshot.mem_namesToStage_iff, List.mem_singleton, List.mem_singleton]
    exact ⟨List.mem_map_of_mem hf, h.imp Eq.symm id⟩
  refine ⟨rfl, ?_, ?_⟩
  · obtain ⟨n, hmem⟩ := List.exists_mem_of_ne_nil _ hn
    rw [Snapshot.mem_namesToStage_iff, List.mem_singleton, List.mem_singleton] at hmem
    obtain ⟨hworking, hname⟩ := hmem
    obtain ⟨f, hf, rfl⟩ := List.mem_map.mp hworking
    exact ⟨f, hf, hname.imp Eq.symm id⟩
  · intro f hf h
    refine ⟨Snapshot.count_staged_stage (hmeant hf h), ?_⟩
    intro hleft
    obtain ⟨g, hg, hname⟩ := List.mem_map.mp hleft
    have hgone := (List.mem_filter.mp hg).2
    rw [hname] at hgone
    simp [hmeant hf h] at hgone

theorem commit_takesEffect {message : String} (hs : s.staged ≠ [])
    (hm : keptMessage message ≠ "") (id : String) (now : Timestamp) :
    (commit message).TakesEffect s (GitCommand.commitOutcome s (some (keptMessage message)))
      (s.commit id now (keptMessage message)) := by
  rw [Snapshot.commit_of_staged hs]
  refine ⟨s.commitAtHead id now (keptMessage message), rfl, rfl, rfl, rfl, ?_⟩
  rw [GitCommand.commitOutcome, if_neg (by simpa using hs), if_neg hm]
  rfl

theorem checkout_takesEffect {target : String} {b : Branch} (hb : s.findBranch target = some b) :
    (checkout target).TakesEffect s answer (s.checkout target) := by
  rw [Snapshot.checkout_of_found hb]
  exact Or.inl ⟨b, isFirst_of_findBranch hb, rfl⟩

theorem checkoutCommit_takesEffect {target : String} {c : Commit}
    (hb : s.findBranch target = none) (hc : s.resolve target = some c) :
    (checkout target).TakesEffect s answer (s.checkoutCommit target) := by
  rw [Snapshot.checkoutCommit_of_found hc]
  exact Or.inr ⟨Snapshot.findBranch_eq_none_iff.mp hb, c, isFirst_of_resolve hc, rfl⟩

theorem checkoutNew_takesEffect {name : String} (hb : s.findBranch name = none) :
    (checkoutNew name).TakesEffect s answer (s.createAndCheckoutBranch name) := by
  rw [Snapshot.createAndCheckoutBranch_of_new hb]
  exact ⟨Snapshot.findBranch_eq_none_iff.mp hb, s.branchAtHead name, rfl, rfl, rfl⟩

theorem branch_takesEffect {name : String} (hb : s.findBranch name = none) :
    (branch name).TakesEffect s answer (s.createBranch name none) := by
  rw [Snapshot.createBranch_of_new hb]
  exact ⟨Snapshot.findBranch_eq_none_iff.mp hb, s.branchAtHead name, rfl, rfl, rfl⟩

theorem merge_takesEffect {name : String} {b : Branch} (hb : s.mergeSource name = some b)
    (id : String) (now : Timestamp) :
    (merge name).TakesEffect s answer (s.merge id now name) := by
  obtain ⟨hfound, -, hc, hh⟩ := Snapshot.mergeSource_eq_some_iff.mp hb
  rw [Snapshot.merge_of_found hb]
  exact ⟨b, s.mergeAtHead id now b, isFirst_of_findBranch hfound, hc, hh, rfl, rfl, rfl, rfl, rfl⟩

theorem keptMessage_ne_empty {message : String} (h : (commit message).Complete) :
    keptMessage message ≠ "" := by
  obtain ⟨⟨c, hc, hblank⟩, -⟩ := h
  rw [keptMessage]
  cases hw : Text.words message with
  | nil => exact absurd hw (Text.words_ne_nil_of_mem hc hblank)
  | cons w ws =>
    have hword : IsWord w := Text.isWord_of_mem_words (hw ▸ List.mem_cons_self)
    exact Text.join_ne_empty hword ws

theorem takesEffect {r : Request} (h : r.Complete) {a : Action}
    (ha : (r.command.outcomeInside s).action = some a) (id : String) (now : Timestamp) :
    a ∈ r.actions ∧ r.TakesEffect s (r.command.outcomeInside s) (s.apply id now a) := by
  cases r with
  | add name =>
    rw [command, GitCommand.outcomeInside, GitCommand.addOutcome_action] at ha
    split at ha
    · simp at ha
    · next hn =>
      cases ha
      exact ⟨List.mem_cons_self, add_takesEffect hn⟩
  | commit message =>
    have hm := keptMessage_ne_empty h
    rw [command, GitCommand.outcomeInside, GitCommand.commitOutcome_action s hm] at ha
    split at ha
    · simp at ha
    · next hs =>
      cases ha
      exact ⟨List.mem_cons_self, commit_takesEffect hs hm id now⟩
  | checkout target =>
    rw [command, GitCommand.outcomeInside, GitCommand.checkoutOutcome_action] at ha
    split at ha
    · next hb =>
      cases ha
      obtain ⟨b, hb⟩ := Option.isSome_iff_exists.mp hb
      exact ⟨List.mem_cons_self, checkout_takesEffect hb⟩
    · next hb =>
      split at ha
      · next hc =>
        cases ha
        obtain ⟨c, hc⟩ := Option.isSome_iff_exists.mp hc
        refine ⟨by simp [actions], checkoutCommit_takesEffect (by simpa using hb) hc⟩
      · simp at ha
  | checkoutNew name =>
    rw [command, GitCommand.outcomeInside, GitCommand.checkoutNewOutcome_action] at ha
    split at ha
    · simp at ha
    · next hb =>
      cases ha
      exact ⟨List.mem_cons_self, checkoutNew_takesEffect (by simpa using hb)⟩
  | branch name =>
    rw [command, GitCommand.outcomeInside, GitCommand.branchOutcome_action] at ha
    split at ha
    · simp at ha
    · next hb =>
      cases ha
      exact ⟨List.mem_cons_self, branch_takesEffect (by simpa using hb)⟩
  | merge name =>
    rw [command, GitCommand.outcomeInside, GitCommand.mergeOutcome_action] at ha
    split at ha
    · next hs =>
      cases ha
      obtain ⟨b, hb⟩ := Option.isSome_iff_exists.mp hs
      exact ⟨List.mem_cons_self, merge_takesEffect hb id now⟩
    · simp at ha

/-! ## Where no action is asked for, none would do anything -/

theorem unchanged {r : Request} (h : r.Complete)
    (ha : (r.command.outcomeInside s).action = none) (id : String) (now : Timestamp) :
    ∀ a ∈ r.actions, s.apply id now a = s := by
  intro a hmem
  cases r with
  | add name =>
    rw [command, GitCommand.outcomeInside, GitCommand.addOutcome_action] at ha
    rw [List.mem_singleton.mp hmem]
    split at ha
    · next hn => exact Snapshot.stage_of_nothing hn
    · simp at ha
  | commit message =>
    rw [command, GitCommand.outcomeInside,
      GitCommand.commitOutcome_action s (keptMessage_ne_empty h)] at ha
    rw [List.mem_singleton.mp hmem]
    split at ha
    · next hs => exact Snapshot.commit_of_nothing_staged hs id now _
    · simp at ha
  | checkout target =>
    rw [command, GitCommand.outcomeInside, GitCommand.checkoutOutcome_action] at ha
    split at ha
    · simp at ha
    · next hb =>
      split at ha
      · simp at ha
      · next hc =>
        rcases List.mem_pair.mp hmem with rfl | rfl
        · exact Snapshot.checkout_of_none (by simpa using hb)
        · exact Snapshot.checkoutCommit_of_none (by simpa using hc)
  | checkoutNew name =>
    rw [command, GitCommand.outcomeInside, GitCommand.checkoutNewOutcome_action] at ha
    rw [List.mem_singleton.mp hmem]
    split at ha
    · next hb => exact Snapshot.createAndCheckoutBranch_of_known hb
    · simp at ha
  | branch name =>
    rw [command, GitCommand.outcomeInside, GitCommand.branchOutcome_action] at ha
    rw [List.mem_singleton.mp hmem]
    split at ha
    · next hb => exact Snapshot.createBranch_of_known hb none
    · simp at ha
  | merge name =>
    rw [command, GitCommand.outcomeInside, GitCommand.mergeOutcome_action] at ha
    rw [List.mem_singleton.mp hmem]
    split at ha
    · simp at ha
    · next hs => exact Snapshot.merge_of_none (by simpa using hs) id now

/-- In a repository that is set up, whatever else is wrong with it: when the answer to a complete
request carries an action, it is one that the request names and it takes effect in full. When the
answer carries none, nothing that the request names would change the repository. -/
theorem answer_agrees (hi : s.initialized = true) {r : Request} (h : r.Complete) (id : String)
    (now : Timestamp) :
    (∀ a, (interpret s r.line).action = some a →
      a ∈ r.actions ∧ r.TakesEffect s (interpret s r.line) (s.apply id now a)) ∧
    ((interpret s r.line).action = none → ∀ a ∈ r.actions, s.apply id now a = s) := by
  rw [interpret_line hi h]
  exact ⟨fun a ha => takesEffect h ha id now, fun ha => unchanged h ha id now⟩

/-- Names that stand in the working directory twice, and in the staging area besides. -/
theorem answer_agrees_repeated_names :
    let s : Snapshot :=
      { initialized := true, staged := [{ name := "b" }]
        working := [{ name := "a" }, { name := "b" }, { name := "a" }] }
    let answer := interpret s (add ".").line
    s.initialized = true ∧ (add ".").Complete ∧ answer.action = some (.stage ["."]) ∧
      (add ".").TakesEffect s answer (s.apply "" .sample (.stage ["."])) := by
  intro s answer
  have hcomplete : (add ".").Complete := by
    show IsWord "."
    decide +kernel
  have hasked : answer.action = some (.stage ["."]) := by decide +kernel
  exact ⟨rfl, hcomplete, hasked, ((answer_agrees rfl hcomplete "" .sample).1 _ hasked).2⟩

end Request
end GitPractice
