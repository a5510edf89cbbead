import GitPractice.Proofs.Dispatch
import GitPractice.Proofs.Files
import GitPractice.Proofs.Replay
import GitPractice.Proofs.Resets

/-!
# What a line does to the files

Of all lines only six kinds have to do with files: those that make one, stage, commit, go back by one
commit, set the repository up, or discard everything. `FileRequest.ReadFrom` says which words are a line of
which kind, and `FileRequest.Result` what becomes of the files when the line is effective. After any other line, and
after one that is not effective, both areas are as they were, entry by entry (`Session.files_accounted`).

A line that commits needs a new id. `served` says that one is found: the search for it goes on otherwise, and
there are no files after the line.
-/

namespace GitPractice

/-- What a line may ask of the files. -/
inductive FileRequest where
  | make (name : String)
  | stage (target : String)
  | commit
  | goBack
  | setUp
  | discard

/-- The files of the working directory that `git add` means by its argument. -/
def Snapshot.meant (s : Snapshot) (target : String) : List FileEntry :=
  s.working.filter fun f => target = stageAll ∨ f.name = target

namespace FileRequest

/-- The words of a line that asks for it. Most commands pass over the words after the argument that they take. -/
inductive ReadFrom : FileRequest → List String → Prop
  | touch (name : String) (rest : List String) : ReadFrom (make name) ("touch" :: name :: rest)
  | echo {text : List String} {mark : String} (htext : text ≠ []) (hmark : mark ∈ [">", ">>"]) (name : String) :
      ReadFrom (make name) ("echo" :: (text ++ [mark, name]))
  | add (target : String) (rest : List String) : ReadFrom (stage target) ("git" :: "add" :: target :: rest)
  | commit (rest : List String) : ReadFrom commit ("git" :: "commit" :: rest)
  | reset : ReadFrom goBack ["git", "reset", "--hard", "HEAD~1"]
  | init (rest : List String) : ReadFrom setUp ("git" :: "init" :: rest)
  | clear (rest : List String) : ReadFrom discard ("clear" :: rest)

/-- Whether the line is effective. To stage and to commit may fail. -/
def IsEffective (s : Snapshot) (answer : Outcome) : FileRequest → Prop
  | make _ | discard => True
  | stage _ | commit => answer.isError = false
  | goBack => ∃ c ∈ s.commits, c.id = s.head ∧ c.parent ≠ none
  | setUp => s.initialized = false

/-- What becomes of the files. -/
def Result (s s' : Snapshot) : FileRequest → Prop
  | make name =>
    s'.staged = s.staged ∧ s'.working.filter (·.name ≠ name) = s.working.filter (·.name ≠ name) ∧
      s'.fileNames = if name ∈ s.fileNames then s.fileNames else s.fileNames ++ [name]
  | stage target =>
    s'.staged = s.staged ++ (s.meant target).map (fun f =>
        { f with status := if f.status = .untracked then .added else f.status }) ∧
      s'.working = s.working.filter (· ∉ s.meant target) ∧
      (target ≠ stageAll → (s.meant target).map (·.name) = [target]) ∧
      ∀ name, name ∈ s'.fileNames ↔ name ∈ s.fileNames
  | commit =>
    s'.staged = [] ∧ s'.working = s.working ∧
      ∀ name, name ∈ s'.fileNames ↔ name ∈ s.fileNames ∧ name ∉ s.staged.map (·.name)
  | goBack | discard => s'.fileNames = []
  | setUp => s'.fileNames = ["README.md"]

end FileRequest

/-! ## Commands and requests -/

theorem GitCommand.exists_ofCommit (args : List String) : ∃ message, ofCommit args = commit message := by
  unfold ofCommit
  split <;> exact ⟨_, rfl⟩

namespace Command

def fileRequest : Command → Option FileRequest
  | touch name => name.map .make
  | write name => some (.make name)
  | git (.add target) => target.map .stage
  | git (.commit _) => some .commit
  | git (.reset wellFormed) => if wellFormed then some .goBack else none
  | git .init => some .setUp
  | clear => some .discard
  | _ => none

theorem ofEcho_redirected {text : List String} {mark : String} (htext : text ≠ []) (hmark : mark ∈ redirections)
    (name : String) : ofEcho (text ++ [mark, name]) = write name := by
  obtain ⟨word, before, hreverse⟩ := List.exists_cons_of_ne_nil (List.reverse_ne_nil_iff.mpr htext)
  have hargs : (text ++ [mark, name]).reverse = name :: mark :: word :: before := by
    rw [List.reverse_append, hreverse]
    rfl
  simp only [ofEcho, hargs]
  rw [if_pos hmark]

end Command

namespace FileRequest

variable {r : FileRequest}

theorem readFrom_of_ofEcho {args : List String} (h : (Command.ofEcho args).fileRequest = some r) :
    r.ReadFrom ("echo" :: args) := by
  unfold Command.ofEcho at h
  split at h
  next name mark word before hargs =>
    split at h
    next hmark =>
      obtain rfl : make name = r := Option.some.inj h
      have hsplit : args = (word :: before).reverse ++ [mark, name] := by
        rw [← List.reverse_reverse args, hargs]
        simp
      rw [hsplit]
      exact .echo (by simp) hmark name
    next => cases h
  next => cases h

theorem readFrom_of_gitWords {args : List String}
    (h : (Command.git (GitCommand.ofWords args)).fileRequest = some r) : r.ReadFrom ("git" :: args) := by
  unfold GitCommand.ofWords at h
  split at h
  case h_2 rest =>
    obtain rfl : setUp = r := Option.some.inj h
    exact .init rest
  case h_3 rest =>
    cases rest with
    | nil => cases h
    | cons target rest =>
      obtain rfl : stage target = r := Option.some.inj h
      exact .add target rest
  case h_4 rest =>
    obtain ⟨message, hmessage⟩ := GitCommand.exists_ofCommit rest
    rw [hmessage] at h
    obtain rfl : FileRequest.commit = r := Option.some.inj h
    exact .commit rest
  case h_5 rest =>
    unfold GitCommand.ofCheckout at h
    split at h
    · cases h
    · split at h
      · split at h <;> cases h
      · cases h
  case h_10 rest =>
    by_cases hrest : rest = ["--hard", resetTarget]
    · subst hrest
      obtain rfl : goBack = r := Option.some.inj h
      exact .reset
    · simp [Command.fileRequest, hrest] at h
  all_goals cases h

theorem readFrom_of_fileRequest {ws : List String} (h : (Command.ofWords ws).fileRequest = some r) :
    r.ReadFrom ws := by
  -- The cases are numbered by the first words that a command begins with, the empty line first.
  unfold Command.ofWords at h
  split at h
  case h_2 args => exact readFrom_of_gitWords h
  case h_3 args =>
    cases args with
    | nil => cases h
    | cons name rest =>
      obtain rfl : make name = r := Option.some.inj h
      exact .touch name rest
  case h_4 args => exact readFrom_of_ofEcho h
  case h_5 rest =>
    obtain rfl : discard = r := Option.some.inj h
    exact .clear rest
  all_goals cases h

end FileRequest

/-! ## Actions that leave the files alone -/

def Action.leavesFiles : Action → Bool
  | checkout _ | checkoutCommit _ | createBranch _ _ | createAndCheckoutBranch _ | merge _ => true
  | _ => false

section

variable {s s' : Snapshot} {id : String} {now : Timestamp} {a : Action}

def Snapshot.SameFiles (s s' : Snapshot) : Prop := s'.staged = s.staged ∧ s'.working = s.working

theorem Snapshot.Effect.sameFiles (h : s.Effect id now a s') (ha : a.leavesFiles = true) : s.SameFiles s' := by
  cases h with
  | ignored | checkout | checkoutCommit | createBranch | createAndCheckoutBranch | merge => exact ⟨rfl, rfl⟩
  | _ => cases ha

/-- The answers about branches and commits ask for nothing else. -/
theorem GitCommand.leavesFiles_of_outcomeInside {command : GitCommand}
    (hc : (Command.git command).fileRequest = none) (ha : (command.outcomeInside s).action = some a) :
    a.leavesFiles = true := by
  cases command with
  | init | commit => cases hc
  | missing | unrecognized | status => cases ha
  | add target =>
    cases target with
    | none => cases ha
    | some target => cases hc
  | checkout target =>
    cases target with
    | none => cases ha
    | some target =>
      rw [outcomeInside, checkoutOutcome_action] at ha
      split at ha
      · obtain rfl := Option.some.inj ha
        rfl
      · split at ha
        · obtain rfl := Option.some.inj ha
          rfl
        · cases ha
  | checkoutNew name =>
    rw [outcomeInside, checkoutNewOutcome_action] at ha
    split at ha
    · cases ha
    · obtain rfl := Option.some.inj ha
      rfl
  | branch name =>
    cases name with
    | none => cases ha
    | some name =>
      rw [outcomeInside, branchOutcome_action] at ha
      split at ha
      · cases ha
      · obtain rfl := Option.some.inj ha
        rfl
  | merge name =>
    cases name with
    | none => cases ha
    | some name =>
      rw [outcomeInside, mergeOutcome_action] at ha
      split at ha
      · obtain rfl := Option.some.inj ha
        rfl
      · cases ha
  | log =>
    rw [outcomeInside] at ha
    split at ha <;> cases ha
  | reset wellFormed =>
    cases wellFormed with
    | false => cases ha
    | true => cases hc

theorem GitCommand.commitOutcome_of_success {message : Option String}
    (h : (commitOutcome s message).isError = false) :
    s.staged ≠ [] ∧ ∃ text, (commitOutcome s message).action = some (.commit text) := by
  cases message with
  | none =>
    rw [commitOutcome] at h
    split at h <;> cases h
  | some text =>
    rw [commitOutcome] at h
    split at h
    next => cases h
    next hs =>
      split at h
      next => cases h
      next htext =>
        have hs : s.staged ≠ [] := by simpa using hs
        exact ⟨hs, text, by rw [commitOutcome_action s htext, if_neg hs]⟩

theorem Command.leavesFiles_of_outcome {command : Command} (hc : command.fileRequest = none)
    (ha : (command.outcome s).action = some a) : a.leavesFiles = true := by
  cases command with
  | git command =>
    rw [outcome, GitCommand.outcome] at ha
    split at ha
    · exact GitCommand.leavesFiles_of_outcomeInside hc ha
    · split at ha
      next hinit =>
        subst hinit
        cases hc
      next => cases ha
  | touch name =>
    cases name with
    | none => cases ha
    | some name => cases hc
  | write | clear => cases hc
  | blank | echo | help | unknown => cases ha

end

/-! ## Files after an action -/

namespace Snapshot

variable {s s' : Snapshot} {name target : String}

theorem fileNames_createFile (s : Snapshot) (name : String) : (s.createFile name).fileNames =
    if name ∈ s.fileNames then s.fileNames else s.fileNames ++ [name] := by
  cases hk : s.hasFile name with
  | true => rw [createFile_of_known hk, if_pos (hasFile_iff.mp hk)]
  | false =>
    have hnew : name ∉ s.fileNames := fun hmem => by simp [hasFile_iff.mpr hmem] at hk
    rw [createFile_of_new hk, if_neg hnew, fileNames, fileNames, List.map_append, List.append_assoc]
    rfl

theorem result_createFile (s : Snapshot) (name : String) : (FileRequest.make name).Result s (s.createFile name) := by
  refine ⟨?_, ?_, fileNames_createFile s name⟩
  · rw [createFile]
    split <;> rfl
  · rw [createFile]
    split
    · rfl
    · simp

theorem result_modifyFile (h : name ∈ s.fileNames) : (FileRequest.make name).Result s (s.modifyFile name) := by
  refine ⟨rfl, ?_, ?_⟩
  · rw [modifyFile, List.filter_map]
    have hname (f : FileEntry) : (if f.name = name then { f with status := .modified } else f).name = f.name := by
      split <;> rfl
    simp only [Function.comp_def, hname]
    refine (List.map_congr_left fun f hf => ?_).trans (List.map_id _)
    have hne : f.name ≠ name := by simpa using (List.mem_filter.mp hf).2
    exact if_neg hne
  · rw [fileNames_modifyFile, if_pos h]

theorem FilesTidy.workingFile_of_mem (h : s.FilesTidy) {f : FileEntry} (hf : f ∈ s.working) :
    s.workingFile f.name = some f :=
  find?_of_nodup (f := FileEntry.name) h.names.of_append_right hf

/-- Where names are different, the first entry of a name is the only one. -/
theorem FilesTidy.meant_of_found (h : s.FilesTidy) (hne : target ≠ stageAll) {f : FileEntry}
    (hf : s.workingFile target = some f) : s.meant target = [f] := by
  obtain rfl : f.name = target := workingFile_name hf
  simpa [meant, hne] using
    filter_eq_singleton (f := (·.name)) h.names.of_append_right (List.mem_of_find?_eq_some hf)

theorem FilesTidy.namesToStage_eq (h : s.FilesTidy) (target : String) :
    s.namesToStage [target] = (s.meant target).map (·.name) := by
  by_cases hall : target = stageAll
  · subst hall
    have hmeant : s.meant stageAll = s.working := by simp [meant]
    rw [namesToStage, if_pos List.mem_cons_self, eraseDups_of_nodup h.names.of_append_right, hmeant]
  · have hone : stageAll ∉ [target] := by simpa using Ne.symm hall
    rw [namesToStage, if_neg hone]
    cases hfound : s.workingFile target with
    | none =>
      have hnone : s.meant target = [] := by
        rw [workingFile, List.find?_eq_none] at hfound
        simpa [meant, hall] using hfound
      simp [hfound, hnone]
    | some f =>
      rw [List.filter_cons_of_pos (by simp [hfound]), List.filter_nil, eraseDups_of_nodup (List.nodup_singleton _),
        h.meant_of_found hall hfound, List.map_singleton, workingFile_name hfound]

theorem meant_subset (s : Snapshot) (target : String) : s.meant target ⊆ s.working := List.filter_sublist.subset

/-- No staged entry gives way, as no file is in both areas. -/
theorem FilesTidy.stage_eq (h : s.FilesTidy) (target : String) :
    s.stage [target] =
      { s with
        staged := s.staged ++ (s.meant target).map stagedForm
        working := s.working.filter (· ∉ s.meant target) } := by
  have hmoving := h.namesToStage_eq target
  have hfound : ((s.meant target).map (·.name)).filterMap s.workingFile = s.meant target := by
    rw [List.filterMap_map]
    refine (List.filterMap_congr fun f hf => ?_).trans List.filterMap_some
    exact h.workingFile_of_mem (s.meant_subset target hf)
  have hstaged : s.staged.filter (fun f => f.name ∉ (s.meant target).map (·.name)) = s.staged := by
    rw [List.filter_eq_self]
    intro f hf
    rw [decide_eq_true_iff]
    intro hmem
    obtain ⟨g, hg, hname⟩ := List.mem_map.mp hmem
    have hapart := (List.nodup_append.mp h.names).2.2
    exact hapart f.name (List.mem_map_of_mem hf) g.name (List.mem_map_of_mem (s.meant_subset target hg)) hname.symm
  have hworking : s.working.filter (fun f => f.name ∉ (s.meant target).map (·.name)) =
      s.working.filter (· ∉ s.meant target) := by
    refine List.filter_congr fun f hf => ?_
    have hiff : f.name ∈ (s.meant target).map (·.name) ↔ f ∈ s.meant target := by
      refine ⟨fun hmem => ?_, List.mem_map_of_mem⟩
      obtain ⟨g, hg, hname⟩ := List.mem_map.mp hmem
      have hsame := List.inj_on_of_nodup_map h.names.of_append_right (s.meant_subset target hg) hf hname
      rwa [← hsame]
    exact decide_eq_decide.mpr (not_congr hiff)
  rw [Snapshot.stage, hmoving]
  simp only [hfound, hstaged, hworking]

theorem result_stage (h : s.FilesTidy) (hknown : target ≠ stageAll → (s.workingFile target).isSome) :
    (FileRequest.stage target).Result s (s.stage [target]) := by
  refine ⟨?_, ?_, fun hne => ?_, fun name => mem_fileNames_stage_iff⟩
  · rw [h.stage_eq]
    refine congrArg (s.staged ++ ·) (List.map_congr_left fun f _ => ?_)
    rw [stagedForm]
    split <;> rfl
  · rw [h.stage_eq]
  · obtain ⟨f, hf⟩ := Option.isSome_iff_exists.mp (hknown hne)
    rw [h.meant_of_found hne hf, List.map_singleton, workingFile_name hf]

theorem result_commit (h : s.FilesTidy) (hs : s'.staged = []) (hw : s'.working = s.working) :
    FileRequest.commit.Result s s' := by
  refine ⟨hs, hw, fun name => ?_⟩
  have hapart := (List.nodup_append.mp h.names).2.2
  rw [fileNames, fileNames, hs, hw, List.map_nil, List.nil_append, List.mem_append]
  constructor
  · exact fun hname => ⟨Or.inr hname, fun hstaged => hapart name hstaged name hname rfl⟩
  · rintro ⟨hstaged | hname, hnot⟩
    · exact absurd hstaged hnot
    · exact hname

end Snapshot

/-! ## Lines -/

namespace Session

open FileRequest (ReadFrom)

variable {source : Source} {t : Session} {line name target : String}

theorem interpret_of_parse {command : Command} (h : Command.parse line = command) :
    t.interpret line = command.outcome t.snapshot := by
  rw [interpret, GitPractice.interpret, h]

/-- What succeeds is answered inside a repository. -/
theorem interpret_of_success {command : GitCommand} (h : Command.parse line = .git command)
    (hinit : command ≠ .init) (hok : (t.interpret line).isError = false) :
    t.interpret line = command.outcomeInside t.snapshot := by
  cases hi : t.snapshot.initialized with
  | true => exact interpret_inside hi h
  | false =>
    rw [interpret_of_parse h, Command.outcome, GitCommand.outcome, if_neg (by simp [hi]), if_neg hinit] at hok
    cases hok

/-! ### Lines that are effective

What they make of the files before the line enters the log. -/

theorem result_of_touch (h : Command.parse line = .touch (some name)) :
    (FileRequest.make name).Result t.snapshot (t.act source (t.interpret line)).snapshot := by
  rw [interpret_of_parse h]
  exact t.snapshot.result_createFile name

theorem result_of_write (h : Command.parse line = .write name) :
    (FileRequest.make name).Result t.snapshot (t.act source (t.interpret line)).snapshot := by
  rw [interpret_of_parse h, Command.outcome, Command.writeOutcome]
  split
  next hworking =>
    exact Snapshot.result_modifyFile (List.mem_append_right _ (Snapshot.workingFile_isSome_iff.mp hworking))
  next =>
    split
    next hstaged =>
      have hmem : name ∈ t.snapshot.fileNames := by
        rw [← Snapshot.hasFile_iff, Snapshot.hasFile, hstaged, Bool.or_true]
      exact ⟨rfl, rfl, (if_pos hmem).symm⟩
    next => exact t.snapshot.result_createFile name

theorem result_of_add (htidy : t.snapshot.FilesTidy) (h : Command.parse line = .git (.add (some target)))
    (hok : (t.interpret line).isError = false) :
    (FileRequest.stage target).Result t.snapshot (t.act source (t.interpret line)).snapshot := by
  have hanswer : t.interpret line = GitCommand.addOutcome t.snapshot (some target) :=
    interpret_of_success h (by simp) hok
  have hact : (t.act source (t.interpret line)).snapshot = t.snapshot.stage [target] := by
    rw [hanswer, act, GitCommand.addOutcome_action]
    by_cases hnothing : t.snapshot.namesToStage [target] = []
    · rw [if_pos hnothing, Snapshot.stage_of_nothing hnothing]
    · rw [if_neg hnothing]
      rfl
  rw [hact]
  refine Snapshot.result_stage htidy fun hne => ?_
  rw [hanswer, GitCommand.addOutcome, if_neg hne] at hok
  by_contra hunknown
  rw [if_neg hunknown] at hok
  cases hok

theorem result_of_commit (htidy : t.snapshot.FilesTidy) (hserved : t.served source line = true)
    {message : Option String} (h : Command.parse line = .git (.commit message))
    (hok : (t.interpret line).isError = false) :
    FileRequest.commit.Result t.snapshot (t.act source (t.interpret line)).snapshot := by
  have hanswer : t.interpret line = GitCommand.commitOutcome t.snapshot message :=
    interpret_of_success h (by simp) hok
  obtain ⟨hs, text, ha⟩ := GitCommand.commitOutcome_of_success (hanswer ▸ hok)
  rw [← hanswer] at ha
  have hc : t.snapshot.createsCommit (.commit text) = true := Snapshot.createsCommit_commit hs text
  have hmakes : t.snapshot.makesCommit line = true := by rw [Snapshot.makesCommit_eq ha, hc]
  rw [served, hmakes, Bool.not_true, Bool.false_or] at hserved
  obtain ⟨⟨id, taken⟩, hid⟩ := Option.isSome_iff_exists.mp hserved
  rw [act, ha]
  simp only
  rw [dispatch_of_createsCommit hc hid, Snapshot.apply, Snapshot.commit_of_staged hs]
  exact Snapshot.result_commit htidy rfl rfl

theorem result_of_reset (hl : t.snapshot.WellLinked) (hids : ∀ id ∈ t.snapshot.commitIds, id ≠ "")
    (h : Command.parse line = .git (.reset true)) {c : Commit} (hc : c ∈ t.snapshot.commits)
    (hhead : c.id = t.snapshot.head) (hparent : c.parent ≠ none) :
    FileRequest.goBack.Result t.snapshot (t.act source (t.interpret line)).snapshot := by
  obtain ⟨parent, hp⟩ := Option.ne_none_iff_exists'.mp hparent
  have hne : parent ≠ "" := hids parent ((hl.linkedTo_commitIds hc).parent parent hp)
  have hback : t.snapshot.resetParent = some parent := by
    rw [Snapshot.resetParent_of_mem hl.ids hc hhead.symm (hids c.id (List.mem_map_of_mem hc)), hp]
    simp [hne]
  rw [act_of_reset (hl.initialized_of_commit hc) h, Snapshot.reset_hard_of_parent hback]
  rfl

theorem result_of_init (hl : t.snapshot.WellLinked) (h : Command.parse line = .git .init)
    (hi : t.snapshot.initialized = false) :
    FileRequest.setUp.Result t.snapshot (t.act source (t.interpret line)).snapshot := by
  have hact : (t.act source (t.interpret line)).snapshot = t.snapshot.create := by
    rw [interpret_of_parse h, Command.outcome, GitCommand.outcome, if_neg (by simp [hi]), if_pos rfl]
    rfl
  have hstaged : t.snapshot.create.staged = [] := (hl.unborn hi).2.2.1
  show (t.act source (t.interpret line)).snapshot.fileNames = ["README.md"]
  rw [hact, Snapshot.fileNames, hstaged]
  rfl

theorem result_of_clear (h : Command.parse line = .clear) :
    FileRequest.discard.Result t.snapshot (t.act source (t.interpret line)).snapshot := by
  rw [interpret_of_parse h]
  rfl

theorem result_of_readFrom (hl : t.snapshot.WellLinked) (htidy : t.snapshot.FilesTidy)
    (hids : ∀ id ∈ t.snapshot.commitIds, id ≠ "") (hserved : t.served source line = true) {r : FileRequest}
    (hr : r.ReadFrom (Text.words line)) (he : r.IsEffective t.snapshot (t.interpret line)) :
    r.Result t.snapshot (t.run source line).snapshot := by
  have hact : r.Result t.snapshot (t.act source (t.interpret line)).snapshot := by
    generalize hws : Text.words line = ws at hr
    have hparse : Command.parse line = Command.ofWords ws := by rw [Command.parse, hws]
    cases hr with
    | touch name rest => exact result_of_touch hparse
    | echo htext hmark name => exact result_of_write (hparse.trans (Command.ofEcho_redirected htext hmark name))
    | add target rest => exact result_of_add htidy hparse he
    | commit rest =>
      obtain ⟨message, hmessage⟩ := GitCommand.exists_ofCommit rest
      exact result_of_commit htidy hserved (hparse.trans (congrArg Command.git hmessage)) he
    | reset =>
      obtain ⟨c, hc, hhead, hparent⟩ := he
      exact result_of_reset hl hids hparse hc hhead hparent
    | init rest => exact result_of_init hl hparse he
    | clear rest => exact result_of_clear hparse
  obtain ⟨log, hrun⟩ := @run_snapshot source t line
  rw [hrun]
  cases r <;> exact hact

/-! ### Lines that are not -/

theorem sameFiles_of_act (h : t.snapshot.SameFiles (t.act source (t.interpret line)).snapshot) :
    t.snapshot.SameFiles (t.run source line).snapshot := by
  obtain ⟨log, hrun⟩ := @run_snapshot source t line
  rw [hrun]
  exact h

theorem sameFiles_of_failed (h : (t.interpret line).isError = true) :
    t.snapshot.SameFiles (t.run source line).snapshot := by
  rw [(accounts source t line).failed h]
  exact ⟨rfl, rfl⟩

theorem sameFiles_of_no_request (h : (Command.parse line).fileRequest = none) :
    t.snapshot.SameFiles (t.run source line).snapshot := by
  refine sameFiles_of_act ?_
  rw [act]
  split
  next a ha =>
    obtain ⟨id, now, heffect⟩ := dispatch_effect source t a
    exact heffect.sameFiles (Command.leavesFiles_of_outcome h ha)
  next => exact ⟨rfl, rfl⟩

theorem sameFiles_of_ineffective {r : FileRequest} (hr : r.ReadFrom (Text.words line))
    (he : ¬ r.IsEffective t.snapshot (t.interpret line)) : t.snapshot.SameFiles (t.run source line).snapshot := by
  generalize hws : Text.words line = ws at hr
  have hparse : Command.parse line = Command.ofWords ws := by rw [Command.parse, hws]
  cases hr with
  | touch | echo | clear => exact absurd trivial he
  | add | commit => exact sameFiles_of_failed (Bool.not_eq_false _ |>.mp he)
  | reset =>
    have hparse : Command.parse line = .git (.reset true) := hparse
    cases hi : t.snapshot.initialized with
    | false =>
      refine sameFiles_of_failed ?_
      rw [interpret_of_parse hparse, Command.outcome, GitCommand.outcome, if_neg (by simp [hi]), if_neg (by simp)]
      rfl
    | true =>
      have hnone : t.snapshot.resetParent = none := by
        rw [Option.eq_none_iff_forall_ne_some]
        intro parent hp
        obtain ⟨⟨c, hc, hparent⟩, -⟩ := Snapshot.resetParent_eq_some_iff.mp hp
        exact he ⟨c, Snapshot.headCommit_mem hc, Snapshot.headCommit_id hc, by simp [hparent]⟩
      refine sameFiles_of_act ?_
      rw [act_of_reset hi hparse, Snapshot.reset_of_no_parent hnone]
      exact ⟨rfl, rfl⟩
  | init rest =>
    have hi : t.snapshot.initialized = true := Bool.not_eq_false _ |>.mp he
    have hparse : Command.parse line = .git .init := hparse
    refine sameFiles_of_act ?_
    rw [interpret, interpret_inside hi hparse]
    exact ⟨rfl, rfl⟩

/-- Whatever line is run after whatever lines. -/
theorem files_accounted (source : Source) (hids : ∀ n, source.ids.nth n ≠ "") (lines : List String) (line : String)
    (hserved : (runAll source {} lines).served source line = true) :
    let t := runAll source {} lines
    let s := t.snapshot
    let s' := (t.run source line).snapshot
    (∀ r : FileRequest, r.ReadFrom (Text.words line) → r.IsEffective s (t.interpret line) → r.Result s s') ∧
      ((∀ r : FileRequest, r.ReadFrom (Text.words line) → ¬ r.IsEffective s (t.interpret line)) →
        s'.staged = s.staged ∧ s'.working = s.working) ∧
      ((t.interpret line).isError = true → s'.staged = s.staged ∧ s'.working = s.working) := by
  intro t s s'
  obtain ⟨hl, htidy⟩ := linked_tidy_runAll source lines
  have hknown : ∀ id ∈ s.commitIds, id ≠ "" := forall_commitIds_runAll hids lines
  refine ⟨fun r hr he => result_of_readFrom hl htidy hknown hserved hr he, fun hnone => ?_, sameFiles_of_failed⟩
  -- The line is no request at all, or it is one that is not effective.
  cases hrequest : (Command.parse line).fileRequest with
  | none => exact sameFiles_of_no_request hrequest
  | some r =>
    have hr : r.ReadFrom (Text.words line) := FileRequest.readFrom_of_fileRequest hrequest
    exact sameFiles_of_ineffective hr (hnone r hr)

/-- A modified file is staged already when an untracked one and another modified one follow. -/
theorem files_accounted_of_mixed :
    let lines := ["touch early", "git init", "echo x > README.md", "git add README.md", "touch notes", "touch draft",
      "echo x >> draft", "git add missing"]
    let line := "  git add .  draft"
    let t := runAll .sample {} lines
    let s := t.snapshot
    let s' := (t.run .sample line).snapshot
    (∀ n, Source.sample.ids.nth n ≠ "") ∧ t.served .sample line = true ∧
      s.staged = [{ name := "README.md", status := .modified }] ∧
      s.working = [{ name := "notes", status := .untracked }, { name := "draft", status := .modified }] ∧
      (FileRequest.stage ".").ReadFrom (Text.words line) ∧
      (FileRequest.stage ".").IsEffective s (t.interpret line) ∧
      s'.staged = [{ name := "README.md", status := .modified }, { name := "notes", status := .added },
        { name := "draft", status := .modified }] ∧
      s'.working = [] := by
  intro lines line t s s'
  have hids : ∀ n, Source.sample.ids.nth n ≠ "" := IdSource.numbered_ne_empty
  have hserved : t.served .sample line = true := by decide +kernel
  have hstaged : s.staged = [{ name := "README.md", status := .modified }] := by decide +kernel
  have hworking : s.working = [{ name := "notes", status := .untracked }, { name := "draft", status := .modified }] := by
    decide +kernel
  have hread : (FileRequest.stage ".").ReadFrom (Text.words line) := by
    have hwords : Text.words line = ["git", "add", ".", "draft"] := by decide +kernel
    rw [hwords]
    exact .add "." ["draft"]
  have hok : (t.interpret line).isError = false := by decide +kernel
  obtain ⟨hstaged', hworking', -, -⟩ := (files_accounted .sample hids lines line hserved).1 (.stage ".") hread hok
  have hmeant : s.meant "." = s.working := by
    rw [Snapshot.meant, hworking]
    decide
  refine ⟨hids, hserved, hstaged, hworking, hread, hok, ?_, ?_⟩
  · refine hstaged'.trans ?_
    rw [hmeant, hstaged, hworking]
    decide
  · refine hworking'.trans ?_
    rw [hmeant, hworking]
    decide

end Session
end GitPractice
