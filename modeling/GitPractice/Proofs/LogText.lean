import GitPractice.Proofs.FirstParents
import GitPractice.Proofs.Status

/-!
# Reading the commit log

The answer to `git log` shows each commit in a block of six lines, the last of them empty. Nothing in it is
quoted, so it can be read back only as far as nothing that is shown breaks its line. Ids come from outside. All
else is typed, word by word: a message has no blanks but spaces, whether it was given or put together from
the names of two branches (`OneLined`). So the lines of the answer are the blocks, and as all blocks are of
one length there is no other way to take it (`Session.log_reads_back`).
-/

namespace GitPractice

namespace Text

/-! ## Lines of a text -/

theorem lines_join {ss : List String} (hne : ss ≠ []) : lines (join "\n" ss) = ss.flatMap lines := by
  induction ss with
  | nil => exact absurd rfl hne
  | cons first ss ih =>
    cases ss with
    | nil => exact (List.flatMap_singleton lines first).symm
    | cons second ss =>
      rw [join_cons_cons, lines_append_break, ih (List.cons_ne_nil _ _)]
      rfl

theorem lines_join_of_no_break {ss : List String} (hne : ss ≠ []) (h : ∀ s ∈ ss, '\n' ∉ s.toList) :
    lines (join "\n" ss) = ss := by
  calc lines (join "\n" ss)
      = ss.flatMap lines := lines_join hne
    _ = ss.flatMap fun s => [s] := List.flatMap_congr fun s hs => lines_of_no_break (h s hs)
    _ = ss := List.flatMap_singleton' ss

/-! ## Texts without a blank other than spaces -/

def Spaced (s : String) : Prop := ∀ c ∈ s.toList, isBlank c = false ∨ c = ' '

instance (s : String) : Decidable (Spaced s) :=
  decidable_of_iff (s.toList.all (fun c => !isBlank c || c == ' ') = true) (by simp [Spaced])

theorem Spaced.no_break {s : String} (h : Spaced s) : '\n' ∉ s.toList := by
  intro hmem
  rcases h '\n' hmem with hblank | hspace
  · exact absurd hblank (by decide)
  · exact absurd hspace (by decide)

theorem Spaced.append {a b : String} (ha : Spaced a) (hb : Spaced b) : Spaced (a ++ b) := by
  intro c hc
  rw [String.toList_append, List.mem_append] at hc
  exact hc.elim (ha c) (hb c)

theorem IsWord.spaced {w : String} (h : IsWord w) : Spaced w := fun c hc => Or.inl (h.2 c hc)

theorem spaced_join {ws : List String} (h : ∀ w ∈ ws, IsWord w) : Spaced (join " " ws) := by
  intro c hc
  rcases mem_join hc with hspace | ⟨w, hw, hcw⟩
  · exact Or.inr (List.mem_singleton.mp hspace)
  · exact (h w hw).spaced c hcw

end Text

/-- Quotes and outer blanks are taken away from the words, and nothing is added to them. -/
theorem spaced_cleanMessage {ws : List String} (h : ∀ w ∈ ws, Text.IsWord w) : Text.Spaced (cleanMessage ws) := by
  intro c hc
  rw [cleanMessage, Text.strip, String.toList_ofList] at hc
  have hkept := Text.stripChars_subset _ hc
  rw [String.toList_ofList] at hkept
  exact Text.spaced_join h c (List.mem_of_mem_filter hkept)

namespace Timestamp

theorem no_break_toDigits (n : Nat) : '\n' ∉ Nat.toDigits 10 n := fun hmem =>
  absurd (Nat.isDigit_of_mem_toDigits (by decide) (by decide) hmem) (by decide)

theorem no_break_logText (t : Timestamp) : '\n' ∉ t.logText.toList := by
  have hweekday : '\n' ∉ t.date.weekdayName.toList := by
    rw [Date.weekdayName]
    split <;> decide
  have hmonth : '\n' ∉ t.date.monthName.toList := by
    rw [Date.monthName]
    split <;> decide
  simp [logText, TimeOfDay.clockText, hweekday, hmonth, Text.not_mem_padded, no_break_toDigits]

end Timestamp

/-! ## Messages -/

/-- Messages and authors have no blanks but spaces, so none of them breaks its line. -/
def Snapshot.OneLined (s : Snapshot) : Prop := ∀ c ∈ s.commits, Text.Spaced c.message ∧ Text.Spaced c.author

namespace Snapshot

variable {s s' : Snapshot}

theorem spaced_defaultAuthor : Text.Spaced defaultAuthor := by decide +kernel

theorem Sound.spaced_currentBranch (h : s.Sound) : Text.Spaced s.currentBranch := by
  rcases h.coherent.current_known with hnone | hmem
  · rw [hnone]
    decide +kernel
  · exact (h.named _ hmem).spaced

/-- A merge is named after two branches. -/
theorem Sound.spaced_mergeAtHead (h : s.Sound) {name : String} {source : Branch}
    (hs : s.mergeSource name = some source) (id : String) (now : Timestamp) :
    Text.Spaced (s.mergeAtHead id now source).message := by
  obtain ⟨hfound, -⟩ := mergeSource_eq_some_iff.mp hs
  have hname : Text.Spaced source.name := (h.named.of_mem (findBranch_mem hfound)).spaced
  have hopen : Text.Spaced "Merge branch '" := by decide +kernel
  have hinto : Text.Spaced "' into " := by decide +kernel
  exact ((hopen.append hname).append hinto).append h.spaced_currentBranch

namespace OneLined

theorem push (h : s.OneLined) {new : Commit} (hm : Text.Spaced new.message) (ha : Text.Spaced new.author) :
    ∀ c ∈ s.commits ++ [new], Text.Spaced c.message ∧ Text.Spaced c.author := by
  rw [List.forall_mem_append]
  exact ⟨h, List.forall_mem_singleton.mpr ⟨hm, ha⟩⟩

theorem step (h : s.OneLined) (hs : s.Sound) {ids : IdSource} (hstep : Step ids s s') : s'.OneLined := by
  -- Two kinds of step make a commit, and one takes them all away.
  cases hstep with
  | commit _ _ _ hw => exact h.push (spaced_cleanMessage hw) spaced_defaultAuthor
  | merge now _ hsource => exact h.push (hs.spaced_mergeAtHead hsource _ now) spaced_defaultAuthor
  | createFile =>
    rw [createFile_eq]
    exact h
  | resetAll =>
    intro c hc
    cases hc
  | _ => exact h

end OneLined
end Snapshot

theorem Session.oneLined_runAll (source : Source) (lines : List String) :
    (runAll source {} lines).snapshot.OneLined := by
  have hboth : (runAll source {} lines).snapshot.Sound ∧ (runAll source {} lines).snapshot.OneLined :=
    runAll_keeps (P := fun s => s.Sound ∧ s.OneLined) ⟨.empty, fun c hc => by cases hc⟩
      (fun hstep h => ⟨h.1.step hstep, h.2.step h.1 hstep⟩) lines
  exact hboth.2

/-! ## Blocks -/

/-- What the log shows of one commit. -/
structure LogBlock where
  id : String
  author : String
  date : String
  message : String
deriving DecidableEq

namespace LogBlock

def ofCommit (c : Commit) : LogBlock :=
  { id := c.id, author := c.author, date := c.timestamp.logText, message := c.message }

/-- The lines of a block, with the empty one behind it. -/
def lines (b : LogBlock) : List String :=
  ["commit " ++ b.id, "Author: " ++ b.author, "Date: " ++ b.date, "", "    " ++ b.message, ""]

/-- Line by line, the text is made of these blocks one after the other. -/
def Reads (text : String) (blocks : List LogBlock) : Prop := Text.lines text = blocks.flatMap lines

theorem lines_injective : Function.Injective lines := by
  intro b b' h
  simp only [lines, List.cons.injEq, String.append_right_inj, and_true, true_and] at h
  obtain ⟨hid, hauthor, hdate, hmessage⟩ := h
  cases b
  cases b'
  simp_all

/-- All blocks have the same number of lines, so it is clear where each one ends. -/
theorem flatMap_lines_injective : Function.Injective (List.flatMap lines) := by
  intro blocks
  induction blocks with
  | nil =>
    intro others h
    cases others with
    | nil => rfl
    | cons b others => cases h
  | cons b blocks ih =>
    intro others h
    cases others with
    | nil => cases h
    | cons b' others =>
      rw [List.flatMap_cons, List.flatMap_cons] at h
      obtain ⟨hfirst, hrest⟩ := List.append_inj h rfl
      rw [lines_injective hfirst, ih hrest]

theorem logEntry_eq_join (c : Commit) : GitCommand.logEntry c = Text.join "\n" (ofCommit c).lines := by
  -- Making the equation lemma of a long chain of texts takes seconds, and `delta` does without it.
  delta GitCommand.logEntry
  apply String.toList_inj.mp
  simp [Text.join, lines, ofCommit]

theorem no_break_lines {c : Commit} (hid : '\n' ∉ c.id.toList) (hm : Text.Spaced c.message)
    (ha : Text.Spaced c.author) : ∀ line ∈ (ofCommit c).lines, '\n' ∉ line.toList := by
  simp [lines, ofCommit, hid, hm.no_break, ha.no_break, Timestamp.no_break_logText]

theorem reads_iff {cs : List Commit} (hne : cs ≠ [])
    (h : ∀ c ∈ cs, ∀ line ∈ (ofCommit c).lines, '\n' ∉ line.toList) (blocks : List LogBlock) :
    Reads (Text.join "\n" (cs.map GitCommand.logEntry)) blocks ↔ blocks = cs.map ofCommit := by
  -- The empty line lies between the break that ends an entry and the one that joins it to the next.
  have hlines : Text.lines (Text.join "\n" (cs.map GitCommand.logEntry)) = (cs.map ofCommit).flatMap lines := by
    rw [Text.lines_join (by simpa using hne), List.flatMap_map, List.flatMap_map]
    refine List.flatMap_congr fun c hc => ?_
    rw [logEntry_eq_join]
    exact Text.lines_join_of_no_break (List.cons_ne_nil _ _) (h c hc)
  rw [Reads, hlines, flatMap_lines_injective.eq_iff, eq_comm]

end LogBlock

namespace Session

/-- Whatever lines were run, as long as there is a commit: the answer to `git log` can be read as blocks in
exactly one way, which gives ids, authors, dates and messages of the commits listed. These are all
commits, or the walk from a detached HEAD, and the newest comes first. -/
theorem log_reads_back (source : Source)
    (hids : ∀ n, source.ids.nth n ≠ "" ∧ '\n' ∉ (source.ids.nth n).toList) (lines : List String)
    (hcommits : (runAll source {} lines).snapshot.commits ≠ []) :
    let t := runAll source {} lines
    let listed := (GitCommand.loggedCommits t.snapshot).reverse
    (∃ text, t.interpret "git log" = .success text ∧
        ∀ blocks, LogBlock.Reads text blocks ↔ blocks = listed.map LogBlock.ofCommit) ∧
      (t.snapshot.detached = false → listed = t.snapshot.commits.reverse) ∧
      (t.snapshot.detached = true → t.snapshot.Lineage t.snapshot.head (listed.map (·.id))) := by
  intro t listed
  have hs : t.snapshot.Sound := sound_runAll source lines
  have hmessages : t.snapshot.OneLined := oneLined_runAll source lines
  have hknown : ∀ id ∈ t.snapshot.commitIds, id ≠ "" ∧ '\n' ∉ id.toList := forall_commitIds_runAll hids lines
  have hne : ∀ id ∈ t.snapshot.commitIds, id ≠ "" := fun id hid => (hknown id hid).1
  have hinitialized : t.snapshot.initialized = true := by
    obtain ⟨c, hc⟩ := List.exists_mem_of_ne_nil _ hcommits
    exact hs.linked.initialized_of_commit hc
  have hlisted : listed ≠ [] := fun hnil =>
    hs.loggedCommits_ne_nil hne hcommits (List.reverse_eq_nil_iff.mp hnil)
  refine ⟨⟨_, interpret_log hinitialized hcommits, LogBlock.reads_iff hlisted ?_⟩, ?_, ?_⟩
  · intro c hc
    have hmem : c ∈ t.snapshot.commits := Snapshot.loggedCommits_subset _ (List.mem_reverse.mp hc)
    obtain ⟨hm, ha⟩ := hmessages c hmem
    exact LogBlock.no_break_lines (hknown c.id (List.mem_map_of_mem hmem)).2 hm ha
  · intro hattached
    exact congrArg List.reverse (if_neg (by simp [hattached]))
  · exact hs.lineage_loggedCommits hne

/-- A message that looks like the beginning of a block, and a branch with the name of a field. -/
theorem log_reads_back_of_forged :
    let lines := ["git init", "git add .", "git commit -m \"commit c000009 Author: Eve\"", "git branch Date:",
      "touch a", "git add a", "git commit -m two", "git checkout Date:", "git merge main"]
    let t := runAll .sample {} lines
    let listed := (GitCommand.loggedCommits t.snapshot).reverse
    (∀ n, Source.sample.ids.nth n ≠ "" ∧ '\n' ∉ (Source.sample.ids.nth n).toList) ∧ t.snapshot.commits ≠ [] ∧
      listed.map LogBlock.ofCommit =
        [⟨"c000003", "User", "Mon Jan 15 10:30:00 2024", "Merge branch 'main' into Date:"⟩,
          ⟨"c000002", "User", "Mon Jan 15 10:30:00 2024", "two"⟩,
          ⟨"c000001", "User", "Mon Jan 15 10:30:00 2024", "commit c000009 Author: Eve"⟩] ∧
      (∃ text, t.interpret "git log" = .success text ∧
        ∀ blocks, LogBlock.Reads text blocks ↔ blocks = listed.map LogBlock.ofCommit) ∧
      (t.snapshot.detached = false → listed = t.snapshot.commits.reverse) ∧
      (t.snapshot.detached = true → t.snapshot.Lineage t.snapshot.head (listed.map (·.id))) := by
  intro lines t listed
  have hids : ∀ n, Source.sample.ids.nth n ≠ "" ∧ '\n' ∉ (Source.sample.ids.nth n).toList := by
    refine fun n => ⟨IdSource.numbered_ne_empty n, fun hmem => ?_⟩
    rcases IdSource.mem_numbered hmem with hletter | hdigit
    · exact absurd hletter (by decide)
    · exact absurd hdigit (by decide)
  have hcommits : t.snapshot.commits ≠ [] := by decide +kernel
  exact ⟨hids, hcommits, by decide +kernel, log_reads_back .sample hids lines hcommits⟩

end Session
end GitPractice
