import GitPractice.Proofs.Guards

/-!
# Messages on the command line

A message is not read as it is typed. The line is cut into words, the words behind `-m` are joined by single
spaces, quotes of either kind are dropped wherever they stand, and blanks at the ends are dropped after
that. A message without quotes whose blanks are single spaces between words (`Text.Evened`) comes through
unchanged, with quotes around it or without: a quote clings to the word that it stands at, so that the
quoted text is evened too. Whatever is typed, a message that comes through is such that it could
have been stripped and cleaned before (`commit_messages_survive`).
-/

namespace GitPractice

namespace Text

/-! ## Evened texts -/

/-- The text is made of words, at least one, with single spaces between them. -/
def Evened (s : String) : Prop := ∃ ws, ws ≠ [] ∧ (∀ w ∈ ws, IsWord w) ∧ s = join " " ws

theorem words_join {ws : List String} (h : ∀ w ∈ ws, IsWord w) : words (join " " ws) = ws := by
  induction ws with
  | nil => rfl
  | cons v ws ih =>
    obtain ⟨hv, hrest⟩ := List.forall_mem_cons.mp h
    cases ws with
    | nil => exact words_of_isWord hv
    | cons w ws => rw [join_cons_cons, words_append_space, words_of_isWord hv, ih hrest, List.singleton_append]

theorem evened_iff {s : String} : Evened s ↔ s ≠ "" ∧ s = join " " (words s) := by
  constructor
  · rintro ⟨ws, hne, hws, rfl⟩
    refine ⟨?_, by rw [words_join hws]⟩
    obtain ⟨w, ws, rfl⟩ := List.exists_cons_of_ne_nil hne
    exact join_ne_empty (hws w List.mem_cons_self) ws
  · rintro ⟨hne, hjoin⟩
    refine ⟨words s, fun hnil => hne ?_, fun w hw => isWord_of_mem_words hw, hjoin⟩
    rw [hjoin, hnil]
    rfl

theorem IsWord.append {v w : String} (hv : IsWord v) (hw : IsWord w) : IsWord (v ++ w) := by
  refine ⟨fun h => hv.1 (String.append_eq_empty_iff.mp h).1, fun c hc => ?_⟩
  rw [String.toList_append, List.mem_append] at hc
  exact hc.elim (hv.2 c) (hw.2 c)

namespace Evened

variable {s mark : String}

theorem words_ne_nil (h : Evened s) : words s ≠ [] := by
  obtain ⟨ws, hne, hws, rfl⟩ := h
  rwa [words_join hws]

theorem strip (h : Evened s) : strip s = s := by
  obtain ⟨ws, -, hws, rfl⟩ := h
  exact strip_join hws

/-- A mark in front becomes a part of the first word. -/
theorem prepend (h : Evened s) (hmark : IsWord mark) : Evened (mark ++ s) := by
  obtain ⟨ws, hne, hws, rfl⟩ := h
  obtain ⟨v, ws, rfl⟩ := List.exists_cons_of_ne_nil hne
  obtain ⟨hv, hrest⟩ := List.forall_mem_cons.mp hws
  refine ⟨(mark ++ v) :: ws, List.cons_ne_nil _ _, List.forall_mem_cons.mpr ⟨hmark.append hv, hrest⟩, ?_⟩
  cases ws with
  | nil => rfl
  | cons w ws => rw [join_cons_cons, join_cons_cons, String.append_assoc, String.append_assoc, String.append_assoc]

/-- A mark behind becomes a part of the last word. -/
theorem append (h : Evened s) (hmark : IsWord mark) : Evened (s ++ mark) := by
  obtain ⟨ws, hne, hws, rfl⟩ := h
  induction ws with
  | nil => exact absurd rfl hne
  | cons v ws ih =>
    obtain ⟨hv, hrest⟩ := List.forall_mem_cons.mp hws
    cases ws with
    | nil => exact ⟨[v ++ mark], List.cons_ne_nil _ _, List.forall_mem_singleton.mpr (hv.append hmark), rfl⟩
    | cons w ws =>
      obtain ⟨us, hus, hwords, hjoin⟩ := ih (List.cons_ne_nil _ _) hrest
      obtain ⟨u, us, rfl⟩ := List.exists_cons_of_ne_nil hus
      refine ⟨v :: u :: us, List.cons_ne_nil _ _, List.forall_mem_cons.mpr ⟨hv, hwords⟩, ?_⟩
      rw [join_cons_cons, join_cons_cons, ← hjoin, String.append_assoc, String.append_assoc]

end Evened
end Text

/-! ## Reading a message -/

/-- No quote of either kind is in the text. -/
def Unquoted (s : String) : Prop := ∀ c ∈ s.toList, c ≠ '"' ∧ c ≠ '\''

instance (s : String) : Decidable (Unquoted s) :=
  decidable_of_iff (s.toList.all (fun c => c != '"' && c != '\'') = true) (by simp [Unquoted])

theorem parse_commitLine {text : String} (h : Text.words text ≠ []) :
    Command.parse ("git commit -m " ++ text) = .git (.commit (some (cleanMessage (Text.words text)))) := by
  have hsplit : "git commit -m " ++ text = "git commit -m" ++ " " ++ text := rfl
  have hverb : Text.words "git commit -m" = ["git", "commit", "-m"] := by decide +kernel
  rw [Command.parse, hsplit, Text.words_append_space, hverb]
  cases hwords : Text.words text with
  | nil => exact absurd hwords h
  | cons w ws => rfl

/-- Only the quotes are taken out of an evened text before it is stripped. -/
theorem cleanMessage_of_evened {text : String} (h : Text.Evened text) :
    cleanMessage (Text.words text) = Text.strip (String.ofList (text.toList.filter fun c => c ≠ '"' && c ≠ '\'')) := by
  rw [cleanMessage, ← (Text.evened_iff.mp h).2]

section

variable {message : String}

theorem Unquoted.filter (h : Unquoted message) :
    (message.toList.filter fun c => c ≠ '"' && c ≠ '\'') = message.toList :=
  List.filter_eq_self.mpr fun c hc => by simpa using h c hc

theorem cleanMessage_plain (h : Text.Evened message) (hquotes : Unquoted message) :
    cleanMessage (Text.words message) = message := by
  rw [cleanMessage_of_evened h, hquotes.filter, String.ofList_toList, h.strip]

theorem cleanMessage_quoted (h : Text.Evened message) (hquotes : Unquoted message) :
    cleanMessage (Text.words ("\"" ++ message ++ "\"")) = message := by
  have hmark : Text.IsWord "\"" := by decide +kernel
  have hchars : ("\"" ++ message ++ "\"").toList = '"' :: (message.toList ++ ['"']) := by
    rw [String.toList_append, String.toList_append]
    rfl
  rw [cleanMessage_of_evened ((h.prepend hmark).append hmark), hchars, List.filter_cons_of_neg (by simp),
    List.filter_append, hquotes.filter, List.filter_cons_of_neg (by simp), List.filter_nil, List.append_nil,
    String.ofList_toList, h.strip]

/-- Nothing of what is cleaned away is left, wherever it stood. -/
theorem unquoted_cleanMessage (ws : List String) : Unquoted (cleanMessage ws) := by
  intro c hc
  rw [cleanMessage, Text.strip, String.toList_ofList] at hc
  have hkept := Text.stripChars_subset _ hc
  rw [String.toList_ofList] at hkept
  simpa using (List.mem_filter.mp hkept).2

theorem strip_cleanMessage (ws : List String) : Text.strip (cleanMessage ws) = cleanMessage ws :=
  Text.strip_strip _

theorem interpret_of_parse_commit {s : Snapshot} {line : String} (hi : s.initialized = true) (hs : s.staged ≠ [])
    (hm : message ≠ "") (hparse : Command.parse line = .git (.commit (some message))) :
    interpret s line =
      .success ("[" ++ s.currentBranch ++ " " ++ shortId s.head ++ "] " ++ message ++ "\n " ++
        toString s.staged.length ++ " file(s) changed") (some (.commit message)) := by
  rw [interpret_inside hi hparse, GitCommand.outcomeInside, GitCommand.commitOutcome, if_neg (by simpa using hs),
    if_neg hm]

theorem Snapshot.Offers.commit_cleaned {s : Snapshot} (h : s.Offers (.commit message)) :
    message ≠ "" ∧ ∃ ws, message = cleanMessage ws := by
  -- The message is generalized, as the cases would be told apart by evaluating `cleanMessage`.
  generalize ha : Action.commit message = a at h
  cases h with
  | @commit ws _ _ _ hm =>
    rw [Action.commit.injEq] at ha
    exact ⟨ha ▸ hm, ws, ha⟩
  | _ => cases ha

/-- What a line asks to commit with is never empty, and cleaning it again changes nothing. -/
theorem cleaned_of_interpret {s : Snapshot} {line : String} (h : (interpret s line).action = some (.commit message)) :
    message ≠ "" ∧ Unquoted message ∧ Text.strip message = message := by
  have hclear : Command.parse line ≠ .clear := by
    intro hclear
    rw [interpret_of_clear hclear] at h
    cases h
  obtain ⟨hm, ws, rfl⟩ := (interpret_offers hclear h).commit_cleaned
  exact ⟨hm, unquoted_cleanMessage ws, strip_cleanMessage ws⟩

end

/-- Where files are staged, a message without quotes that is made of words and single spaces is what the line asks
to commit with, whether quotes are put around it or not. Whatever the line and the state, a message that is
asked for is not empty, has no quotes, and neither begins nor ends with a blank. -/
theorem commit_messages_survive :
    (∀ (s : Snapshot) (message : String), s.initialized = true → s.staged ≠ [] → message ≠ "" → Unquoted message →
      message = Text.join " " (Text.words message) →
      ∃ output, interpret s ("git commit -m \"" ++ message ++ "\"") = .success output (some (.commit message)) ∧
        interpret s ("git commit -m " ++ message) = .success output (some (.commit message))) ∧
      ∀ (s : Snapshot) (line message : String), (interpret s line).action = some (.commit message) →
        message ≠ "" ∧ Unquoted message ∧ (∀ c ∈ message.toList.head?, Text.isBlank c = false) ∧
          ∀ c ∈ message.toList.getLast?, Text.isBlank c = false := by
  constructor
  · intro s message hi hs hm hquotes hjoin
    have heven : Text.Evened message := Text.evened_iff.mpr ⟨hm, hjoin⟩
    have hmark : Text.IsWord "\"" := by decide +kernel
    have hplain := parse_commitLine heven.words_ne_nil
    have hquoted := parse_commitLine ((heven.prepend hmark).append hmark).words_ne_nil
    rw [cleanMessage_plain heven hquotes] at hplain
    rw [cleanMessage_quoted heven hquotes, ← String.append_assoc, ← String.append_assoc] at hquoted
    exact ⟨_, interpret_of_parse_commit hi hs hm hquoted, interpret_of_parse_commit hi hs hm hplain⟩
  · intro s line message h
    obtain ⟨hm, hquotes, hstrip⟩ := cleaned_of_interpret h
    have hchars : message.toList = Text.stripChars message.toList := by
      conv_lhs => rw [← hstrip, Text.strip, String.toList_ofList]
    rw [hchars]
    exact ⟨hm, hquotes, Text.head?_stripChars, Text.getLast?_stripChars⟩

/-- A message that begins like the flag, and a line whose quotes do not pair up. -/
theorem commit_messages_survive_of_flagged :
    let s : Snapshot :=
      { initialized := true, currentBranch := "main", staged := [{ name := "a", status := .added }] }
    let message := "-m fix #1 \u2192 \u00fc"
    let line := "git commit -m ' \" a ''  b\" '"
    (s.initialized = true ∧ s.staged ≠ [] ∧ message ≠ "" ∧ Unquoted message ∧
        message = Text.join " " (Text.words message)) ∧
      (∃ output, interpret s ("git commit -m \"" ++ message ++ "\"") = .success output (some (.commit message)) ∧
        interpret s ("git commit -m " ++ message) = .success output (some (.commit message))) ∧
      (interpret s line).action = some (.commit "a  b") ∧ "a  b" ≠ "" ∧ Unquoted "a  b" := by
  intro s message line
  have hi : s.initialized = true := rfl
  have hs : s.staged ≠ [] := by decide
  have hm : message ≠ "" := by decide +kernel
  have hquotes : Unquoted message := by decide +kernel
  have hjoin : message = Text.join " " (Text.words message) := by decide +kernel
  have hasked : (interpret s line).action = some (.commit "a  b") := by decide +kernel
  obtain ⟨hne, hcleaned, -⟩ := commit_messages_survive.2 s line "a  b" hasked
  exact ⟨⟨hi, hs, hm, hquotes, hjoin⟩, commit_messages_survive.1 s message hi hs hm hquotes hjoin, hasked, hne, hcleaned⟩

end GitPractice
