import GitPractice.Proofs.Line

/-!
# The log is exact

Every line but a blank one and one that clears everything leaves one entry in
the log, with the answer that it got. A line that fails leaves nothing else: a
failure is answered without an action. So the log tells what was typed and
answered since the last clearing, whatever the clock and the ids
(`Session.log_exact`).
-/

namespace GitPractice

/-! ## Lines that are not logged -/

namespace Command

theorem ofEcho_ne (args : List String) : ofEcho args ≠ blank ∧ ofEcho args ≠ clear := by
  unfold ofEcho
  split
  · split <;> exact ⟨Command.noConfusion, Command.noConfusion⟩
  · exact ⟨Command.noConfusion, Command.noConfusion⟩

theorem parse_eq_blank_iff (line : String) : parse line = blank ↔ Text.strip line = "" := by
  rw [Text.strip_eq_empty_iff, parse]
  unfold ofWords
  split <;> simp_all [ofEcho_ne]

theorem parse_eq_clear_iff (line : String) :
    parse line = clear ↔ (Text.words line).head? = some "clear" := by
  rw [parse]
  unfold ofWords
  split <;> simp_all [ofEcho_ne]

end Command

namespace Session

variable {source : Source} {t : Session} {line : String}

/-! ## One line -/

theorem history_act (hc : Command.parse line ≠ .clear) :
    (t.act source (t.interpret line)).snapshot.history = t.snapshot.history := by
  rw [act]
  cases ha : (t.interpret line).action with
  | none => rfl
  | some a =>
    have ho : t.snapshot.Offers a := interpret_offers hc ha
    rcases @dispatch_snapshot source t a with ⟨hsame, -⟩ | ⟨id, now, happly, -⟩
    · simp only [hsame]
    · simp only [happly]
      exact (ho.commitIds_history id now).2

theorem run_of_blank (h : Command.parse line = .blank) : t.run source line = t := by
  rw [run_eq, interpret, interpret_of_blank h]
  rfl

theorem run_of_clear (h : Command.parse line = .clear) :
    t.run source line = { t with snapshot := .empty } := by
  rw [run_eq, interpret, interpret_of_clear h]
  rfl

theorem run_of_isReply (h : (t.interpret line).IsReply) :
    t.run source line = (t.act source (t.interpret line)).dispatch source
      (.record (Text.strip line) (t.interpret line).output (t.interpret line).isError) := by
  rw [run_eq, h.recorded, if_pos rfl]

/-- How the session deals with one line. -/
structure Accounts (source : Source) (t : Session) (line : String) : Prop where
  blank : Text.strip line = "" → t.run source line = t
  cleared : (Text.words line).head? = some "clear" → (t.run source line).snapshot = .empty
  logged : Text.strip line ≠ "" → (Text.words line).head? ≠ some "clear" →
    (t.interpret line).recorded = true ∧ ∃ n, (t.run source line).snapshot.history =
      t.snapshot.history ++ [{ command := Text.strip line, output := (t.interpret line).output
                               isError := (t.interpret line).isError, timestamp := source.clock n }]
  failed : (t.interpret line).isError = true → (t.run source line).snapshot =
    { t.snapshot with history := (t.run source line).snapshot.history }

theorem accounts (source : Source) (t : Session) (line : String) : t.Accounts source line := by
  have hblank := Command.parse_eq_blank_iff line
  have hclear := Command.parse_eq_clear_iff line
  constructor
  case blank => exact fun h => run_of_blank (hblank.mpr h)
  case cleared => exact fun h => by rw [run_of_clear (hclear.mpr h)]
  case logged =>
    intro hb hc
    rw [ne_eq, ← hblank] at hb
    rw [ne_eq, ← hclear] at hc
    have hreply : (t.interpret line).IsReply := isReply_interpret hb hc
    refine ⟨hreply.recorded, (t.act source (t.interpret line)).clockReads, ?_⟩
    rw [run_of_isReply hreply, dispatch_record]
    show (t.act source (t.interpret line)).snapshot.history ++ _ = _
    rw [history_act hc]
  case failed =>
    intro he
    have hb : Command.parse line ≠ .blank := by
      intro hb
      rw [interpret, interpret_of_blank hb] at he
      cases he
    have hc : Command.parse line ≠ .clear := by
      intro hc
      rw [interpret, interpret_of_clear hc] at he
      cases he
    have hreply : (t.interpret line).IsReply := isReply_interpret hb hc
    -- A failure has no action, so only the entry in the log is left of the line.
    have hact : t.act source (t.interpret line) = t := by
      rw [act, hreply.action_of_isError he]
    rw [run_of_isReply hreply, hact]
    rfl

/-! ## Runs -/

def transcript (source : Source) (t : Session) (lines : List String) : List (String × Outcome) :=
  lines.zip (answers source t lines)

/-- What a log has to say of a transcript: command, output and error flag of every line that is not
blank and comes after the last one that clears everything. -/
def account (said : List (String × Outcome)) : List (String × String × Bool) :=
  ((said.rtakeWhile fun p => (Text.words p.1).head? ≠ some "clear").filter
    fun p => Text.strip p.1 ≠ "").map fun p => (Text.strip p.1, p.2.output, p.2.isError)

theorem transcript_concat (lines : List String) (line : String) :
    transcript source t (lines ++ [line]) =
      transcript source t lines ++ [(line, (t.runAll source lines).interpret line)] := by
  rw [transcript, answers_concat, List.zip_append (length_answers source t lines).symm]
  rfl

theorem account_concat_of_clear (said : List (String × Outcome)) (answer : Outcome)
    (h : (Text.words line).head? = some "clear") : account (said ++ [(line, answer)]) = [] := by
  rw [account, List.rtakeWhile_concat, if_neg (by simp [h])]
  rfl

theorem account_concat_of_blank (said : List (String × Outcome)) (answer : Outcome)
    (h : Text.strip line = "") : account (said ++ [(line, answer)]) = account said := by
  have hc : (Text.words line).head? ≠ some "clear" := by
    rw [(Text.strip_eq_empty_iff line).mp h]
    simp
  rw [account, List.rtakeWhile_concat, if_pos (by simpa using hc), List.filter_append, account]
  simp [h]

theorem account_concat_of_logged (said : List (String × Outcome)) (answer : Outcome)
    (hb : Text.strip line ≠ "") (hc : (Text.words line).head? ≠ some "clear") :
    account (said ++ [(line, answer)]) =
      account said ++ [(Text.strip line, answer.output, answer.isError)] := by
  rw [account, List.rtakeWhile_concat, if_pos (by simpa using hc), List.filter_append,
    List.map_append, account]
  simp [hb]

/-- Every line is accounted for in every state, and what is in the log after a run from the
beginning is the account of the lines and of the answers that they got. -/
theorem log_exact (source : Source) :
    (∀ t line, Accounts source t line) ∧
      ∀ lines, (runAll source {} lines).snapshot.history.map (fun e =>
        (e.command, e.output, e.isError)) = account (transcript source {} lines) := by
  refine ⟨accounts source, fun lines => ?_⟩
  -- The last line decides whether the account so far goes on, as it is or by an entry, or is void.
  induction lines using List.reverseRecOn with
  | nil => rfl
  | append_singleton lines line ih =>
    have h := accounts source (runAll source {} lines) line
    rw [runAll_append, transcript_concat]
    show ((runAll source {} lines).run source line).snapshot.history.map _ = _
    by_cases hb : Text.strip line = ""
    · rw [h.blank hb, account_concat_of_blank _ _ hb]
      exact ih
    · by_cases hc : (Text.words line).head? = some "clear"
      · rw [h.cleared hc, account_concat_of_clear _ _ hc]
        rfl
      · obtain ⟨-, n, hlog⟩ := h.logged hb hc
        rw [hlog, account_concat_of_logged _ _ hb hc, List.map_append, ih]
        rfl

end Session
end GitPractice
