import GitPractice.Proofs.Run

/-!
# One line

What a line makes of a snapshot depends on the snapshot, on the next id, and on
the time. With a clock that stands still, the rest of a session does not matter:
`Snapshot.afterLine` is a function of these three, and a session runs a line by
applying it and taking the id if the line makes a commit.
-/

namespace GitPractice
namespace Snapshot

/-- Whether the line makes a commit in this state. -/
def makesCommit (s : Snapshot) (line : String) : Bool :=
  (interpret s line).action.any s.createsCommit

/-- The snapshot after the action of an answer. -/
def afterAction (s : Snapshot) (id : String) (now : Timestamp) (answer : Outcome) : Snapshot :=
  match answer.action with
  | some a => s.apply id now a
  | none => s

/-- The snapshot after a line. -/
def afterLine (s : Snapshot) (id : String) (now : Timestamp) (line : String) : Snapshot :=
  let answer := interpret s line
  if answer.recorded then
    (s.afterAction id now answer).record now (Text.strip line) answer.output answer.isError
  else s.afterAction id now answer

variable {s : Snapshot} {line : String}

theorem makesCommit_eq {a : Action} (h : (interpret s line).action = some a) :
    s.makesCommit line = s.createsCommit a := by
  rw [makesCommit, h]
  rfl

/-- A line and its stripped form do the same and are logged alike. -/
theorem afterLine_strip (s : Snapshot) (id : String) (now : Timestamp) (line : String) :
    s.afterLine id now (Text.strip line) = s.afterLine id now line := by
  rw [afterLine, interpret_strip, Text.strip_strip]
  rfl

theorem makesCommit_strip (s : Snapshot) (line : String) :
    s.makesCommit (Text.strip line) = s.makesCommit line := by
  rw [makesCommit, interpret_strip]
  rfl

/-! ## Lines that are not logged -/

theorem afterLine_of_blank (h : Command.parse line = .blank) (id : String) (now : Timestamp) :
    s.afterLine id now line = s := by
  rw [afterLine, interpret_of_blank h]
  rfl

theorem afterLine_of_clear (h : Command.parse line = .clear) (id : String) (now : Timestamp) :
    s.afterLine id now line = empty := by
  rw [afterLine, interpret_of_clear h]
  rfl

theorem makesCommit_of_blank (h : Command.parse line = .blank) : s.makesCommit line = false := by
  rw [makesCommit, interpret_of_blank h]
  rfl

theorem makesCommit_of_clear (h : Command.parse line = .clear) : s.makesCommit line = false := by
  rw [makesCommit, interpret_of_clear h]
  rfl

/-! ## Lines that are logged -/

/-- Only a commit adds to the commits, and nothing that is offered touches the log. -/
theorem Offers.commitIds_history {a : Action} (ho : s.Offers a) (id : String) (now : Timestamp) :
    (s.apply id now a).commitIds =
        (if s.createsCommit a then s.commitIds ++ [id] else s.commitIds) ∧
      (s.apply id now a).history = s.history := by
  cases ho with
  | create | modifyFile | stage => exact ⟨rfl, rfl⟩
  | createFile =>
    rw [apply, createFile_eq]
    exact ⟨rfl, rfl⟩
  | commit _ hs =>
    rw [createsCommit_commit hs, apply, commit_of_staged hs]
    exact ⟨List.map_append, rfl⟩
  | checkout _ hb =>
    obtain ⟨b, hb⟩ := Option.isSome_iff_exists.mp hb
    rw [apply, checkout_of_found hb]
    exact ⟨rfl, rfl⟩
  | checkoutCommit _ _ hc =>
    obtain ⟨c, hc⟩ := Option.isSome_iff_exists.mp hc
    rw [apply, checkoutCommit_of_found hc]
    exact ⟨rfl, rfl⟩
  | createBranch _ _ hn =>
    rw [apply, createBranch_of_new hn]
    exact ⟨rfl, rfl⟩
  | createAndCheckoutBranch _ _ hn =>
    rw [apply, createAndCheckoutBranch_of_new hn]
    exact ⟨rfl, rfl⟩
  | merge _ hs =>
    obtain ⟨source, hsource⟩ := Option.isSome_iff_exists.mp hs
    rw [show s.createsCommit (.merge _) = true from hs, apply, merge_of_found hsource]
    exact ⟨List.map_append, rfl⟩
  | reset =>
    rw [apply]
    cases hp : s.resetParent with
    | none =>
      rw [reset_of_no_parent hp]
      exact ⟨rfl, rfl⟩
    | some parent =>
      rw [reset_hard_of_parent hp]
      exact ⟨rfl, rfl⟩

theorem afterLine_of_logged (hb : Command.parse line ≠ .blank) (hc : Command.parse line ≠ .clear)
    (id : String) (now : Timestamp) :
    s.afterLine id now line =
      (s.afterAction id now (interpret s line)).record now (Text.strip line)
        (interpret s line).output (interpret s line).isError := by
  rw [afterLine, (isReply_interpret hb hc).recorded, if_pos rfl]

/-- A logged line adds its id to the commits if it makes one, and itself to the log. -/
theorem commitIds_afterLine (hb : Command.parse line ≠ .blank) (hc : Command.parse line ≠ .clear)
    (id : String) (now : Timestamp) :
    (s.afterLine id now line).commitIds =
      if s.makesCommit line then s.commitIds ++ [id] else s.commitIds := by
  rw [afterLine_of_logged hb hc]
  show (s.afterAction id now (interpret s line)).commitIds = _
  rw [afterAction, makesCommit]
  cases ha : (interpret s line).action with
  | none => rfl
  | some a => exact ((interpret_offers hc ha).commitIds_history id now).1

theorem history_afterLine (hb : Command.parse line ≠ .blank) (hc : Command.parse line ≠ .clear)
    (id : String) (now : Timestamp) :
    (s.afterLine id now line).history = s.history ++
      [{ command := Text.strip line, output := (interpret s line).output
         isError := (interpret s line).isError, timestamp := now }] := by
  rw [afterLine_of_logged hb hc]
  show (s.afterAction id now (interpret s line)).history ++ _ = _
  rw [afterAction]
  cases ha : (interpret s line).action with
  | none => rfl
  | some a => rw [((interpret_offers hc ha).commitIds_history id now).2]

end Snapshot

/-! ## Sessions with a clock that stands still -/

namespace Session

variable {source : Source} {t : Session} {line : String} {now : Timestamp}

/-- Once the action is known, only the log entry is to come. -/
theorem run_of_act {id : String} (hclock : ∀ n, source.clock n = now)
    (hact : (t.act source (t.interpret line)).snapshot =
      t.snapshot.afterAction id now (t.interpret line)) :
    (t.run source line).snapshot = t.snapshot.afterLine id now line ∧
      (t.run source line).idsTaken = (t.act source (t.interpret line)).idsTaken := by
  rw [run_eq, Snapshot.afterLine]
  show (if (t.interpret line).recorded then _ else _ : Session).snapshot =
    (if (t.interpret line).recorded then _ else _) ∧ _
  cases (t.interpret line).recorded with
  | false => exact ⟨hact, rfl⟩
  | true =>
    rw [if_pos rfl, if_pos rfl, dispatch_record, hclock, hact]
    exact ⟨rfl, rfl⟩

theorem run_of_makesCommit {id : String} {taken : Nat} (hclock : ∀ n, source.clock n = now)
    (hm : t.snapshot.makesCommit line = true)
    (hid : source.ids.unused? t.snapshot.commitIds t.idsTaken = some (id, taken)) :
    (t.run source line).snapshot = t.snapshot.afterLine id now line ∧
      (t.run source line).idsTaken = taken := by
  obtain ⟨a, ha, hc⟩ := (Option.any_eq_true _ _).mp hm
  have hact : t.act source (t.interpret line) =
      { snapshot := t.snapshot.apply id now a, idsTaken := taken
        clockReads := t.clockReads + 1 } := by
    rw [act, interpret, ha]
    simp only
    rw [dispatch_of_createsCommit hc hid, hclock]
  have hafter : (t.act source (t.interpret line)).snapshot =
      t.snapshot.afterAction id now (t.interpret line) := by
    rw [hact, Snapshot.afterAction, interpret, ha]
  have hrun := run_of_act hclock hafter
  rwa [hact] at hrun

theorem act_of_not_makesCommit (hclock : ∀ n, source.clock n = now)
    (hm : t.snapshot.makesCommit line = false) :
    t.act source (t.interpret line) =
      { t with snapshot := t.snapshot.afterAction "" now (t.interpret line) } := by
  cases ha : (t.interpret line).action with
  | none => rw [act, Snapshot.afterAction, ha]
  | some a =>
    rw [act, Snapshot.afterAction, ha]
    by_cases hc : Command.parse line = .clear
    · rw [interpret, interpret_of_clear hc] at ha
      cases ha
      rfl
    · rw [Snapshot.makesCommit_eq ha] at hm
      simp only
      rw [dispatch_of_not_createsCommit hm (interpret_offers hc ha), hclock]

theorem run_of_not_makesCommit (hclock : ∀ n, source.clock n = now)
    (hm : t.snapshot.makesCommit line = false) :
    (t.run source line).snapshot = t.snapshot.afterLine "" now line ∧
      (t.run source line).idsTaken = t.idsTaken := by
  have hact := act_of_not_makesCommit hclock hm
  have hafter : (t.act source (t.interpret line)).snapshot =
      t.snapshot.afterAction "" now (t.interpret line) := by
    rw [hact]
  have hrun := run_of_act hclock hafter
  rwa [hact] at hrun

end Session
end GitPractice
