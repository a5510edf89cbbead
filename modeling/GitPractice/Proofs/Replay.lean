import GitPractice.Proofs.Line

/-!
# The log replays to the same repository

The log holds every line that has an effect, except one that discards the log
too. So the logged lines, run again from the beginning, end where they ended,
outputs and all: `Session.replay_history`. The times are those of a clock that
stands still, and the ids are those of the commits. That the first run may have
drawn more ids, and passed over some that were taken, leaves no trace.

A search for a new id that finds none leaves a line in the log whose commit was
not made. `supplied` says that every search of a run finds one, as it does when
the ids of the source are different from some point on.
-/

namespace GitPractice

/-- The lines in the log, oldest first. -/
def Snapshot.commands (s : Snapshot) : List String := s.history.map (·.command)

namespace Session

/-- Whether the line finds a new id for its commit, if it makes one. -/
def served (source : Source) (t : Session) (line : String) : Bool :=
  !t.snapshot.makesCommit line ||
    (source.ids.unused? t.snapshot.commitIds t.idsTaken).isSome

/-- Whether every line of a run does. -/
def supplied (source : Source) : Session → List String → Bool
  | _, [] => true
  | t, line :: lines => t.served source line && supplied source (t.run source line) lines

/-- A source whose ids are different in the end serves every line. -/
theorem supplied_of_settles {source : Source} (h : source.ids.Settles) (t : Session)
    (lines : List String) : supplied source t lines = true := by
  induction lines generalizing t with
  | nil => rfl
  | cons line lines ih =>
    rw [supplied, served, h.unused?_isSome, Bool.or_true, ih]
    rfl

theorem supplied_concat (source : Source) (t : Session) (lines : List String) (line : String) :
    supplied source t (lines ++ [line]) =
      (supplied source t lines && (t.runAll source lines).served source line) := by
  induction lines generalizing t with
  | nil => simp [supplied, runAll]
  | cons first lines ih =>
    rw [List.cons_append, supplied, supplied, runAll_cons, ih, Bool.and_assoc]

theorem runAll_concat (source : Source) (t : Session) (lines : List String) (line : String) :
    t.runAll source (lines ++ [line]) = (t.runAll source lines).run source line :=
  runAll_append source t lines [line]

/-- Another session that starts from the beginning and is given the ids of the commits comes, by
running the log, to the same snapshot, with one id taken for each commit. -/
def Replays (now : Timestamp) (t : Session) : Prop :=
  ∀ second : Source, (∀ n, second.clock n = now) →
    second.ids.BeginsWith t.snapshot.commitIds →
      supplied second {} t.snapshot.commands = true ∧
      (runAll second {} t.snapshot.commands).snapshot = t.snapshot ∧
      (runAll second {} t.snapshot.commands).idsTaken = t.snapshot.commitIds.length

variable {source : Source} {t : Session} {line : String} {now : Timestamp}

theorem replays_of_empty (h : t.snapshot = .empty) : t.Replays now := by
  intro second _ _
  rw [h]
  exact ⟨rfl, rfl, rfl⟩

/-! ## The first run -/

/-- A line that is served changes the snapshot as a function of an id, which is new if the line
makes a commit, and of the time. -/
theorem run_of_served (hclock : ∀ n, source.clock n = now)
    (hserved : t.served source line = true) :
    ∃ id, (t.run source line).snapshot = t.snapshot.afterLine id now line ∧
      (if t.snapshot.makesCommit line then id ∉ t.snapshot.commitIds else id = "") := by
  cases hm : t.snapshot.makesCommit line with
  | false => exact ⟨"", (run_of_not_makesCommit hclock hm).1, rfl⟩
  | true =>
    rw [served, hm, Bool.not_true, Bool.false_or] at hserved
    obtain ⟨⟨id, taken⟩, hid⟩ := Option.isSome_iff_exists.mp hserved
    exact ⟨id, (run_of_makesCommit hclock hm hid).1, IdSource.unused?_not_mem hid⟩

/-! ## The second run -/

/-- The other session stands where the first one did and has taken one id for each commit. It
runs the logged form of the line, finds the next id of its source if it needs one, and stands where
the first one stood afterwards. -/
theorem replay_line {second : Source} {u : Session} {s : Snapshot} {id : String}
    (hclock : ∀ n, second.clock n = now) (hb : Command.parse line ≠ .blank)
    (hc : Command.parse line ≠ .clear)
    (hid : if s.makesCommit line then id ∉ s.commitIds else id = "")
    (hids : second.ids.BeginsWith (s.afterLine id now line).commitIds)
    (hsnapshot : u.snapshot = s) (htaken : u.idsTaken = s.commitIds.length) :
    u.served second (Text.strip line) = true ∧
      (u.run second (Text.strip line)).snapshot = s.afterLine id now line ∧
      (u.run second (Text.strip line)).idsTaken = (s.afterLine id now line).commitIds.length := by
  subst hsnapshot
  rw [Snapshot.commitIds_afterLine hb hc] at hids ⊢
  have hstrip := Snapshot.makesCommit_strip u.snapshot line
  rw [served, hstrip, ← Snapshot.afterLine_strip]
  cases hm : u.snapshot.makesCommit line with
  | false =>
    rw [hm] at hid hstrip
    obtain rfl : id = "" := by simpa using hid
    obtain ⟨hsnapshot, hsame⟩ := run_of_not_makesCommit hclock hstrip
    exact ⟨rfl, hsnapshot, hsame.trans htaken⟩
  | true =>
    rw [hm] at hid hids hstrip
    have hnext : second.ids.nth u.idsTaken = id := by
      rw [htaken]
      exact IdSource.BeginsWith.nth_length hids
    have hunused : second.ids.unused? u.snapshot.commitIds u.idsTaken =
        some (id, u.idsTaken + 1) := by
      rw [IdSource.unused?_of_not_mem (by rw [hnext]; simpa using hid), hnext]
    obtain ⟨hsnapshot, htaken'⟩ := run_of_makesCommit hclock hstrip hunused
    refine ⟨by rw [hunused]; rfl, hsnapshot, ?_⟩
    rw [htaken', htaken, if_pos rfl, List.length_append]
    rfl

/-- Replaying goes on after a logged line. -/
theorem Replays.run_of_logged (h : t.Replays now) (hclock : ∀ n, source.clock n = now)
    (hserved : t.served source line = true) (hb : Command.parse line ≠ .blank)
    (hc : Command.parse line ≠ .clear) : (t.run source line).Replays now := by
  obtain ⟨id, hafter, hid⟩ := run_of_served hclock hserved
  have hcommands : (t.run source line).snapshot.commands =
      t.snapshot.commands ++ [Text.strip line] := by
    rw [Snapshot.commands, hafter, Snapshot.history_afterLine hb hc, List.map_append]
    rfl
  intro second hclock' hids
  have hprefix : second.ids.BeginsWith t.snapshot.commitIds := by
    rw [hafter, Snapshot.commitIds_afterLine hb hc] at hids
    split at hids
    · exact hids.of_append
    · exact hids
  rw [hafter] at hids
  obtain ⟨hsupplied, hsnapshot, htaken⟩ := h second hclock' hprefix
  obtain ⟨hserved', hsnapshot', htaken'⟩ :=
    replay_line hclock' hb hc hid hids hsnapshot htaken
  rw [hcommands, supplied_concat, runAll_concat, hafter]
  exact ⟨by rw [hsupplied, hserved']; rfl, hsnapshot', htaken'⟩

theorem Replays.run (h : t.Replays now) (hclock : ∀ n, source.clock n = now)
    (hserved : t.served source line = true) : (t.run source line).Replays now := by
  by_cases hb : Command.parse line = .blank
  · have hsame := (run_of_not_makesCommit (t := t) hclock (Snapshot.makesCommit_of_blank hb)).1
    rw [Snapshot.afterLine_of_blank hb] at hsame
    rw [Replays, hsame]
    exact h
  · by_cases hc : Command.parse line = .clear
    · have hempty := (run_of_not_makesCommit (t := t) hclock (Snapshot.makesCommit_of_clear hc)).1
      rw [Snapshot.afterLine_of_clear hc] at hempty
      exact replays_of_empty hempty
    · exact h.run_of_logged hclock hserved hb hc

theorem Replays.runAll (h : t.Replays now) (hclock : ∀ n, source.clock n = now)
    {lines : List String} (hsupplied : supplied source t lines = true) :
    (t.runAll source lines).Replays now := by
  induction lines generalizing t with
  | nil => exact h
  | cons line lines ih =>
    rw [supplied, Bool.and_eq_true] at hsupplied
    exact ih (h.run hclock hsupplied.1) hsupplied.2

/-- Run the lines of the log in a fresh session, with the same standing clock and with a source
that shows the ids of the commits in their order: every commit finds its id, and the snapshot is
the same in all its parts. -/
theorem replay_history {second : Source} (hclock : ∀ n, source.clock n = now)
    (hclock' : ∀ n, second.clock n = now) (lines : List String)
    (hsupplied : supplied source {} lines = true)
    (hids : second.ids.BeginsWith (Session.runAll source {} lines).snapshot.commitIds) :
    supplied second {} (Session.runAll source {} lines).snapshot.commands = true ∧
      (Session.runAll second {} (Session.runAll source {} lines).snapshot.commands).snapshot =
        (Session.runAll source {} lines).snapshot := by
  have hstart : Replays now {} := replays_of_empty rfl
  obtain ⟨hall, hsnapshot, -⟩ := (hstart.runAll hclock hsupplied) second hclock' hids
  exact ⟨hall, hsnapshot⟩

/-- A session in which everything is cleared on the way, and in which an id comes up again while
a commit has it. -/
theorem replay_history_of_cleared :
    let source : Source :=
      { ids := .ofList ["a", "a", "a", "b"] IdSource.numbered, clock := fun _ => .sample }
    let lines := ["git init", "git add .", "git commit -m one", "clear", " git init ", "",
      "git add .", "git commit -m 'one'", "touch x", "git add x", "git commit -m two", "git frob"]
    let s := (Session.runAll source {} lines).snapshot
    let second : Source := { ids := .ofList s.commitIds IdSource.numbered, clock := source.clock }
    supplied source {} lines = true ∧ s.commitIds = ["a", "b"] ∧ s.commands.length = 7 ∧
      supplied second {} s.commands = true ∧
      (Session.runAll second {} s.commands).snapshot = s := by
  intro source lines s second
  have hsupplied : supplied source {} lines = true := by decide +kernel
  refine ⟨hsupplied, by decide +kernel, by decide +kernel, ?_⟩
  exact replay_history (fun _ => rfl) (fun _ => rfl) lines hsupplied
    (IdSource.beginsWith_ofList s.commitIds IdSource.numbered)

end Session
end GitPractice
