import GitPractice.Proofs.Run
import GitPractice.Shell

/-!
# What the session gets to see of a shell

A shell and its session take a line apart in different ways: the one looks for a
verb of letters, digits and underscores, the other for words between blanks. So
`git,status` has the verb `git` and is one word, and `graph!` draws the graph
although the session would not know it. `sessionForm` says of every line what
the session is given in its place, if anything, in terms of the line alone.

The main statement is `Shell.session_feedAll`: a shell leaves its session where
running these forms one after the other leaves it. What is drawn, and whether
drawing it fails, has no part in it.
-/

namespace GitPractice

namespace Shell

/-- The letters, digits and underscores that a line begins with, apart from blanks. -/
def verb (line : String) : String :=
  String.ofList ((Text.strip line).toList.takeWhile ShellCommand.isVerbChar)

/-- What follows the verb, without the blanks around it. -/
def argument (line : String) : String :=
  Text.strip (String.ofList ((Text.strip line).toList.dropWhile ShellCommand.isVerbChar))

/-- The verbs that the shell keeps to itself. -/
def ownVerbs : List String := ["graph", "panel", "history", "topics", "exit", "quit", "EOF"]

/-- The line that the session is given in place of a line of the shell. -/
def sessionForm (line : String) : Option String :=
  if Text.strip line = "" then none
  else if (Text.strip line).toList.head? = some '?' then
    some ("help " ++ Text.strip (String.ofList ((Text.strip line).toList.drop 1)))
  else if verb line = "help" then some ("help " ++ argument line)
  else if verb line ∈ ownVerbs then none
  else some line

theorem verb_of_question {line : String} (h : (Text.strip line).toList.head? = some '?') :
    verb line = "" := by
  obtain ⟨rest, hrest⟩ := List.head?_eq_some_iff.mp h
  rw [verb, hrest]
  rfl

theorem sessionForm_eq_none_iff (line : String) :
    sessionForm line = none ↔ Text.strip line = "" ∨ verb line ∈ ownVerbs := by
  rw [sessionForm]
  by_cases hempty : Text.strip line = ""
  · simp [hempty]
  · rw [if_neg hempty]
    by_cases hmark : (Text.strip line).toList.head? = some '?'
    · -- A question mark is no part of a verb, so the verb is empty.
      have hother : verb line ∉ ownVerbs := by
        rw [verb_of_question hmark]
        decide
      simp [hempty, hmark, hother]
    · rw [if_neg hmark]
      by_cases hhelp : verb line = "help"
      · have hother : "help" ∉ ownVerbs := by decide
        simp [hempty, hhelp, hother]
      · simp [hempty, hhelp]

/-! ## Reading a line -/

theorem sessionLine_ofVerb (cs : List Char) :
    (ShellCommand.ofVerb cs).sessionLine =
      if String.ofList (cs.takeWhile ShellCommand.isVerbChar) = "help" then
        some (Text.strip ("help " ++
          String.ofList (Text.stripChars (cs.dropWhile ShellCommand.isVerbChar))))
      else if String.ofList (cs.takeWhile ShellCommand.isVerbChar) ∈ ownVerbs then none
      else some (String.ofList cs) := by
  unfold ShellCommand.ofVerb
  split <;> simp_all [ShellCommand.sessionLine, ownVerbs]

theorem strip_ofList (cs : List Char) :
    Text.strip (String.ofList cs) = String.ofList (Text.stripChars cs) := by
  rw [Text.strip, String.toList_ofList]

theorem parse_of_ne_question {line : String} {c : Char} {cs : List Char}
    (hcs : Text.stripChars line.toList = c :: cs) (hc : c ≠ '?') :
    ShellCommand.parse line = .ofVerb (c :: cs) := by
  rw [ShellCommand.parse, hcs]
  split
  · next h => cases h
  · next h => exact absurd (List.cons.inj h).1 hc
  · rfl

theorem sessionLine_parse (line : String) :
    (ShellCommand.parse line).sessionLine = (sessionForm line).map Text.strip := by
  have hchars : (Text.strip line).toList = Text.stripChars line.toList := String.toList_ofList
  have hempty : Text.strip line = "" ↔ Text.stripChars line.toList = [] := by
    rw [← hchars, String.toList_eq_nil_iff]
  -- Both sides depend on the characters of the stripped line only.
  simp only [sessionForm, verb, argument, hempty, hchars, strip_ofList]
  cases hcs : Text.stripChars line.toList with
  | nil =>
    rw [ShellCommand.parse, hcs]
    rfl
  | cons c cs =>
    rw [if_neg (List.cons_ne_nil c cs), List.head?_cons]
    by_cases hc : c = '?'
    · subst hc
      rw [ShellCommand.parse, hcs, if_pos rfl]
      rfl
    · rw [parse_of_ne_question hcs hc, if_neg (by simpa using hc), sessionLine_ofVerb]
      split_ifs
      · rfl
      · rfl
      · rw [Option.map_some, Text.strip, hcs]

/-! ## Shells in use -/

theorem feed_eq (source : Source) (sh : Shell) (line : String) :
    (sh.feed source line).1 =
      { sh with session := sh.session.runAll source (sessionForm line).toList } := by
  show sh.runSession source (ShellCommand.parse line) = _
  rw [runSession, sessionLine_parse]
  cases sessionForm line with
  | none => rfl
  | some form =>
    show { sh with session := sh.session.run source (Text.strip form) } = _
    rw [Session.run_strip]
    rfl

theorem feedAll_eq_runAll (source : Source) (sh : Shell) (lines : List String) :
    sh.feedAll source lines =
      { sh with session := sh.session.runAll source (lines.filterMap sessionForm) } := by
  induction lines generalizing sh with
  | nil => rfl
  | cons line lines ih =>
    show (sh.feed source line).1.feedAll source lines = _
    rw [ih, feed_eq]
    simp only
    rw [← Session.runAll_append]
    cases hform : sessionForm line with
    | none => rw [List.filterMap_cons_none hform]; rfl
    | some form => rw [List.filterMap_cons_some hform]; rfl

/-- In whatever state a shell is and whatever is typed: its session ends where running the session
forms of the lines ends, with as many ids and readings of the clock taken, and a line that is blank
or has a verb of the shell's own leaves everything as it is, also when it cannot be drawn. -/
theorem session_feedAll (source : Source) (sh : Shell) (lines : List String) :
    (sh.feedAll source lines).session = sh.session.runAll source (lines.filterMap sessionForm) ∧
      ∀ line, Text.strip line = "" ∨ verb line ∈ ownVerbs → (sh.feed source line).1 = sh := by
  refine ⟨by rw [feedAll_eq_runAll], fun line hline => ?_⟩
  rw [feed_eq, (sessionForm_eq_none_iff line).mpr hline]
  rfl

end Shell
end GitPractice
