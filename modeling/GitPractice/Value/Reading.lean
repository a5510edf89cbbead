import GitPractice.Fault

/-!
# Reading values

A text that is no value of its format is left aside by those who asked for it.
Reading may also end in a fault, which they do not expect and do not deal with.
-/

namespace GitPractice

/-- Why a text is not read. -/
inductive ReadError where
  | malformed
  | fault (cause : Fault)
deriving DecidableEq, Inhabited

abbrev Reading (α : Type) := Except ReadError α

/-- The text cannot be read. -/
def malformed {α : Type} : Reading α := .error .malformed

/-- How many steps reading goes into values that stand inside each other. The interpreter of the program
allows a thousand calls inside each other, of which this many are left when a file of settings is read; with
another limit it would be another number. -/
def depthLimit : Nat := 980

/-- Values stand inside each other too deep. -/
def tooDeep {α : Type} : Reading α := .error (.fault (.tooDeep none))

/-- What is read, if it can be. -/
def Reading.ofOption {α : Type} : Option α → Reading α
  | some a => .ok a
  | none => malformed

end GitPractice
