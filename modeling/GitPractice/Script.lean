import GitPractice.Text.Blank

/-!
# Scripts

A script holds a line to run on each of its lines. Blank lines and comments,
which begin with a number sign, are passed over.
-/

namespace GitPractice
namespace Script

/-- Split after every line feed; a last line without one counts if it is not empty. -/
def splitLines : List Char → List (List Char)
  | [] => []
  | c :: cs =>
    if c = '\n' then [] :: splitLines cs
    else
      match splitLines cs with
      | line :: lines => (c :: line) :: lines
      | [] => [[c]]

/-- Whether a line without blanks around it is run. -/
def isRun (line : String) : Bool := line ≠ "" && !Text.startsWith line "#"

/-- The lines to run, without the blanks around them. -/
def select (lines : List String) : List String := (lines.map Text.strip).filter isRun

/-- The lines to run of a file. -/
def lines (content : String) : List String :=
  select ((splitLines content.toList).map String.ofList)

end Script
end GitPractice
