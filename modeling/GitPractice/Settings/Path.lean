import GitPractice.Text.Blank
import GitPractice.Text.Case

/-!
# Paths

A path is where it begins and the names on the way. Reading one drops what makes
no difference to where it leads as long as all of its directories are there:
empty names, single points, and a slash at the end.
-/

namespace GitPractice

structure Path where
  /-- The slashes before the first name. Two of them stand for another beginning than one, and three or
  more for the same as one. -/
  root : String := ""
  names : List String
deriving DecidableEq, Inhabited

namespace Path

/-- Split at the slashes. -/
def splitSlashes : List Char → List (List Char)
  | [] => [[]]
  | c :: cs =>
    if c = '/' then [] :: splitSlashes cs
    else
      match splitSlashes cs with
      | name :: names => (c :: name) :: names
      | [] => [[c]]

def rootOf (cs : List Char) : String :=
  match (cs.takeWhile (· = '/')).length with
  | 0 => ""
  | 2 => "//"
  | _ => "/"

/-- Read a path; empty names and single points do not count. -/
def ofText (s : String) : Path where
  root := rootOf s.toList
  names := ((splitSlashes s.toList).filter fun name => name ≠ [] && name ≠ ['.']).map String.ofList

def text (p : Path) : String :=
  let whole := p.root ++ Text.join "/" p.names
  if whole = "" then "." else whole

def child (p : Path) (name : String) : Path := { p with names := p.names ++ [name] }

def parent (p : Path) : Path := { p with names := p.names.dropLast }

def lastName (p : Path) : List Char := (p.names.getLast?.getD "").toList

/-- The ending of a name from its last point on. A name has none when nothing stands before or behind
that point. -/
def endingOf (name : List Char) : List Char :=
  let reversed := name.reverse
  let ending := reversed.takeWhile (· ≠ '.')
  if ending.length + 1 < name.length ∧ ending ≠ [] then '.' :: ending.reverse else []

/-- The ending in small letters. -/
def ending (p : Path) : String := Text.lower (String.ofList (endingOf p.lastName))

/-- The path with another ending. -/
def withEnding (p : Path) (ending : String) : Path :=
  let name := p.lastName
  { p with names := p.names.dropLast ++
      [String.ofList (name.take (name.length - (endingOf name).length)) ++ ending] }

end Path
end GitPractice
