import GitPractice.Settings.Path
import GitPractice.Text.Quoted

/-!
# Files on a disk

A disk is as many of its files as matter, each under the names that lead to it
from the root; a directory is there when a file lies below it, or when it was
made. A path is followed name by name, so every directory on it has to be there,
also one that is left again by two points.

There are no symbolic links on the disk, it never is full, and whatever is on it
may be read and written.
-/

namespace GitPractice

/-- What a file holds: text in UTF-8, or bytes that are no such text. -/
inductive Content where
  | text (s : String)
  | bytes (raw : List UInt8)
deriving DecidableEq

namespace Content

def size : Content → Nat
  | text s => s.utf8ByteSize
  | bytes raw => raw.length

/-- The text with every line ending as a line feed. -/
def lines? : Content → Option String
  | text s => some (String.ofList (unify s.toList))
  | bytes _ => none
where
  unify : List Char → List Char
    | '\r' :: '\n' :: cs => '\n' :: unify cs
    | '\r' :: cs => '\n' :: unify cs
    | c :: cs => c :: unify cs
    | [] => []

end Content

/-- Why a path does not lead where it should. -/
inductive PathError where
  /-- Nothing is there. -/
  | missing
  /-- Something is there already. -/
  | taken
  /-- A file is where a directory should be. -/
  | notADirectory
  /-- A directory is where a file should be. -/
  | isDirectory
  | nameTooLong
deriving DecidableEq

namespace PathError

/-- The number that goes with the error. -/
def number : PathError → Nat
  | missing => 2
  | taken => 17
  | notADirectory => 20
  | isDirectory => 21
  | nameTooLong => 36

def message : PathError → String
  | missing => "No such file or directory"
  | taken => "File exists"
  | notADirectory => "Not a directory"
  | isDirectory => "Is a directory"
  | nameTooLong => "File name too long"

end PathError

/-- The names that lead to a place, seen from the root. -/
abbrev Place := List String

structure Disk where
  /-- Where a path begins that does not begin at the root. -/
  current : Place := []
  files : List (Place × Content) := []
  /-- Directories that are there even without a file below them. -/
  directories : List Place := []
  /-- Files that stay empty whatever is written to them. -/
  sinks : List Place := []

namespace Disk

def file? (d : Disk) (place : Place) : Option Content :=
  if d.sinks.contains place then some (.text "") else (d.files.find? (·.1 = place)).map (·.2)

/-- Whether a directory is there; those on the way to something always are. -/
def isDirectory (d : Disk) (place : Place) : Bool :=
  place.isPrefixOf d.current || d.directories.any (place.isPrefixOf ·) ||
    (d.files.map (·.1) ++ d.sinks).any fun other => place.isPrefixOf other && other ≠ place

def isThere (d : Disk) (place : Place) : Bool := (d.file? place).isSome || d.isDirectory place

/-- The most bytes that a name may have. -/
def nameLimit : Nat := 255

/-- The most bytes that a path may have. -/
def pathLimit : Nat := 4095

/-- Go on from a place to a name in it, whether or not something has that name. -/
def step (d : Disk) (place : Place) (name : String) : Except PathError Place :=
  if (d.file? place).isSome then .error .notADirectory
  else if name = "" ∨ name = "." then .ok place
  else if name = ".." then .ok place.dropLast
  else if nameLimit < name.utf8ByteSize then .error .nameTooLong
  else .ok (place ++ [name])

/-- Go on from a place to a name that is there. -/
def enter (d : Disk) (place : Place) (name : String) : Except PathError Place := do
  let next ← d.step place name
  if d.isThere next then return next else throw .missing

/-- Where the text of a path leads. A text that ends in a slash leads to a directory or nowhere. -/
def resolve (d : Disk) (path : String) : Except PathError Place :=
  if path = "" then .error .missing
  else if pathLimit < path.utf8ByteSize then .error .nameTooLong
  else
    (Path.splitSlashes path.toList).foldlM (fun place name => d.enter place (String.ofList name))
      (if Text.startsWith path "/" then [] else d.current)

/-- Where a path leads, of which only the last name may be missing. -/
def locate (d : Disk) (p : Path) : Except PathError Place :=
  match p.names.getLast? with
  | none => d.resolve p.text
  | some name =>
    if pathLimit < p.text.utf8ByteSize then .error .nameTooLong
    else do d.step (← d.resolve p.parent.text) name

/-- Whether something is there. A path too long to be followed is an error even so. -/
def isFound (d : Disk) (p : Path) : Except PathError Bool :=
  match d.resolve p.text with
  | .ok _ => .ok true
  | .error .nameTooLong => .error .nameTooLong
  | .error _ => .ok false

/-- What the file holds that the text of a path leads to. -/
def read (d : Disk) (path : String) : Except PathError Content := do
  match d.file? (← d.resolve path) with
  | some content => return content
  | none => throw .isDirectory

/-- Put a file in its place. -/
def put (d : Disk) (place : Place) (content : Content) : Disk :=
  if d.sinks.contains place then d
  else if (d.file? place).isSome then
    { d with files := d.files.map fun f => if f.1 = place then (place, content) else f }
  else { d with files := d.files ++ [(place, content)] }

/-- Make a directory in one that is there. -/
def makeDirectory (d : Disk) (p : Path) : Except PathError Disk := do
  let place ← d.locate p
  if d.isThere place then throw .taken
  else return { d with directories := d.directories ++ [place] }

def leadsToDirectory (d : Disk) (p : Path) : Bool :=
  match d.resolve p.text with
  | .ok place => d.isDirectory place
  | .error _ => false

/-- Why something cannot be written, with the path at which that shows. -/
structure WriteError where
  path : Path
  cause : PathError
deriving DecidableEq

def WriteError.message (e : WriteError) : String :=
  "[Errno " ++ toString e.cause.number ++ "] " ++ e.cause.message ++ ": " ++ Text.quoted e.path.text

/-- A write that was given up, with the disk as it is by then: directories that were made on the way stay. -/
structure Unfinished where
  error : WriteError
  disk : Disk

/-- Make the directory at the first `n` names of a path, unless it is there; those on the way to it are
made first if they are missing. -/
def makeDirectories (d : Disk) (p : Path) (n : Nat) : Except Unfinished Disk :=
  let q : Path := { p with names := p.names.take n }
  let giveUp (d : Disk) (cause : PathError) : Except Unfinished Disk :=
    .error { error := { path := q, cause }, disk := d }
  let orThere (d : Disk) (cause : PathError) : Except Unfinished Disk :=
    if d.leadsToDirectory q then .ok d else giveUp d cause
  match n, d.makeDirectory q with
  | _, .ok d => .ok d
  | n + 1, .error .missing =>
    match makeDirectories d p n with
    | .error unfinished => .error unfinished
    | .ok d =>
      match d.makeDirectory q with
      | .ok d => .ok d
      | .error .missing => giveUp d .missing
      | .error cause => orThere d cause
  | _, .error cause => orThere d cause

/-- Write a file, with the directories on the way to it. -/
def write (d : Disk) (p : Path) (content : Content) : Except Unfinished Disk := do
  let d ← d.makeDirectories p p.parent.names.length
  match d.locate p with
  | .error cause => throw { error := { path := p, cause }, disk := d }
  | .ok place =>
    if d.isDirectory place then throw { error := { path := p, cause := .isDirectory }, disk := d }
    else return d.put place content

end Disk
end GitPractice
