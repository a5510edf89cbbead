import GitPractice.CommandLine.Program
import Std.Time

/-!
# The executable

The outer layer: it collects what the program is given, prints what the program
prints, and writes the files that it wrote. A terminal is served line by line,
so that every answer appears as soon as its line is typed.
-/

namespace GitPractice
namespace Executable

/-- The time of the clock on the wall. -/
def now : IO Timestamp := do
  let t ← Std.Time.PlainDateTime.now
  return (Timestamp.ofFields? t.year.toInt.toNat t.month.val.toNat t.day.val.toNat t.hour.val.toNat
    t.minute.val.toNat t.second.val.toNat (t.nanosecond.val.toNat / 1000)).getD .sample

/-- Seven hexadecimal digits out of a seed and a position. -/
def hexId (seed n : Nat) : String :=
  let mixed := (seed + (n + 1) * 0x9e3779b97f4a7c15) % 0x10000000000000000
  let mixed := ((mixed ^^^ (mixed / 0x40000000)) * 0xbf58476d1ce4e5b9) % 0x10000000000000000
  String.ofList (Text.hexDigits 7 (mixed / 0x80000000))

def sourceOf (seed : Nat) (time : Timestamp) : Source :=
  { ids := { nth := hexId seed, patience := 1000 }, clock := fun _ => time }

def newSeed : IO Nat := do
  let bytes ← IO.getRandomBytes 8
  return bytes.toList.foldl (fun n b => 256 * n + b.toNat) 0

/-- The variables that are set, from the list that the system keeps of them. -/
def readEnvironment : IO (List Settings.Variable) := do
  let bytes ← IO.FS.readBinFile "/proc/self/environ"
  let text := (String.fromUTF8? bytes).getD ""
  return (text.splitOn "\x00").filterMap fun entry =>
    match entry.splitOn "=" with
    | name :: value :: rest => some (name, "=".intercalate (value :: rest))
    | _ => none

/-- The home directory of the user whom the process runs for, from the list of users. -/
def readAccount : IO (Option String) := do
  let fieldsOf (path separator : String) : IO (List (List String)) := do
    try return ((← IO.FS.readFile path).splitOn "\n").map (·.splitOn separator)
    catch _ => return []
  let status ← fieldsOf "/proc/self/status" "\t"
  let user := (status.find? (·.head? = some "Uid:")).bind (·[1]?)
  let users ← fieldsOf "/etc/passwd" ":"
  return (users.find? fun fields => user.isSome && fields[2]? = user).bind (·[5]?)

/-- The terminal with the width that a variable gives it, or else a usual one. -/
def terminalOf (home : Settings.Home) : Screen.Terminal :=
  ((home.valueOf? "COLUMNS").bind String.toNat?).elim .usual fun columns => { Screen.Terminal.usual with columns }

def readContent (path : String) : IO (Option Content) := do
  try
    let bytes ← IO.FS.readBinFile path
    match String.fromUTF8? bytes with
    | some text => return some (.text text)
    | none => return some (.bytes bytes.toList)
  catch _ => return none

def isDirectory (path : String) : IO Bool := do
  try (← IO.FS.realPath path).isDir
  catch _ => return false

/-- Add what is at a path. -/
def explore (disk : Disk) (path : String) : IO Disk := do
  let start := if Text.startsWith path "/" then [] else disk.current
  let place := (Path.ofText path).names.foldl
    (fun place name => if name = ".." then place.dropLast else place ++ [name]) start
  if ← isDirectory path then return { disk with directories := place :: disk.directories }
  match ← readContent path with
  | some content => return disk.put place content
  | none => return disk

/-- What may matter: all that is on the way to a file for settings or to one that the arguments name. -/
def diskOf (current : Path) (paths : List String) : IO Disk := do
  let mut disk : Disk := { current := current.names }
  for path in paths do
    let names := (Path.splitSlashes path.toList).map String.ofList
    for n in List.range names.length do
      disk ← explore disk (Text.join "/" (names.take (n + 1)))
  return disk

def invocation (arguments : List String) : IO Invocation := do
  let environment ← readEnvironment
  let start : Settings.Home := { disk := {}, environment, account := ← readAccount }
  let current := Path.ofText (toString (← IO.currentDir))
  let named := (start.valueOf? Settings.fileVariable).toList
  let standard := match start.directory with
    | .ok directory => Settings.fileNames.map fun name => (directory.child name).text
    | .error _ => []
  let disk ← diskOf current (standard ++ named ++ arguments)
  return { arguments, home := { start with disk }, terminal := terminalOf start }

/-- Make the directories that are new, and write the files that are new or changed. -/
def writeFiles (before after : Disk) : IO Unit := do
  for place in after.directories do
    unless before.isThere place do
      IO.FS.createDirAll (Path.text { root := "/", names := place })
  for (place, content) in after.files do
    unless before.file? place = some content do
      let path : Path := { root := "/", names := place }
      IO.FS.createDirAll path.parent.text
      match content with
      | .text s => IO.FS.writeFile path.text s
      | .bytes raw => IO.FS.writeBinFile path.text (ByteArray.mk raw.toArray)

partial def serve (seed : Nat) (input output errors : IO.FS.Stream) (sh : Shell) : IO UInt32 := do
  match sh.shownPrompt with
  | .error fault => fail fault
  | .ok text =>
    output.putStr text
    output.flush
    let line ← input.getLine
    if line.isEmpty then
      output.putStr (sh.drawing .endOfInput).print.1
      return 0
    let (next, reply) := sh.feed (sourceOf seed (← now)) line
    output.putStr reply.printed
    match reply.fault with
    | some fault => fail fault
    | none => if reply.stop then return 0 else serve seed input output errors next
where
  fail (fault : Fault) : IO UInt32 := do
    errors.putStr (Shell.failureText fault)
    return 1

def statusOf : Except Ending Unit → UInt32
  | .ok () => 0
  | .error (.exit status) => UInt32.ofNat status.toNat
  | .error (.fault _) => 1

def run (arguments : List String) : IO UInt32 := do
  let input ← IO.getStdin
  let output ← IO.getStdout
  let errors ← IO.getStderr
  let seed ← newSeed
  let source := sourceOf seed (← now)
  let inv ← invocation arguments
  let text ← if arguments.contains "-" then readAll input else pure ""
  let inv := { inv with input := text }
  let (plan, p) := (Program.plan source inv).run { home := inv.home }
  match plan with
  | .ok (.serve sh) =>
    output.putStr p.output
    errors.putStr p.errors
    serve seed input output errors sh
  | .ok (.finish work) =>
    let (result, p) := work.run p
    finish output errors inv result p
  | .error ending => finish output errors inv (.error ending) p
where
  finish (output errors : IO.FS.Stream) (inv : Invocation) (result : Except Ending Unit) (p : Progress) :
      IO UInt32 := do
    writeFiles inv.home.disk p.home.disk
    output.putStr p.output
    errors.putStr p.errors
    match result with
    | .error (.fault fault) => errors.putStrLn fault.message
    | _ => pure ()
    return statusOf result
  readAll (input : IO.FS.Stream) : IO String := do
    let mut text := ""
    let mut more := true
    while more do
      let line ← input.getLine
      if line.isEmpty then more := false else text := text ++ line
    return text

end Executable
end GitPractice

def main (arguments : List String) : IO UInt32 := GitPractice.Executable.run arguments
