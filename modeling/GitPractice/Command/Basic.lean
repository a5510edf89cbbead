import GitPractice.Repo.Action
import GitPractice.Text.Blank

/-!
# Commands

What a typed line asks for. A line is read as a command without looking at the
repository; a command that lacks an argument keeps the gap, since what is
answered about a gap depends on the state. Only the words count, so every line
with the same words is the same command.
-/

namespace GitPractice

/-- What follows the word `git`. -/
inductive GitCommand where
  /-- Nothing follows. -/
  | missing
  | unrecognized (word : String)
  | init
  | add (target : Option String)
  /-- This is `none` unless the arguments are `-m` and at least one word; else the cleaned message. -/
  | commit (message : Option String)
  | checkout (target : Option String)
  | checkoutNew (name : String)
  | branch (name : Option String)
  | merge (name : Option String)
  | status
  | log
  /-- Whether the arguments are the only ones that a reset takes. -/
  | reset (wellFormed : Bool)
deriving DecidableEq, Inhabited

inductive Command where
  /-- A line without a word. -/
  | blank
  | git (command : GitCommand)
  | touch (name : Option String)
  /-- Write to a file; what is written is not kept. -/
  | write (name : String)
  | echo (text : String)
  | clear
  | help
  | unknown (word : String)
deriving DecidableEq, Inhabited

/-- A commit message is given in quotes of either kind, which are not part of it wherever they
stand. -/
def cleanMessage (words : List String) : String :=
  Text.strip (String.ofList ((Text.join " " words).toList.filter fun c => c ≠ '"' && c ≠ '\''))

namespace GitCommand

/-- Arguments of `git checkout`: `-b` alone lacks its branch just as no argument does. -/
def ofCheckout : List String → GitCommand
  | [] => checkout none
  | target :: rest =>
    if target = "-b" then
      match rest with
      | [] => checkout none
      | name :: _ => checkoutNew name
    else checkout (some target)

def ofCommit : List String → GitCommand
  | flag :: word :: rest => commit (if flag = "-m" then some (cleanMessage (word :: rest)) else none)
  | _ => commit none

/-- Read the words after `git`. Arguments that a command has no use for are passed over. -/
def ofWords : List String → GitCommand
  | [] => missing
  | "init" :: _ => init
  | "add" :: args => add args.head?
  | "commit" :: args => ofCommit args
  | "checkout" :: args => ofCheckout args
  | "branch" :: args => branch args.head?
  | "merge" :: args => merge args.head?
  | "status" :: _ => status
  | "log" :: _ => log
  | "reset" :: args => reset (args == ["--hard", resetTarget])
  | word :: _ => unrecognized word

end GitCommand

namespace Command

/-- The words that send what is echoed to a file. -/
def redirections : List String := [">", ">>"]

/-- An `echo` writes to a file when its last words are a redirection and a name, with something to
write before them. -/
def ofEcho (args : List String) : Command :=
  match args.reverse with
  | name :: mark :: _ :: _ => if mark ∈ redirections then write name else echo (Text.join " " args)
  | _ => echo (Text.join " " args)

def ofWords : List String → Command
  | [] => blank
  | "git" :: args => git (GitCommand.ofWords args)
  | "touch" :: args => touch args.head?
  | "echo" :: args => ofEcho args
  | "clear" :: _ => clear
  | "help" :: _ => help
  | word :: _ => unknown word

/-- Read a line. -/
def parse (line : String) : Command := ofWords (Text.words line)

example : parse "  git  commit -m \"it's done\" " = git (.commit (some "its done")) := by
  decide +kernel
example : parse "echo > a" = echo "> a" := by decide +kernel
example : parse "echo x >> a" = write "a" := by decide +kernel

end Command
end GitPractice
