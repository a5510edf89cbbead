import GitPractice.Text.Blank

/-!
# Terminals

What is shown depends on where: lines are broken and tables shrunk to the columns
of the terminal, and a name between colons, such as `bug`, may stand for an
emoji. Which names do is up to the library that draws, and is a parameter here.

A terminal shows no colours, so that of a style nothing is left but whether it can
be made sense of. It has all characters, those of boxes too, and its width stays
what it is.
-/

namespace GitPractice
namespace Screen

/-- The names that stand for emoji. -/
structure EmojiTable where
  sign? : String → Option String := fun _ => none
  /-- An emoji has no blank, and no character that means something in markup. -/
  clean : ∀ {name sign}, sign? name = some sign →
    ∀ c ∈ sign.toList, Text.isBlank c = false ∧ c ≠ '[' ∧ c ≠ '\\' ∧ c ≠ ':' := by nofun

structure Terminal where
  columns : Nat
  emoji : EmojiTable := {}

namespace Terminal

/-- A terminal on which no line of a usual length is broken, and no name stands for an emoji. -/
def wide : Terminal := { columns := 10000 }

/-- The terminal that is assumed where nothing is known of it. -/
def usual : Terminal := { columns := 80 }

end Terminal

end Screen
end GitPractice
