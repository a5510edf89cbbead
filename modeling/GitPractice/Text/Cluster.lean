import GitPractice.Text.Width

/-!
# Clusters

Characters that take no columns belong to the one before them, and a joiner
takes the next character along. What belongs together is a cluster, and a text
is cut only between clusters. A cut through the middle of a wide one leaves a
space of it.
-/

namespace GitPractice
namespace Text

/-- Characters that belong together, and the columns that they take. -/
structure Cluster where
  chars : List Char
  width : Nat
deriving DecidableEq, Inhabited

namespace Cluster

/-- Take characters along without another column. -/
def join (k : Cluster) (cs : List Char) : Cluster := { k with chars := k.chars ++ cs }

/-- The cluster that a character without columns joins: the one before it, or one of its own. -/
def joinOr (k : Option Cluster) (c : Char) : Cluster :=
  match k with
  | some k => k.join [c]
  | none => { chars := [c], width := 0 }

/-- The clusters from here on. `present` is the one that is not over yet, and `last` the character that a
selector would turn into an emoji. -/
def ofChars (last : Option Char) (present : Option Cluster) : List Char → List Cluster
  | [] => present.toList
  | [c] =>
    if c = emojiSelector && last.any isWidened && present.isSome then
      [{ joinOr present c with width := (joinOr present c).width + 1 }]
    else if c = joiner || c = emojiSelector || charWidth c = 0 then [joinOr present c]
    else present.toList ++ [{ chars := [c], width := charWidth c }]
  | c :: d :: cs =>
    if c = joiner then
      match present with
      | some k => ofChars last (some (k.join [c, d])) cs
      | none => ofChars last (some { chars := [c], width := 0 }) (d :: cs)
    else if c = emojiSelector && last.any isWidened && present.isSome then
      ofChars none (some { joinOr present c with width := (joinOr present c).width + 1 }) (d :: cs)
    else if c = emojiSelector || charWidth c = 0 then ofChars last (some (joinOr present c)) (d :: cs)
    else present.toList ++ ofChars (some c) (some { chars := [c], width := charWidth c }) (d :: cs)

/-- As many clusters as fit into `width` columns. -/
def cut (width : Nat) : List Cluster → List Char
  | [] => []
  | k :: ks =>
    if width = 0 then []
    else if k.width ≤ width then k.chars ++ cut (width - k.width) ks
    else [' ']

end Cluster

def clusters (cs : List Char) : List Cluster := Cluster.ofChars none none cs

def spaces (n : Nat) : List Char := List.replicate n ' '

/-- Make a text take so many columns: fill it up with spaces, or cut it. -/
def resize (columns : Nat) (cs : List Char) : List Char :=
  if columns < width cs || columns = 0 then Cluster.cut columns (clusters cs)
  else cs ++ spaces (columns - width cs)

end Text
end GitPractice
