import GitPractice.Screen.Terminal
import GitPractice.Text.Blank
import GitPractice.Text.Case

/-!
# Codes

A name between two colons with no blank in it is a code. If the name stands for
an emoji, that is put in place of the code. The name may end in `-emoji` or
`-text`, which asks for one of the two looks that the emoji can have. Any other
code stays as it is.
-/

namespace GitPractice
namespace Markup

/-- The characters up to the next colon, if no blank comes before it. -/
def upToColon : List Char → Option (List Char)
  | [] => none
  | c :: cs =>
    if c = ':' then some []
    else if Text.isBlank c then none
    else (upToColon cs).map (c :: ·)

/-- The endings of a name that ask for a look, and the selectors for it. -/
def looks : List (List Char × Char) :=
  [(['-', 'e', 'm', 'o', 'j', 'i'], '\ufe0f'), (['-', 't', 'e', 'x', 't'], '\ufe0e')]

/-- What a code stands for. -/
def codeText? (emoji : Screen.EmojiTable) (content : List Char) : Option (List Char) :=
  let (name, selector) := match looks.find? fun look => look.1.isSuffixOf content with
    | some (ending, selector) => (content.take (content.length - ending.length), [selector])
    | none => (content, [])
  (emoji.sign? (Text.lower (String.ofList name))).map fun sign => sign.toList ++ selector

/-- Replace the codes in a text, of which the first `skip` characters belong to the code just read. -/
def replaceCodes (emoji : Screen.EmojiTable) (skip : Nat) : List Char → List Char
  | [] => []
  | c :: cs =>
    if 0 < skip then replaceCodes emoji (skip - 1) cs
    else if c = ':' then
      match upToColon cs with
      | some content =>
        (codeText? emoji content).getD (':' :: content ++ [':']) ++ replaceCodes emoji (content.length + 1) cs
      | none => c :: replaceCodes emoji 0 cs
    else c :: replaceCodes emoji 0 cs

end Markup
end GitPractice
