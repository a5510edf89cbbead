import GitPractice.Text.Blank
import GitPractice.Text.Case
import GitPractice.Text.Numeral

/-!
# Names of styles

A style is named by words: attributes, which may be abbreviated or denied, a
colour, a background colour, and a link. Two names of one style are the same tag
in markup, so each has a canonical form: the attributes in a fixed order, then
the colours, then the link. A name that is none of a style stands for itself in
small letters.
-/

namespace GitPractice
namespace Style

/-- The names of the palette. -/
def colorNames : List String :=
  ["black", "red", "green", "yellow", "blue", "magenta", "cyan", "white", "bright_black",
   "bright_red", "bright_green", "bright_yellow", "bright_blue", "bright_magenta", "bright_cyan",
   "bright_white", "grey0", "gray0", "navy_blue", "dark_blue", "blue3", "blue1", "dark_green",
   "deep_sky_blue4", "dodger_blue3", "dodger_blue2", "green4", "spring_green4", "turquoise4",
   "deep_sky_blue3", "dodger_blue1", "green3", "spring_green3", "dark_cyan", "light_sea_green",
   "deep_sky_blue2", "deep_sky_blue1", "spring_green2", "cyan3", "dark_turquoise", "turquoise2",
   "green1", "spring_green1", "medium_spring_green", "cyan2", "cyan1", "dark_red", "deep_pink4",
   "purple4", "purple3", "blue_violet", "orange4", "grey37", "gray37", "medium_purple4",
   "slate_blue3", "royal_blue1", "chartreuse4", "dark_sea_green4", "pale_turquoise4",
   "steel_blue", "steel_blue3", "cornflower_blue", "chartreuse3", "cadet_blue", "sky_blue3",
   "steel_blue1", "pale_green3", "sea_green3", "aquamarine3", "medium_turquoise", "chartreuse2",
   "sea_green2", "sea_green1", "aquamarine1", "dark_slate_gray2", "dark_magenta", "dark_violet",
   "purple", "light_pink4", "plum4", "medium_purple3", "slate_blue1", "yellow4", "wheat4",
   "grey53", "gray53", "light_slate_grey", "light_slate_gray", "medium_purple",
   "light_slate_blue", "dark_olive_green3", "dark_sea_green", "light_sky_blue3", "sky_blue2",
   "dark_sea_green3", "dark_slate_gray3", "sky_blue1", "chartreuse1", "light_green",
   "pale_green1", "dark_slate_gray1", "red3", "medium_violet_red", "magenta3", "dark_orange3",
   "indian_red", "hot_pink3", "medium_orchid3", "medium_orchid", "medium_purple2",
   "dark_goldenrod", "light_salmon3", "rosy_brown", "grey63", "gray63", "medium_purple1",
   "gold3", "dark_khaki", "navajo_white3", "grey69", "gray69", "light_steel_blue3",
   "light_steel_blue", "yellow3", "dark_sea_green2", "light_cyan3", "light_sky_blue1",
   "green_yellow", "dark_olive_green2", "dark_sea_green1", "pale_turquoise1", "deep_pink3",
   "magenta2", "hot_pink2", "orchid", "medium_orchid1", "orange3", "light_pink3", "pink3",
   "plum3", "violet", "light_goldenrod3", "tan", "misty_rose3", "thistle3", "plum2", "khaki3",
   "light_goldenrod2", "light_yellow3", "grey84", "gray84", "light_steel_blue1", "yellow2",
   "dark_olive_green1", "honeydew2", "light_cyan1", "red1", "deep_pink2", "deep_pink1",
   "magenta1", "orange_red1", "indian_red1", "hot_pink", "dark_orange", "salmon1", "light_coral",
   "pale_violet_red1", "orchid2", "orchid1", "orange1", "sandy_brown", "light_salmon1",
   "light_pink1", "pink1", "plum1", "gold1", "navajo_white1", "misty_rose1", "thistle1",
   "yellow1", "light_goldenrod1", "khaki1", "wheat1", "cornsilk1", "grey100", "gray100", "grey3",
   "gray3", "grey7", "gray7", "grey11", "gray11", "grey15", "gray15", "grey19", "gray19",
   "grey23", "gray23", "grey27", "gray27", "grey30", "gray30", "grey35", "gray35", "grey39",
   "gray39", "grey42", "gray42", "grey46", "gray46", "grey50", "gray50", "grey54", "gray54",
   "grey58", "gray58", "grey62", "gray62", "grey66", "gray66", "grey70", "gray70", "grey74",
   "gray74", "grey78", "gray78", "grey82", "gray82", "grey85", "gray85", "grey89", "gray89",
   "grey93", "gray93"]

/-- The attributes in canonical order, each with its abbreviations. -/
def attributes : List (String × List String) :=
  [("bold", ["b"]), ("dim", ["d"]), ("italic", ["i"]), ("underline", ["u"]), ("blink", []),
   ("blink2", []), ("reverse", ["r"]), ("conceal", ["c"]), ("strike", ["s"]), ("underline2", ["uu"]),
   ("frame", []), ("encircle", []), ("overline", ["o"])]

def attribute? (word : String) : Option String :=
  (attributes.find? fun a => a.1 = word || a.2.contains word).map (·.1)

def isHexDigit (c : Char) : Bool := ('0' ≤ c && c ≤ '9') || ('a' ≤ c && c ≤ 'f')

/-- The text between `start` and the closing bracket at the end. -/
def argument? (start : String) (cs : List Char) : Option (List Char) :=
  if start.toList.isPrefixOf cs then
    match (cs.drop start.length).reverse with
    | ')' :: rest => some rest.reverse
    | _ => none
  else none

/-- Split at every comma. -/
def splitCommas : List Char → List (List Char)
  | [] => [[]]
  | c :: cs =>
    if c = ',' then [] :: splitCommas cs
    else
      match splitCommas cs with
      | part :: parts => (c :: part) :: parts
      | [] => [[c]]

/-- Whether a number is one of the 256 steps of a component. -/
def isStep (n : Int) : Bool := 0 ≤ n && n ≤ 255

/-- Whether the components of a colour are three steps. They must be numbers even to be refused. -/
def isTriplet (components : List Char) : Except Text.IntegerError Bool :=
  let parts := splitCommas components
  if parts.length = 3 then
    (parts.mapM fun cs => Text.readInteger (String.ofList cs)).map (·.all isStep)
  else .ok false

/-- Whether the word, in small letters, is a colour: one of the palette by name or number, or one
by its components. -/
def isColor (word : String) : Except Text.IntegerError Bool :=
  let cs := word.toList
  match argument? "rgb(" cs with
  | some components =>
    if components.all fun c => (Text.decimalValue? c).isSome || c = ',' || Text.isBlank c then
      isTriplet components
    else .ok false
  | none =>
    .ok (word = "default" || colorNames.contains word ||
      (match cs with
        | '#' :: digits => digits.length = 6 && digits.all isHexDigit
        | _ => false) ||
      (match argument? "color(" cs with
        | some digits =>
          1 ≤ digits.length && digits.length ≤ 3 && digits.all (fun c => '0' ≤ c && c ≤ '9') &&
            isStep (Text.readDigits 0 0 digits).1
        | none => false))

/-- What the words of a name say so far. -/
structure Definition where
  settings : List (String × Bool) := []
  color : Option String := none
  background : Option String := none
  link : Option String := none

/-- Read the words of a name; nothing if they name no style. -/
def define (d : Definition) : List String → Except Text.IntegerError (Option Definition)
  | [] => .ok (some d)
  | word :: rest =>
    let small := Text.lower word
    match small, rest with
    | "on", [] => .ok none
    | "on", color :: rest => do
      let color := Text.lower color
      if ← isColor color then define { d with background := some color } rest else return none
    | "not", [] => .ok none
    | "not", denied :: rest =>
      match attribute? denied with
      | some a => define { d with settings := (a, false) :: d.settings } rest
      | none => .ok none
    | "link", [] => .ok none
    | "link", target :: rest => define { d with link := some target } rest
    | small, rest =>
      match attribute? small with
      | some a => define { d with settings := (a, true) :: d.settings } rest
      | none => do
        if ← isColor small then define { d with color := some small } rest else return none

/-- The canonical words of a style; what is said last counts. -/
def Definition.words (d : Definition) : List String :=
  attributes.flatMap (fun a =>
      match d.settings.find? (·.1 = a.1) with
      | some (name, true) => [name]
      | some (name, false) => ["not", name]
      | none => []) ++
    d.color.toList ++
    (match d.background with
      | some color => ["on", color]
      | none => []) ++
    (match d.link with
      | some target => ["link", target]
      | none => [])

/-- Read a name; nothing if it names no style. -/
def read (name : String) : Except Text.IntegerError (Option Definition) :=
  if Text.strip name = "none" then .ok (some {}) else define {} (Text.words name)

/-- The form under which a name is compared with others. -/
def canonical (name : String) : Except Text.IntegerError String := do
  match ← read name with
  | some d => return if d.words.isEmpty then "none" else Text.join " " d.words
  | none => return Text.lower (Text.strip name)

end Style
end GitPractice
