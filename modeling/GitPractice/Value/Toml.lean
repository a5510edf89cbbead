import GitPractice.Text.Blank
import GitPractice.Value.Json.Parse
import GitPractice.Value.Reading

/-!
# Reading TOML

A file of settings in TOML: keys with their values, tables under headings, and
arrays of tables. A key is given a value once, and a table has one heading. An
inline table is complete as it stands. A date, a time, or both with or without
the distance from universal time are values of their own.

The readers take characters from the front and give back the rest; arrays and
inline tables nest, for which a budget of twice the number of characters is
enough. How deep they may nest is limited besides: an array takes two steps of
the limit and an inline table three.
-/

namespace GitPractice
namespace Toml

def isSpace (c : Char) : Bool := c = ' ' || c = '\t'

def skipSpaces (cs : List Char) : List Char := cs.dropWhile isSpace

/-- Controls, which may not stand in a text or a comment. A tab may. -/
def isForbidden (c : Char) : Bool := (c.toNat < 32 && c ≠ '\t') || c.toNat = 127

/-- What is left of the line after a comment, if there is one and it is a proper one. -/
def skipComment (cs : List Char) : Option (List Char) :=
  match cs with
  | '#' :: rest =>
    if (rest.takeWhile (· ≠ '\n')).any isForbidden then none else some (rest.dropWhile (· ≠ '\n'))
  | cs => some cs

/-- Skip spaces, line ends and comments between the items of an array. -/
def skipBetween : Nat → List Char → Option (List Char)
  | 0, _ => none
  | fuel + 1, cs =>
    match cs.dropWhile fun c => isSpace c || c = '\n' with
    | '#' :: rest => (skipComment ('#' :: rest)).bind (skipBetween fuel)
    | rest => some rest

/-- The character that stands for a code point, which a surrogate is not. -/
def charOfCode? (n : Nat) : Option Char :=
  if n < 0xd800 ∨ (0xe000 ≤ n ∧ n < 0x110000) then some (Char.ofNat n) else none

/-- The value of hexadecimal digits. -/
def hexCode? (cs : List Char) : Option Nat :=
  cs.foldlM (fun n c => (Json.hexValue? c).map (16 * n + ·)) 0

def simpleEscape? : Char → Option Char
  | '"' => some '"'
  | '\\' => some '\\'
  | 'b' => some '\x08'
  | 'f' => some '\x0c'
  | 'n' => some '\n'
  | 'r' => some '\r'
  | 't' => some '\t'
  | _ => none

/-- Read a text in double quotes after the opening one. With `many` it may go over line ends, it is
closed by three quotes, and a backslash at the end of a line joins it with the next one. -/
def readBasic (many : Bool) : Nat → List Char → List Char → Option (String × List Char)
  | 0, _, _ => none
  | fuel + 1, acc, cs =>
    match cs with
    | [] => none
    | '"' :: rest =>
      if !many then some (String.ofList acc.reverse, rest)
      else
        match rest with
        | '"' :: '"' :: '"' :: '"' :: rest => some (String.ofList ('"' :: '"' :: acc).reverse, rest)
        | '"' :: '"' :: '"' :: rest => some (String.ofList ('"' :: acc).reverse, rest)
        | '"' :: '"' :: rest => some (String.ofList acc.reverse, rest)
        | rest => readBasic many fuel ('"' :: acc) rest
    | '\\' :: 'u' :: a :: b :: c :: d :: rest =>
      ((hexCode? [a, b, c, d]).bind charOfCode?).bind fun x => readBasic many fuel (x :: acc) rest
    | '\\' :: 'U' :: a :: b :: c :: d :: e :: f :: g :: h :: rest =>
      ((hexCode? [a, b, c, d, e, f, g, h]).bind charOfCode?).bind fun x =>
        readBasic many fuel (x :: acc) rest
    | '\\' :: e :: rest =>
      match simpleEscape? e with
      | some x => readBasic many fuel (x :: acc) rest
      | none =>
        match many, skipSpaces (e :: rest) with
        | true, '\n' :: rest => readBasic many fuel acc (rest.dropWhile fun c => isSpace c || c = '\n')
        | _, _ => none
    | c :: rest =>
      if c = '\\' || (isForbidden c && !(many && c = '\n')) then none
      else readBasic many fuel (c :: acc) rest

/-- Read a text in single quotes after the opening one; there are no escapes in it. -/
def readLiteral (many : Bool) : List Char → List Char → Option (String × List Char)
  | _, [] => none
  | acc, '\'' :: rest =>
    if !many then some (String.ofList acc.reverse, rest)
    else
      match rest with
      | '\'' :: '\'' :: '\'' :: '\'' :: rest => some (String.ofList ('\'' :: '\'' :: acc).reverse, rest)
      | '\'' :: '\'' :: '\'' :: rest => some (String.ofList ('\'' :: acc).reverse, rest)
      | '\'' :: '\'' :: rest => some (String.ofList acc.reverse, rest)
      | rest => readLiteral many ('\'' :: acc) rest
  | acc, c :: rest =>
    if isForbidden c && !(many && c = '\n') then none else readLiteral many (c :: acc) rest

/-- A text over several lines does not begin with the line end after its opening quotes. -/
def dropLineEnd : List Char → List Char
  | '\n' :: rest => rest
  | cs => cs

def isBareChar (c : Char) : Bool := c.isAlphanum || c = '_' || c = '-'

/-- Read one name of a key. -/
def readName (cs : List Char) : Option (String × List Char) :=
  match cs with
  | '"' :: rest => readBasic false (rest.length + 1) [] rest
  | '\'' :: rest => readLiteral false [] rest
  | cs =>
    match cs.takeWhile isBareChar with
    | [] => none
    | name => some (String.ofList name, cs.dropWhile isBareChar)

/-- Read a key: names with points between them. -/
def readKey : Nat → List Char → Option (List String × List Char)
  | 0, _ => none
  | fuel + 1, cs => do
    let (name, rest) ← readName cs
    match skipSpaces rest with
    | '.' :: rest =>
      let (names, rest) ← readKey fuel (skipSpaces rest)
      return (name :: names, rest)
    | rest => return ([name], rest)

/-- Read digits with single underscores between them, the first of which is not optional. -/
def readDigits (digit? : Char → Option Nat) (base : Nat) (cs : List Char) : Option (Nat × Nat × List Char) :=
  match cs with
  | c :: rest => (digit? c).map fun d => more d 1 rest
  | [] => none
where
  more (value count : Nat) : List Char → Nat × Nat × List Char
    | '_' :: c :: rest =>
      match digit? c with
      | some d => more (base * value + d) (count + 1) rest
      | none => (value, count, '_' :: c :: rest)
    | c :: rest =>
      match digit? c with
      | some d => more (base * value + d) (count + 1) rest
      | none => (value, count, c :: rest)
    | [] => (value, count, [])

def digitBelow? (base : Nat) (c : Char) : Option Nat := (Json.hexValue? c).filter (· < base)

/-- Read the digits behind a point, attached to the integer part. -/
def readFraction (value : Nat) (cs : List Char) : Option (Nat × Nat × List Char) :=
  match cs with
  | '.' :: rest =>
    (readDigits (digitBelow? 10) 10 rest).map fun (v, count, rest) => (value * Text.tenTo count + v, count, rest)
  | _ => none

def readExponent (cs : List Char) : Option (Int × List Char) :=
  let digits (cs : List Char) := readDigits (digitBelow? 10) 10 cs
  match cs with
  | e :: rest =>
    if e = 'e' || e = 'E' then
      match rest with
      | '-' :: rest => (digits rest).map fun (n, _, rest) => (-(n : Int), rest)
      | '+' :: rest => (digits rest).map fun (n, _, rest) => ((n : Int), rest)
      | rest => (digits rest).map fun (n, _, rest) => ((n : Int), rest)
    else none
  | [] => none

/-- Read a decimal number after its sign. -/
def readDecimal (negative : Bool) (cs : List Char) : Option (Value × List Char) :=
  let integer : Option (Nat × Nat × List Char) := match cs with
    | '0' :: rest => some (0, 1, rest)
    | cs => readDigits (digitBelow? 10) 10 cs
  integer.bind fun (value, count, rest) =>
    match readFraction value rest with
    | some (value, places, rest) =>
      let (exponent, rest) := (readExponent rest).getD (0, rest)
      some (.real (.ofDecimal negative value (exponent - places)), rest)
    | none =>
      match readExponent rest with
      | some (exponent, rest) => some (.real (.ofDecimal negative value exponent), rest)
      | none =>
        if Text.maxIntegerDigits < count then none
        else some (.int (if negative then -(value : Int) else value), rest)

def readNumber (cs : List Char) : Option (Value × List Char) :=
  let based (base : Nat) (rest : List Char) : Option (Value × List Char) :=
    (readDigits (digitBelow? base) base rest).map fun (n, _, rest) => (.int n, rest)
  match cs with
  | '0' :: 'x' :: rest => based 16 rest
  | '0' :: 'o' :: rest => based 8 rest
  | '0' :: 'b' :: rest => based 2 rest
  | 'i' :: 'n' :: 'f' :: rest => some (.real (.infinity false), rest)
  | '+' :: 'i' :: 'n' :: 'f' :: rest => some (.real (.infinity false), rest)
  | '-' :: 'i' :: 'n' :: 'f' :: rest => some (.real (.infinity true), rest)
  | 'n' :: 'a' :: 'n' :: rest => some (.real .nan, rest)
  | '+' :: 'n' :: 'a' :: 'n' :: rest => some (.real .nan, rest)
  | '-' :: 'n' :: 'a' :: 'n' :: rest => some (.real .nan, rest)
  | '-' :: rest => readDecimal true rest
  | '+' :: rest => readDecimal false rest
  | cs => readDecimal false cs

/-- Read two digits of a number from `low` to `high`. -/
def readPlace (low high : Nat) (cs : List Char) : Option (Nat × List Char) :=
  (Text.readFixed? 2 0 cs).filter fun (n, _) => low ≤ n && n ≤ high

/-- Read a place behind a mark. -/
def readMarked (mark : Char) (low high : Nat) (cs : List Char) : Option (Nat × List Char) :=
  match cs with
  | c :: rest => if c = mark then readPlace low high rest else none
  | [] => none

/-- Read the digits of a year, month and day, which need not be a real day. -/
def readDay (cs : List Char) : Option ((Nat × Nat × Nat) × List Char) := do
  let (year, rest) ← Text.readFixed? 4 0 cs
  let (month, rest) ← readMarked '-' 1 12 rest
  let (day, rest) ← readMarked '-' 1 31 rest
  return ((year, month, day), rest)

/-- The digits behind a point, if there are any. -/
def readSecondFraction (cs : List Char) : List Char × List Char :=
  match cs with
  | '.' :: rest =>
    match rest.takeWhile Char.isDigit with
    | [] => ([], cs)
    | digits => (digits, rest.dropWhile Char.isDigit)
  | cs => ([], cs)

def readTime (cs : List Char) : Option (TimeOfDay × List Char) := do
  let (hour, rest) ← readPlace 0 23 cs
  let (minute, rest) ← readMarked ':' 0 59 rest
  let (second, rest) ← readMarked ':' 0 59 rest
  let (digits, rest) := readSecondFraction rest
  let time ← TimeOfDay.ofFields? hour minute second (microsOfFraction digits)
  return (time, rest)

/-- Read the distance from universal time in minutes, if it is there. -/
def readOffset (cs : List Char) : Option Int × List Char :=
  let distance (sign : Int) (rest : List Char) : Option Int × List Char :=
    match readPlace 0 23 rest with
    | some (hours, rest) =>
      match readMarked ':' 0 59 rest with
      | some (minutes, rest) => (some (sign * (60 * hours + minutes : Nat)), rest)
      | none => (none, cs)
    | none => (none, cs)
  match cs with
  | 'Z' :: rest => (some 0, rest)
  | 'z' :: rest => (some 0, rest)
  | '+' :: rest => distance 1 rest
  | '-' :: rest => distance (-1) rest
  | cs => (none, cs)

/-- The time behind a day, with the sign between them. -/
def readTimePart (cs : List Char) : Option (TimeOfDay × List Char) :=
  match cs with
  | c :: rest => if c = 'T' || c = 't' || c = ' ' then readTime rest else none
  | [] => none

/-- Read a date or a time. `none` means that none is written here, and an inner `none` that one is
written and is not real. -/
def readMoment (cs : List Char) : Option (Option Scalar × List Char) :=
  match readDay cs with
  | some ((year, month, day), rest) =>
    let date := Date.ofFields? year month day
    match readTimePart rest with
    | some (time, rest) =>
      let (offset, rest) := readOffset rest
      some (date.map fun date => .moment { date, time, offset }, rest)
    | none => some (date.map .date, rest)
  | none => (readTime cs).map fun (time, rest) => (some (.time time), rest)

/-- What may stand at a key already. -/
def addEntry (fields : Fields) : List String → Value → Option Fields
  | [], _ => none
  | [name], v => if (fields.get? name).isSome then none else some (fields.set name v)
  | name :: names, v =>
    match fields.get? name with
    | none => (addEntry [] names v).map fun inner => fields.set name (.record inner)
    | some (.record inner) => (addEntry inner names v).map fun inner => fields.set name (.record inner)
    | some _ => none

/-- Whether entries or items could be added to the value. -/
def hasParts : Value → Bool
  | .list _ => true
  | .record _ => true
  | _ => false

/-- Read a value without parts. -/
def readAtom (cs : List Char) : Option (Value × List Char) :=
  match cs with
  | '"' :: '"' :: '"' :: rest =>
    (readBasic true (rest.length + 1) [] (dropLineEnd rest)).map fun (s, rest) => (.text s, rest)
  | '"' :: rest => (readBasic false (rest.length + 1) [] rest).map fun (s, rest) => (.text s, rest)
  | '\'' :: '\'' :: '\'' :: rest =>
    (readLiteral true [] (dropLineEnd rest)).map fun (s, rest) => (.text s, rest)
  | '\'' :: rest => (readLiteral false [] rest).map fun (s, rest) => (.text s, rest)
  | 't' :: 'r' :: 'u' :: 'e' :: rest => some (.bool true, rest)
  | 'f' :: 'a' :: 'l' :: 's' :: 'e' :: rest => some (.bool false, rest)
  | cs =>
    match readMoment cs with
    | some (a, rest) => a.map fun a => (.atom a, rest)
    | none => readNumber cs

/-- What is left of the room for values inside others after some steps. -/
def goDeeper (steps room : Nat) : Reading Nat := if room < steps then tooDeep else .ok (room - steps)

mutual

/-- Read a value that may have others inside as far as there is room. -/
def readValue : Nat → Nat → List Char → Reading (Value × List Char)
  | 0, _, _ => malformed
  | fuel + 1, room, cs => do
    match cs with
    | '[' :: rest => readItems fuel (← goDeeper 2 room) [] rest
    | '\x7b' :: rest =>
      let room ← goDeeper 3 room
      match skipSpaces rest with
      | '\x7d' :: rest => return (.record [], rest)
      | rest => readInline fuel room [] [] rest
    | cs => .ofOption (readAtom cs)

/-- Read the items of an array from its opening bracket or a comma on. -/
def readItems : Nat → Nat → List Value → List Char → Reading (Value × List Char)
  | 0, _, _, _ => malformed
  | fuel + 1, room, acc, cs => do
    match ← Reading.ofOption (skipBetween (cs.length + 1) cs) with
    | ']' :: rest => return (.list acc.reverse, rest)
    | cs =>
      let (v, rest) ← readValue fuel room cs
      match ← Reading.ofOption (skipBetween (rest.length + 1) rest) with
      | ',' :: rest => readItems fuel room (v :: acc) rest
      | ']' :: rest => return (.list (v :: acc).reverse, rest)
      | _ => malformed

/-- Read the entries of an inline table, of which there is at least one. Nothing is added to the tables
and arrays at the keys in `closed`. -/
def readInline : Nat → Nat → List (List String) → Fields → List Char → Reading (Value × List Char)
  | 0, _, _, _, _ => malformed
  | fuel + 1, room, closed, fields, cs => do
    match ← Reading.ofOption (readKey (cs.length + 1) cs) with
    | (key, '=' :: rest) =>
      let (v, rest) ← readValue fuel room (skipSpaces rest)
      if closed.any (·.isPrefixOf key) then malformed
      let fields ← Reading.ofOption (addEntry fields key v)
      match skipSpaces rest with
      | ',' :: rest =>
        readInline fuel room (if hasParts v then key :: closed else closed) fields (skipSpaces rest)
      | '\x7d' :: rest => return (.record fields, rest)
      | _ => malformed
    | _ => malformed

end

/-- What has been read of a document. -/
structure Document where
  fields : Fields := []
  /-- The table that entries go to. -/
  table : List String := []
  /-- The tables that may not get a heading any more. -/
  headed : List (List String) := []
  /-- The tables that came about by entries since the last heading. They get no heading either. -/
  pending : List (List String) := []
  /-- The keys of inline tables and arrays, to which nothing is added. -/
  closed : List (List String) := []

/-- Change the table at a path, which is made if it is not there. In an array of tables the last one
is meant. -/
def updateTable (change : Fields → Option Fields) : List String → Fields → Option Fields
  | [], fields => change fields
  | name :: names, fields =>
    match fields.get? name with
    | none => (updateTable change names []).map fun inner => fields.set name (.record inner)
    | some (.record inner) =>
      (updateTable change names inner).map fun inner => fields.set name (.record inner)
    | some (.list items) =>
      match items.getLast? with
      | some (.record inner) =>
        (updateTable change names inner).map fun inner =>
          fields.set name (.list (items.dropLast ++ [.record inner]))
      | _ => none
    | some _ => none

/-- Whether the path leads into something closed. -/
def isClosed (d : Document) (path : List String) : Bool := d.closed.any (·.isPrefixOf path)

/-- A heading begins, so that what came about under the one before is complete. -/
def settle (d : Document) : Document := { d with headed := d.pending ++ d.headed, pending := [] }

/-- A heading for a table. -/
def openTable (d : Document) (path : List String) : Option Document :=
  if isClosed d path || d.headed.contains path then none
  else
    (updateTable some path d.fields).map fun fields =>
      { d with fields, table := path, headed := path :: d.headed }

/-- A heading for one more table of an array, in which everything is new. -/
def openItem (d : Document) (path : List String) : Option Document :=
  match path.getLast? with
  | none => none
  | some name =>
    if isClosed d path then none
    else
      let change (fields : Fields) : Option Fields :=
        match fields.get? name with
        | none => some (fields.set name (.list [.record []]))
        | some (.list items) => some (fields.set name (.list (items ++ [.record []])))
        | some _ => none
      (updateTable change path.dropLast d.fields).map fun fields =>
        { d with fields, table := path
                 headed := path :: d.headed.filter fun h => !path.isPrefixOf h
                 closed := d.closed.filter fun h => !path.isPrefixOf h }

/-- An entry of the present table. Its key may lead through tables, but through none with a heading. -/
def addValue (d : Document) (key : List String) (v : Value) : Option Document :=
  let path := d.table ++ key
  let onTheWay := (List.range (key.length - 1)).map fun n => d.table ++ key.take (n + 1)
  if onTheWay.any d.headed.contains || isClosed d path.dropLast then none
  else
    (updateTable (fun fields => addEntry fields key v) d.table d.fields).map fun fields =>
      { d with fields, closed := if hasParts v then path :: d.closed else d.closed
               pending := onTheWay ++ d.pending }

/-- Read a heading up to the brackets that close it. -/
def readHeading (closing : List Char) (cs : List Char) : Option (List String × List Char) := do
  let (path, rest) ← readKey (cs.length + 1) (skipSpaces cs)
  if closing.isPrefixOf rest then some (path, rest.drop closing.length) else none

/-- Read one statement. -/
def readStatement (d : Document) (cs : List Char) : Reading (Document × List Char) := do
  match cs with
  | '[' :: '[' :: rest =>
    let (path, rest) ← Reading.ofOption (readHeading [']', ']'] rest)
    return (← Reading.ofOption (openItem (settle d) path), rest)
  | '[' :: rest =>
    let (path, rest) ← Reading.ofOption (readHeading [']'] rest)
    return (← Reading.ofOption (openTable (settle d) path), rest)
  | cs =>
    match ← Reading.ofOption (readKey (cs.length + 1) cs) with
    | (key, '=' :: rest) =>
      let (v, rest) ← readValue (2 * rest.length + 2) depthLimit (skipSpaces rest)
      return (← Reading.ofOption (addValue d key v), rest)
    | _ => malformed

/-- Read statements to the end, one a line. -/
def readDocument : Nat → Document → List Char → Reading Document
  | 0, _, _ => malformed
  | fuel + 1, d, cs => do
    match skipSpaces cs with
    | [] => return d
    | '\n' :: rest => readDocument fuel d rest
    | '#' :: rest => readDocument fuel d (← Reading.ofOption (skipComment ('#' :: rest)))
    | cs =>
      let (d, rest) ← readStatement d cs
      match ← Reading.ofOption (skipComment (skipSpaces rest)) with
      | [] => return d
      | '\n' :: rest => readDocument fuel d rest
      | _ => malformed

/-- Line ends of two characters count as one. -/
def unifyLineEnds : List Char → List Char
  | '\r' :: '\n' :: cs => '\n' :: unifyLineEnds cs
  | c :: cs => c :: unifyLineEnds cs
  | [] => []

/-- Read a file. -/
def parse (s : String) : Reading Fields :=
  (·.fields) <$> readDocument (s.length + 1) {} (unifyLineEnds s.toList)

end Toml
end GitPractice
