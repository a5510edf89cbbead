import GitPractice.Value.Yaml.Look
import GitPractice.Value.Yaml.Tokens

/-!
# Nodes of YAML

A document consists of nodes: texts, lists and records, each with a tag. Nodes are
numbered, and lists and records hold the numbers of the nodes in them. A node may
be given a name and be referred to by it later on, also from inside itself, so
one node may stand at several places.
-/

namespace GitPractice
namespace Yaml

/-- The number of a node. -/
abbrev NodeId := Nat

inductive Node where
  | scalar (tag : Tag) (points : List Nat)
  | list (tag : Tag) (items : List NodeId)
  | record (tag : Tag) (entries : List (NodeId × NodeId))
deriving DecidableEq

namespace Node

/-- An empty place counts as null. -/
def empty : Node := scalar .null []

instance : Inhabited Node := ⟨empty⟩

def tag : Node → Tag
  | scalar tag _ => tag
  | list tag _ => tag
  | record tag _ => tag

def withTag (tag : Tag) : Node → Node
  | scalar _ points => scalar tag points
  | list _ items => list tag items
  | record _ entries => record tag entries

/-- The nodes of a document while they are put together. -/
structure Assembly where
  tokens : List Token
  /-- What the handles of tags stand for. -/
  handles : List (String × String) := []
  nodes : Array Node := #[]
  names : List (String × NodeId) := []
  /-- How many lists and records are around the present place. -/
  depth : Nat := 0

abbrev Assembling := StateT Assembly Reading

/-- Where the text cannot be read any further, nothing can be put together. -/
def peek : Assembling Token := do
  match (← get).tokens with
  | .broken e :: _ => throw e
  | token :: _ => return token
  | [] => return .streamEnd

def drop : Assembling Unit := modify fun a => { a with tokens := a.tokens.drop 1 }

/-- Drop the token if it is this one. -/
def accept (token : Token) : Assembling Bool := do
  if (← peek) = token then
    drop
    return true
  else return false

def expect (token : Token) : Assembling Unit := do
  unless ← accept token do throw .malformed

/-- Read what stands inside a list or record. Each of them takes two steps of the limit, and finding the
tokens in the innermost one takes a dozen. -/
def inside {α : Type} (parts : Assembling α) : Assembling α := do
  if depthLimit < 2 * (← get).depth + 14 then throw (.fault (.tooDeep none))
  modify fun a => { a with depth := a.depth + 1 }
  let result ← parts
  modify fun a => { a with depth := a.depth - 1 }
  return result

/-- What stands before a node. -/
structure Properties where
  anchor : Option String := none
  /-- The tag as it is written, its handle replaced. -/
  tag : Option String := none

def readAnchor : Assembling (Option String) := do
  match ← peek with
  | .anchor name =>
    drop
    return some name
  | _ => return none

def readTag : Assembling (Option String) := do
  match ← peek with
  | .tag none suffix =>
    drop
    return some suffix
  | .tag (some short) suffix =>
    drop
    match (← get).handles.find? (·.1 = short) with
    | some (_, uri) => return some (uri ++ suffix)
    | none => throw .malformed
  | _ => return none

/-- Read name and tag in either order. -/
def readProperties : Assembling Properties := do
  match ← readAnchor with
  | some name => return { anchor := some name, tag := ← readTag }
  | none =>
    let tag ← readTag
    return { anchor := ← readAnchor, tag }

/-- The tag of a text. One that has no tag of its own is text if it is quoted. -/
def scalarTag (p : Properties) (isPlain : Bool) (points : List Nat) : Tag :=
  match p.tag with
  | none => if isPlain then Look.tagOf (points.map Char.ofNat) else .text
  | some "!" => Look.tagOf (points.map Char.ofNat)
  | some tag => Tag.ofText tag

/-- The tag of a list or record, which is `common` if it has none of its own. -/
def partsTag (p : Properties) (common : Tag) : Tag :=
  match p.tag with
  | none => common
  | some "!" => common
  | some tag => Tag.ofText tag

/-- Add a node without a name. -/
def add (node : Node) : Assembling NodeId := do
  let id := (← get).nodes.size
  modify fun a => { a with nodes := a.nodes.push node }
  return id

/-- Add a node, which is known by its name from now on if it has one. A name is given only once. -/
def addNamed (p : Properties) (node : Node) : Assembling NodeId := do
  match p.anchor with
  | none => add node
  | some name =>
    if (← get).names.any (·.1 = name) then throw .malformed
    let id ← add node
    modify fun a => { a with names := (name, id) :: a.names }
    return id

/-- Add a list, and read its items then. -/
def addList (p : Properties) (items : Assembling (List NodeId)) : Assembling NodeId := do
  let tag := partsTag p .list
  let id ← addNamed p (list tag [])
  let items ← inside items
  modify fun a => { a with nodes := a.nodes.setIfInBounds id (list tag items) }
  return id

/-- Add a record, and read its entries then. -/
def addRecord (p : Properties) (entries : Assembling (List (NodeId × NodeId))) : Assembling NodeId := do
  let tag := partsTag p .record
  let id ← addNamed p (record tag [])
  let entries ← inside entries
  modify fun a => { a with nodes := a.nodes.setIfInBounds id (record tag entries) }
  return id

def readReference (name : String) : Assembling NodeId := do
  match (← get).names.find? (·.1 = name) with
  | some (_, id) => return id
  | none => throw .malformed

/-- A node that is not there. -/
def endsItem (token : Token) : Bool := token = .item || token = .blockEnd

def endsBareItem (token : Token) : Bool := endsItem token || token = .key || token = .value

def endsPart (token : Token) : Bool := token = .key || token = .value || token = .blockEnd

def endsInList (token : Token) : Bool := token = .comma || token = .listEnd

def endsInRecord (token : Token) : Bool := token = .comma || token = .recordEnd

mutual

/-- Read a node. Inside blocks it may be a block itself, and as the part of an entry it may also be a
list at the column of its key. -/
def readNode (inBlock inEntry : Bool) : Nat → Assembling NodeId
  | 0 => throw .malformed
  | fuel + 1 => do
    match ← peek with
    | .alias name =>
      drop
      readReference name
    | _ => do
      let p ← readProperties
      match ← peek with
      | .scalar isPlain points =>
        drop
        addNamed p (scalar (scalarTag p isPlain points) points)
      | .listStart =>
        drop
        addList p (readListItems true fuel)
      | .recordStart =>
        drop
        addRecord p (readRecordEntries true fuel)
      | .blockListStart =>
        unless inBlock do throw .malformed
        drop
        addList p (readBlockItems endsItem fuel) <* expect .blockEnd
      | .blockRecordStart =>
        unless inBlock do throw .malformed
        drop
        addRecord p (readBlockEntries fuel) <* expect .blockEnd
      | token =>
        if token = .item && inEntry then addList p (readBlockItems endsBareItem fuel)
        else if p.anchor.isNone && p.tag.isNone then throw .malformed
        else addNamed p (scalar (scalarTag p true []) [])

/-- Read items behind dashes, as long as there are any. -/
def readBlockItems (isMissing : Token → Bool) : Nat → Assembling (List NodeId)
  | 0 => throw .malformed
  | fuel + 1 => do
    if ← accept .item then
      let node ← if isMissing (← peek) then add empty else readNode true false fuel
      return node :: (← readBlockItems isMissing fuel)
    else return []

/-- Read the part of an entry behind its sign, if it is there. -/
def readPart (sign : Token) : Nat → Assembling NodeId
  | 0 => throw .malformed
  | fuel + 1 => do
    if ← accept sign then
      if endsPart (← peek) then add empty else readNode true true fuel
    else add empty

def readBlockEntries : Nat → Assembling (List (NodeId × NodeId))
  | 0 => throw .malformed
  | fuel + 1 => do
    if (← peek) = .key then
      let key ← readPart .key fuel
      let value ← readPart .value fuel
      return (key, value) :: (← readBlockEntries fuel)
    else return []

/-- Read a part in brackets behind its sign, if it is there. -/
def readInner (sign : Token) (isMissing : Token → Bool) : Nat → Assembling NodeId
  | 0 => throw .malformed
  | fuel + 1 => do
    if ← accept sign then
      if isMissing (← peek) then add empty else readNode false false fuel
    else add empty

/-- Read the items of a list in brackets up to the closing one. An item with a key is a record of one
entry. -/
def readListItems (isFirst : Bool) : Nat → Assembling (List NodeId)
  | 0 => throw .malformed
  | fuel + 1 => do
    if ← accept .listEnd then return []
    unless isFirst do expect .comma
    match ← peek with
    | .key =>
      let key ← inside (readInner .key (fun token => endsInList token || token = .value) fuel)
      let value ← inside (readInner .value endsInList fuel)
      let id ← add (record .record [(key, value)])
      return id :: (← readListItems false fuel)
    | .listEnd =>
      drop
      return []
    | _ =>
      let node ← readNode false false fuel
      return node :: (← readListItems false fuel)

/-- Read the entries of a record in braces up to the closing one. A node without a key is one without
a value. -/
def readRecordEntries (isFirst : Bool) : Nat → Assembling (List (NodeId × NodeId))
  | 0 => throw .malformed
  | fuel + 1 => do
    if ← accept .recordEnd then return []
    unless isFirst do expect .comma
    match ← peek with
    | .key =>
      let key ← readInner .key (fun token => endsInRecord token || token = .value) fuel
      let value ← readInner .value endsInRecord fuel
      return (key, value) :: (← readRecordEntries false fuel)
    | .recordEnd =>
      drop
      return []
    | _ =>
      let node ← readNode false false fuel
      let value ← add empty
      return (node, value) :: (← readRecordEntries false fuel)

end

/-! ## Documents -/

/-- Read the directives before a document. A handle is explained once, and so is the version, of which
the first number is one. -/
def readDirectives : Nat → Bool → Assembling Unit
  | 0, _ => throw .malformed
  | fuel + 1, seenVersion => do
    match ← peek with
    | .version major =>
      if seenVersion || major ≠ 1 then throw .malformed
      drop
      readDirectives fuel true
    | .handle name uri =>
      if (← get).handles.any (·.1 = name) then throw .malformed
      drop
      modify fun a => { a with handles := (name, uri) :: a.handles }
      readDirectives fuel seenVersion
    | .directive =>
      drop
      readDirectives fuel seenVersion
    | _ => return ()

/-- What the handles mean that are not explained. -/
def commonHandles : List (String × String) := [("!", "!"), ("!!", Tag.commonStart)]

def useCommonHandles : Assembling Unit := modify fun a => { a with handles := a.handles ++ commonHandles }

def dropDocumentEnds : Nat → Assembling Unit
  | 0 => throw .malformed
  | fuel + 1 => do
    if ← accept .documentEnd then dropDocumentEnds fuel

/-- Read the content of a document behind its mark. -/
def readContent (fuel : Nat) : Assembling NodeId := do
  match ← peek with
  | .version _ => add empty
  | .handle _ _ => add empty
  | .directive => add empty
  | .documentStart => add empty
  | .documentEnd => add empty
  | .streamEnd => add empty
  | _ => readNode true false fuel

/-- Read a document with directives or a mark before it, if there is one. -/
def readMarked (fuel : Nat) : Assembling (Option NodeId) := do
  dropDocumentEnds fuel
  if (← peek) = .streamEnd then return none
  readDirectives fuel false
  useCommonHandles
  expect .documentStart
  return some (← readContent fuel)

/-- Read the only document of a text, if there is one. -/
def readOnly (fuel : Nat) : Assembling (Option NodeId) := do
  let root ←
    match ← peek with
    | .version _ => readMarked fuel
    | .handle _ _ => readMarked fuel
    | .directive => readMarked fuel
    | .documentStart => readMarked fuel
    | .streamEnd => pure none
    | _ => do
      useCommonHandles
      some <$> readNode true false fuel
  dropDocumentEnds fuel
  expect .streamEnd
  return root

/-- The nodes of the only document of a text, and which of them is the outermost one. -/
def ofTokens? (tokens : List Token) : Reading (Option NodeId × Array Node) := do
  let (root, a) ← (readOnly (4 * tokens.length + 8)).run { tokens }
  return (root, a.nodes)

end Node
end Yaml
end GitPractice
