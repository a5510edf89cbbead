import GitPractice.Value.Parts
import GitPractice.Value.Yaml.Members
import GitPractice.Value.Yaml.Node
import GitPractice.Value.Yaml.Scalar

/-!
# Reading YAML

The value of a text is that of its only document. A node has one value, wherever
it stands. Texts are read where they are met first. Lists and records are begun
there and filled later, in the order in which they were begun, so they may stand
inside themselves.

A record may take over the entries of other records under the key for merging;
its own entries override them. This changes the nodes: entries are taken over
once, and a record that takes over from this one afterwards finds them in it.
Keys are scalars, and of two entries with one key the later counts.
-/

namespace GitPractice
namespace Yaml

/-- The values of nodes while they are found. -/
structure Construction where
  nodes : Array Node
  /-- The values of the nodes that have been met. -/
  values : Array (Option Value)
  /-- The lists and records that have been begun. -/
  begun : Array NodeId := #[]
  /-- What they hold, as far as they have been filled. -/
  parts : Parts := #[]
  /-- How many keys for merging there were at first. -/
  merges : Nat := 0

abbrev Constructing := StateT Construction Reading

namespace Construction

/-- How many keys for merging there are. -/
def mergeCount (nodes : Array Node) : Nat :=
  nodes.foldl (fun count node =>
    match node with
    | .record _ entries => count + entries.countP fun entry => (nodes.getD entry.1 .empty).tag = .merge
    | _ => count) 0

def ofNodes (nodes : Array Node) : Construction :=
  { nodes, values := Array.replicate nodes.size none, merges := mergeCount nodes }

def nodeAt (id : NodeId) : Constructing Node := return (← get).nodes.getD id .empty

def setNode (id : NodeId) (node : Node) : Constructing Unit :=
  modify fun c => { c with nodes := c.nodes.setIfInBounds id node }

def tagAt (id : NodeId) : Constructing Tag := Node.tag <$> nodeAt id

/-! ## Taking over entries -/

/-- The entries of a record before its first key for merging, what stands there, and the entries behind
it. -/
def splitAtMerge (before : List (NodeId × NodeId)) :
    List (NodeId × NodeId) → Constructing (Option (NodeId × List (NodeId × NodeId)))
  | [] => return none
  | (key, value) :: rest => do
    if (← tagAt key) = .merge then return some (value, before.reverse ++ rest)
    splitAtMerge ((key, value) :: before) rest

/-- A sign for a default that is a key is a text. -/
def readKeyAsText (key : NodeId) : Constructing Unit := do
  let node ← nodeAt key
  if node.tag = .default then setNode key (node.withTag .text)

/-- The entries of a record, which must be one. -/
def entriesAt (id : NodeId) : Constructing (List (NodeId × NodeId)) := do
  match ← nodeAt id with
  | .record _ entries => return entries
  | _ => throw .malformed

/-- Take over what a record merges, `merged` being what it has taken over so far. Every key for merging
goes before its value is looked at, so no more steps than there are such keys lead into each other. -/
def flatten (merged : List (NodeId × NodeId)) : Nat → NodeId → Constructing Unit
  | 0, _ => throw .malformed
  | steps + 1, id => do
    let node ← nodeAt id
    let entries ← entriesAt id
    match ← splitAtMerge [] entries with
    | none => do
      entries.forM fun entry => readKeyAsText entry.1
      setNode id (.record node.tag (merged ++ entries))
    | some (value, rest) => do
      setNode id (.record node.tag rest)
      match ← nodeAt value with
      | .record _ _ => do
        flatten [] steps value
        flatten (merged ++ (← entriesAt value)) steps id
      | .list _ items => do
        let found ← items.mapM fun item => do
          let _ ← entriesAt item
          flatten [] steps item
          entriesAt item
        flatten (merged ++ found.reverse.flatten) steps id
      | .scalar _ _ => throw .malformed

/-! ## Values -/

/-- The text of a node. A record stands for the text under its default key. One that leads back to itself
has no end. -/
def textAt : Nat → NodeId → Constructing (List Nat)
  | 0, _ => throw (.fault (.tooDeep none))
  | steps + 1, id => do
    match ← nodeAt id with
    | .scalar _ points => return points
    | .list _ _ => throw .malformed
    | .record _ entries =>
      match ← entries.findM? fun entry => return (← tagAt entry.1) = .default with
      | some (_, value) => textAt steps value
      | none => throw .malformed

/-- A number that is none is a key of its own at every node where it is written as one. -/
def told (id : NodeId) : Scalar → Scalar
  | .real x => if x.isNaN && x ≠ .nan then .real (.nanOf (id + 2)) else .real x
  | a => a

/-- The value of a text. A moment is looked for in the node itself. -/
def scalarAt (id : NodeId) : Constructing Scalar := do
  let node ← nodeAt id
  if !node.tag.isForText then throw .malformed
  let points ← textAt ((← get).nodes.size + 1) id
  match node.tag, node with
  | .moment, .record _ _ => throw (.fault .wrongKind)
  | tag, _ => return told id (← scalarOf tag points)

/-- Begin a list or record, which is empty before it is filled. -/
def beginPart (id : NodeId) : Constructing Value := do
  let n := (← get).parts.size
  modify fun c => { c with begun := c.begun.push id, parts := c.parts.push .null }
  return .shared n

/-- The value of a node. -/
def valueAt (id : NodeId) : Constructing Value := do
  match (← get).values.getD id none with
  | some v => return v
  | none =>
    let v ← match ← tagAt id with
      | .list => beginPart id
      | .record => beginPart id
      | .set => beginPart id
      | .pairs => beginPart id
      | _ => .atom <$> scalarAt id
    modify fun c => { c with values := c.values.setIfInBounds id (some v) }
    return v

/-- The entries of a record with their keys and values. -/
def fieldsAt (id : NodeId) : Constructing Fields := do
  let _ ← entriesAt id
  flatten [] ((← get).merges + 1) id
  (← entriesAt id).foldlM (fun fields entry => do
    match ← valueAt entry.1 with
    | .atom key => return fields.set key (← valueAt entry.2)
    | _ => throw .malformed) []

/-- The pair that an item of a list of pairs is. -/
def pairAt (id : NodeId) : Constructing Value := do
  match ← entriesAt id with
  | [(key, value)] => do
    let key ← valueAt key
    return .pair key (← valueAt value)
  | _ => throw .malformed

/-- What a list or record is filled with. -/
def contentAt (id : NodeId) : Constructing Value := do
  match ← nodeAt id with
  | .list .list items => .list <$> items.mapM valueAt
  | .list .pairs items => .list <$> items.mapM pairAt
  | .record .record _ => .record <$> fieldsAt id
  | .record .set _ => return .set (Members.ordered (← fieldsAt id).keys)
  | _ => throw .malformed

/-- Fill the parts from the given one on. Every node is begun once, so there are at most as many parts as
nodes. -/
def fill : Nat → Nat → Constructing Unit
  | 0, _ => return ()
  | count + 1, n => do
    match (← get).begun[n]? with
    | none => return ()
    | some id => do
      let content ← contentAt id
      modify fun c => { c with parts := c.parts.setIfInBounds n content }
      fill count (n + 1)

/-- The value of a node, with all that is in it. -/
def whole (root : NodeId) : Constructing Whole := do
  let value ← valueAt root
  fill ((← get).nodes.size + 1) 0
  return { value, parts := (← get).parts }

end Construction

/-- The value of a text. Without a document it is null. -/
def parse (s : String) : Reading Whole := do
  if !s.toList.all isAllowed then malformed
  let (root, nodes) ← Node.ofTokens? (Tokens.ofText s)
  match root with
  | none => return { value := .null }
  | some root =>
    let (w, _) ← (Construction.whole root).run (.ofNodes nodes)
    return w.simplified

end Yaml
end GitPractice
