import GitPractice.Repo.Snapshot

/-!
# The commit graph

The commits laid out on a grid: a column for each in the order of creation, and
a lane for each branch. A commit stays on the lane of the branch that it was
made on; one that was made on no branch goes to lane 0.
-/

namespace GitPractice

structure GraphNode where
  id : String
  short : String
  message : String
  lane : Nat
  column : Nat
  color : String
  isHead : Bool
  isMerge : Bool
  /-- The branches that point here, in the order of creation. -/
  labels : List String
deriving DecidableEq, Inhabited

structure GraphEdge where
  parent : String
  child : String
  /-- Whether it comes from a further parent of a merge. -/
  merge : Bool := false
deriving DecidableEq, Inhabited

structure Lane where
  branch : String
  color : String
deriving DecidableEq, Inhabited

structure Graph where
  nodes : List GraphNode := []
  edges : List GraphEdge := []
  lanes : List Lane := []
  detached : Bool := false
deriving DecidableEq, Inhabited

namespace Graph

/-- The lane that bears the name, with its position. Of several the last one counts. -/
def findLane? (lanes : List Lane) (branch : String) : Option (Lane × Nat) :=
  lanes.zipIdx.reverse.find? fun entry => entry.1.branch = branch

def lanesOf (s : Snapshot) : List Lane := s.branches.map fun b => { branch := b.name, color := b.color }

def labelsOf (s : Snapshot) (id : String) : List String :=
  (s.branches.filter fun b => b.commit ≠ "" && b.commit = id).map (·.name)

def nodeOf (s : Snapshot) (c : Commit) (column : Nat) : GraphNode :=
  let lanes := lanesOf s
  let place := findLane? lanes c.branch
  { id := c.id
    short := c.short
    message := c.message
    lane := (place.map (·.2)).getD 0
    column
    color := (place.map (·.1.color)).getD ((lanes.head?.map (·.color)).getD "")
    isHead := c.id = s.head
    isMerge := c.isMerge
    labels := labelsOf s c.id }

/-- The edges that end in a commit. A commit that lists its parents has one from each of them. -/
def edgesOf (c : Commit) : List GraphEdge :=
  match c.parents.getD [], c.parent with
  | p :: further, _ => { parent := p, child := c.id } ::
      further.map fun q => { parent := q, child := c.id, merge := true }
  | [], some p => if p = "" then [] else [{ parent := p, child := c.id }]
  | [], none => []

def ofSnapshot (s : Snapshot) : Graph where
  nodes := s.commits.zipIdx.map fun entry => nodeOf s entry.1 entry.2
  edges := s.commits.flatMap edgesOf
  lanes := lanesOf s
  detached := s.detached

def isEmpty (g : Graph) : Bool := g.nodes.isEmpty

def node? (g : Graph) (id : String) : Option GraphNode := g.nodes.find? (·.id = id)

end Graph

namespace GraphNode

def toValue (n : GraphNode) : Value :=
  .record [("id", .text n.id), ("short_id", .text n.short), ("message", .text n.message),
    ("lane", .int n.lane), ("column", .int n.column), ("color", .text n.color),
    ("is_head", .bool n.isHead), ("is_merge", .bool n.isMerge),
    ("labels", .list (n.labels.map .text))]

end GraphNode

namespace Graph

def toValue (g : Graph) : Value :=
  .record [("nodes", .list (g.nodes.map GraphNode.toValue)),
    ("edges", .list (g.edges.map fun e =>
      .record [("parent", .text e.parent), ("child", .text e.child), ("merge", .bool e.merge)])),
    ("lanes", .list (g.lanes.map fun l =>
      .record [("branch", .text l.branch), ("color", .text l.color)])),
    ("detached_head", .bool g.detached)]

end Graph
end GitPractice
