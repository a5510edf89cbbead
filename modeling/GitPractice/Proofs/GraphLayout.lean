import GitPractice.Proofs.Head
import GitPractice.View.Graph

/-!
# The layout of the commit graph

The lane of a node is looked up by the name of a branch, and the look-up gives
something in every state: a node is on one of the lanes, and it has the colour of
its lane (`Graph.onLanes_ofSnapshot`). Where a name is repeated the last branch
of that name decides about both.

In a repository that comes about by running lines there is nothing to decide. The
names of the branches and the ids of the commits are different, every pointer is
that of a commit, and parents come first. So the graph shows the repository as it
is: `Graph.Depicts` says what that means, and `Graph.depicts_ofSnapshot` that it
holds. The ids must not be empty, or a pointer that points nowhere would be that of
a commit.
-/

namespace GitPractice

/-! ## Colours of branches -/

namespace Snapshot

/-- The branches have the colours of the palette in turn. -/
def ColoredInTurn (s : Snapshot) : Prop :=
  s.branches.map (·.color) = (List.range s.branches.length).map fun i : Nat => branchColor i

theorem branchColor_eq (i : Nat) : branchColors[i % 8]? = some (branchColor i) := by
  have hindex : ((i : Int) % 8).toNat = i % 8 := by omega
  have hlt : i % 8 < branchColors.length := Nat.mod_lt i (by decide)
  rw [branchColor, hindex, List.getD_eq_getElem?_getD, List.getElem?_eq_getElem hlt]
  rfl

theorem map_color_moveCurrent (s : Snapshot) (id : String) :
    (s.moveCurrent id).map (·.color) = s.branches.map (·.color) := by
  rw [moveCurrent, List.map_map]
  refine List.map_congr_left fun b _ => ?_
  show (if b.name = s.currentBranch then { b with commit := id } else b).color = b.color
  split <;> rfl

namespace ColoredInTurn

variable {s s' : Snapshot}

theorem empty : Snapshot.empty.ColoredInTurn := rfl

theorem moveCurrent (h : s.ColoredInTurn) {id : String} (hb : s'.branches = s.moveCurrent id) :
    s'.ColoredInTurn := by
  rw [ColoredInTurn, hb, map_color_moveCurrent, h, Snapshot.moveCurrent, List.length_map]

theorem branchAtHead (h : s.ColoredInTurn) {name : String}
    (hb : s'.branches = s.branches ++ [s.branchAtHead name]) : s'.ColoredInTurn := by
  rw [ColoredInTurn, hb, List.map_append, h, List.length_append, List.length_singleton,
    List.range_succ, List.map_append]
  rfl

theorem step (h : s.ColoredInTurn) {ids : IdSource} (hs : Step ids s s') : s'.ColoredInTurn := by
  cases hs with
  | create => rfl
  | resetAll => exact empty
  | createFile =>
    rw [createFile_eq]
    exact h
  | modifyFile | stage | checkout | checkoutCommit | record => exact h
  | commit | merge | reset => exact h.moveCurrent rfl
  | createBranch | createAndCheckoutBranch => exact h.branchAtHead rfl

theorem color_eq (h : s.ColoredInTurn) {i : Nat} {b : Branch} (hb : s.branches[i]? = some b) :
    b.color = branchColor i := by
  have hi : i < s.branches.length := (List.getElem?_eq_some_iff.mp hb).1
  have hcolor := congrArg (·[i]?) h
  simp only [List.getElem?_map, hb, List.getElem?_range hi, Option.map_some,
    Option.some.injEq] at hcolor
  exact hcolor

theorem color_mem (h : s.ColoredInTurn) {b : Branch} (hb : b ∈ s.branches) :
    b.color ∈ branchColors := by
  obtain ⟨i, hi⟩ := List.getElem?_of_mem hb
  rw [h.color_eq hi]
  exact List.mem_of_getElem? (branchColor_eq i)

end ColoredInTurn

end Snapshot

namespace Graph

open Snapshot (branchColor_eq filter_eq_singleton)

variable {s : Snapshot}

/-! ## Lanes -/

theorem findLane?_eq_some {lanes : List Lane} {branch : String} {l : Lane} {i : Nat}
    (h : findLane? lanes branch = some (l, i)) : lanes[i]? = some l ∧ l.branch = branch := by
  have hmem := List.mem_of_find?_eq_some h
  rw [List.mem_reverse, List.mem_zipIdx_iff_getElem?] at hmem
  exact ⟨hmem, by simpa using List.find?_some h⟩

theorem findLane?_eq_none_iff {lanes : List Lane} {branch : String} :
    findLane? lanes branch = none ↔ branch ∉ lanes.map (·.branch) := by
  rw [findLane?, List.find?_eq_none]
  simp only [List.mem_reverse, decide_eq_true_eq, List.mem_map, not_exists, not_and]
  constructor
  · intro h l hl he
    obtain ⟨i, hi⟩ := List.getElem?_of_mem hl
    exact h (l, i) (List.mem_zipIdx_iff_getElem?.mpr hi) he
  · rintro h ⟨l, i⟩ hl he
    exact h l (List.mem_of_getElem? (List.mem_zipIdx_iff_getElem?.mp hl)) he

theorem length_lanesOf (s : Snapshot) : (lanesOf s).length = s.branches.length := List.length_map _

theorem map_branch_lanesOf (s : Snapshot) :
    (lanesOf s).map (·.branch) = s.branches.map (·.name) := by
  rw [lanesOf, List.map_map]
  rfl

/-- Every node is on the lane of a branch, if there is any, and has its colour. -/
structure OnLanes (g : Graph) (s : Snapshot) : Prop where
  lane : ∀ n ∈ g.nodes, n.lane < max s.branches.length 1
  color : s.branches ≠ [] → ∀ n ∈ g.nodes, g.lanes[n.lane]?.map (·.color) = some n.color

theorem lane_nodeOf_lt (s : Snapshot) (c : Commit) (column : Nat) :
    (nodeOf s c column).lane < max s.branches.length 1 := by
  simp only [nodeOf]
  cases hplace : findLane? (lanesOf s) c.branch with
  | none => exact Nat.le_max_right _ _
  | some place =>
    have hlane := (findLane?_eq_some hplace).1
    have hlt := (List.getElem?_eq_some_iff.mp hlane).1
    rw [length_lanesOf] at hlt
    exact Nat.lt_of_lt_of_le hlt (Nat.le_max_left _ _)

theorem color_nodeOf (hne : s.branches ≠ []) (c : Commit) (column : Nat) :
    (lanesOf s)[(nodeOf s c column).lane]?.map (·.color) = some (nodeOf s c column).color := by
  simp only [nodeOf]
  cases hplace : findLane? (lanesOf s) c.branch with
  | none =>
    obtain ⟨first, rest, hbranches⟩ := List.exists_cons_of_ne_nil hne
    rw [lanesOf, hbranches]
    rfl
  | some place => exact congrArg (Option.map (·.color)) (findLane?_eq_some hplace).1

theorem onLanes_ofSnapshot (s : Snapshot) : (ofSnapshot s).OnLanes s where
  lane := by
    intro n hn
    obtain ⟨entry, -, rfl⟩ := List.mem_map.mp hn
    exact lane_nodeOf_lt s entry.1 entry.2
  color := by
    intro hne n hn
    obtain ⟨entry, -, rfl⟩ := List.mem_map.mp hn
    exact color_nodeOf hne entry.1 entry.2

/-! ## Nodes -/

theorem getElem?_nodes (s : Snapshot) (i : Nat) :
    (ofSnapshot s).nodes[i]? = s.commits[i]?.map fun c => nodeOf s c i := by
  rw [ofSnapshot, List.getElem?_map, List.getElem?_zipIdx, Option.map_map]
  simp only [Nat.zero_add]
  rfl

theorem map_id_nodes (s : Snapshot) : (ofSnapshot s).nodes.map (·.id) = s.commitIds := by
  have hids : (ofSnapshot s).nodes.map (·.id) = (s.commits.zipIdx.map Prod.fst).map (·.id) := by
    rw [ofSnapshot, List.map_map, List.map_map]
    rfl
  rw [hids, List.zipIdx_map_fst]
  rfl

theorem mem_nodes_iff {n : GraphNode} :
    n ∈ (ofSnapshot s).nodes ↔ ∃ i c, s.commits[i]? = some c ∧ n = nodeOf s c i := by
  rw [List.mem_iff_getElem?]
  constructor
  · rintro ⟨i, hi⟩
    rw [getElem?_nodes, Option.map_eq_some_iff] at hi
    obtain ⟨c, hc, rfl⟩ := hi
    exact ⟨i, c, hc, rfl⟩
  · rintro ⟨i, c, hc, rfl⟩
    exact ⟨i, by rw [getElem?_nodes, hc]; rfl⟩

/-- A commit has its node in the column that is its place among the commits. -/
theorem exists_node (h : s.commitIds.Nodup) {id : String} (hid : id ∈ s.commitIds) :
    ∃ n ∈ (ofSnapshot s).nodes, n.id = id ∧ n.column = s.commitIds.idxOf id := by
  obtain ⟨c, hc, rfl⟩ := List.mem_map.mp hid
  obtain ⟨i, hi⟩ := List.getElem?_of_mem hc
  refine ⟨nodeOf s c i, mem_nodes_iff.mpr ⟨i, c, hi, rfl⟩, rfl, ?_⟩
  have hplace : s.commitIds[i]? = some c.id := by
    rw [Snapshot.commitIds, List.getElem?_map, hi]
    rfl
  obtain ⟨hlt, hget⟩ := List.getElem?_eq_some_iff.mp hplace
  rw [← hget, h.idxOf_getElem]
  rfl

/-- The mark is on the node of the commit that the pointer is that of, and on no other node; on no
node at all for the pointer that points nowhere. -/
def MarksOnly (g : Graph) (marked : GraphNode → Bool) (pointer : String) : Prop :=
  (pointer = "" → g.nodes.filter marked = []) ∧
    (pointer ≠ "" → ∃ n, g.nodes.filter marked = [n] ∧ n.id = pointer)

theorem marksOnly_of_iff (hids : s.commitIds.Nodup) (hne : "" ∉ s.commitIds) {pointer : String}
    (hp : s.Points pointer) {marked : GraphNode → Bool}
    (hmarked : ∀ n ∈ (ofSnapshot s).nodes, marked n = true ↔ n.id = pointer) :
    (ofSnapshot s).MarksOnly marked pointer := by
  have hfilter : (ofSnapshot s).nodes.filter marked =
      (ofSnapshot s).nodes.filter (·.id = pointer) :=
    List.filter_congr fun n hn => Bool.eq_iff_iff.mpr (by simpa using hmarked n hn)
  rw [MarksOnly, hfilter]
  constructor
  · rintro rfl
    rw [List.filter_eq_nil_iff]
    intro n hn he
    refine hne ?_
    rw [← map_id_nodes, List.mem_map]
    exact ⟨n, hn, by simpa using he⟩
  · intro hpointer
    obtain ⟨n, hn, rfl, -⟩ := exists_node hids (hp.resolve_left hpointer)
    rw [← map_id_nodes] at hids
    exact ⟨n, filter_eq_singleton hids hn, rfl⟩

/-- A branch is a label of the nodes that it points to. -/
theorem mem_labelsOf_iff (hn : (s.branches.map (·.name)).Nodup) {b : Branch} (hb : b ∈ s.branches)
    {id : String} (hid : id ≠ "") : b.name ∈ labelsOf s id ↔ id = b.commit := by
  simp only [labelsOf, List.mem_map, List.mem_filter, Bool.and_eq_true, decide_eq_true_eq]
  constructor
  · rintro ⟨b', ⟨hb', -, hcommit⟩, hname⟩
    rw [List.inj_on_of_nodup_map hn hb' hb hname] at hcommit
    exact hcommit.symm
  · rintro rfl
    exact ⟨b, ⟨hb, hid, rfl⟩, rfl⟩

/-- A commit stays on the lane of its branch. -/
theorem lane_nodeOf (hn : (s.branches.map (·.name)).Nodup) {c : Commit}
    (hc : c.branch ∈ s.branches.map (·.name)) (column : Nat) :
    (nodeOf s c column).lane = (s.branches.map (·.name)).idxOf c.branch := by
  rw [← map_branch_lanesOf] at hn hc ⊢
  simp only [nodeOf]
  cases hplace : findLane? (lanesOf s) c.branch with
  | none => exact absurd hc (findLane?_eq_none_iff.mp hplace)
  | some place =>
    obtain ⟨l, i⟩ := place
    obtain ⟨hl, hbranch⟩ := findLane?_eq_some hplace
    have hat : ((lanesOf s).map (·.branch))[i]? = some c.branch := by
      rw [List.getElem?_map, hl, ← hbranch]
      rfl
    obtain ⟨hlt, hget⟩ := List.getElem?_eq_some_iff.mp hat
    rw [← hget, hn.idxOf_getElem]
    rfl

theorem lane_nodeOf_of_no_branch {c : Commit} (hc : c.branch ∉ s.branches.map (·.name))
    (column : Nat) : (nodeOf s c column).lane = 0 := by
  rw [← map_branch_lanesOf] at hc
  simp only [nodeOf, findLane?_eq_none_iff.mpr hc]
  rfl

/-! ## Edges -/

theorem mem_edgesOf {c : Commit} {e : GraphEdge} (he : e ∈ edgesOf c) :
    e.child = c.id ∧ (c.parent = some e.parent ∨ ∃ ps ∈ c.parents, e.parent ∈ ps) := by
  rw [edgesOf] at he
  split at he
  · next p further hlisted =>
    have hps : c.parents = some (p :: further) := by
      cases hparents : c.parents with
      | none => rw [hparents] at hlisted; cases hlisted
      | some ps => rw [hparents] at hlisted; exact congrArg some hlisted
    rcases List.mem_cons.mp he with rfl | he
    · exact ⟨rfl, Or.inr ⟨_, hps, List.mem_cons_self⟩⟩
    · obtain ⟨q, hq, rfl⟩ := List.mem_map.mp he
      exact ⟨rfl, Or.inr ⟨_, hps, List.mem_cons_of_mem _ hq⟩⟩
  · next p hparent =>
    split at he
    · cases he
    · rw [List.mem_singleton] at he
      subst he
      exact ⟨rfl, Or.inl hparent⟩
  · cases he

/-- The edges of a commit with known parents: one from its parent, and one from the second. -/
theorem edgesOf_of_linked {c : Commit} {known : List String} (h : c.LinkedTo known)
    (hne : "" ∉ known) :
    edgesOf c = c.parent.toList.map (fun p => { parent := p, child := c.id }) ++
      ((c.parents.getD []).drop 1).map fun q => { parent := q, child := c.id, merge := true } := by
  cases hparents : c.parents with
  | some ps =>
    obtain ⟨p, q, rfl, hparent, -, -⟩ := h.parents ps hparents
    rw [edgesOf, hparents, hparent]
    rfl
  | none =>
    cases hparent : c.parent with
    | none =>
      rw [edgesOf, hparents, hparent]
      rfl
    | some p =>
      have hp : p ≠ "" := fun he => hne (he ▸ h.parent p hparent)
      rw [edgesOf, hparents, hparent]
      exact if_neg hp

/-- The edges into a commit, those from further parents or the others. -/
def into (g : Graph) (id : String) (merge : Bool) : List GraphEdge :=
  g.edges.filter fun e => e.child = id && e.merge = merge

theorem into_ofSnapshot (hids : s.commitIds.Nodup) {c : Commit} (hc : c ∈ s.commits)
    (merge : Bool) : (ofSnapshot s).into c.id merge = (edgesOf c).filter (·.merge = merge) := by
  -- The other commits have other ids, so their edges end elsewhere.
  obtain ⟨before, after, hsplit⟩ := List.append_of_mem hc
  rw [Snapshot.commitIds, hsplit, List.map_append, List.map_cons, List.nodup_middle,
    ← List.map_append, List.nodup_cons] at hids
  have hother : ∀ d ∈ before ++ after,
      (edgesOf d).filter (fun e => e.child = c.id && e.merge = merge) = [] := by
    intro d hd
    have hid : d.id ≠ c.id := fun he => hids.1 (he ▸ List.mem_map_of_mem hd)
    rw [List.filter_eq_nil_iff]
    intro e he
    simp [(mem_edgesOf he).1, hid]
  have hown : (edgesOf c).filter (fun e => e.child = c.id && e.merge = merge) =
      (edgesOf c).filter (·.merge = merge) :=
    List.filter_congr fun e he => by simp [(mem_edgesOf he).1]
  rw [List.forall_mem_append] at hother
  rw [into, ofSnapshot, List.filter_flatMap, hsplit, List.flatMap_append, List.flatMap_cons,
    List.flatMap_eq_nil_iff.mpr hother.1, List.flatMap_eq_nil_iff.mpr hother.2, hown,
    List.append_nil]
  rfl

/-- The parent and the second parent of a merge each have an edge of their own kind. -/
theorem into_eq (h : s.WellLinked) (hne : "" ∉ s.commitIds) {c : Commit} (hc : c ∈ s.commits)
    (merge : Bool) : (ofSnapshot s).into c.id merge =
      if merge then
        ((c.parents.getD []).drop 1).map fun q => { parent := q, child := c.id, merge := true }
      else c.parent.toList.map fun p => { parent := p, child := c.id } := by
  have hfirst : ∀ e ∈ c.parent.toList.map fun p => ({ parent := p, child := c.id } : GraphEdge),
      e.merge = false := List.forall_mem_map.mpr fun _ _ => rfl
  have hsecond : ∀ e ∈ ((c.parents.getD []).drop 1).map fun q =>
      ({ parent := q, child := c.id, merge := true } : GraphEdge), e.merge = true :=
    List.forall_mem_map.mpr fun _ _ => rfl
  rw [into_ofSnapshot h.ids hc, edgesOf_of_linked (h.linkedTo_commitIds hc) hne,
    List.filter_append]
  cases merge with
  | false =>
    rw [List.filter_eq_self.mpr fun e he => by simp [hfirst e he],
      List.filter_eq_nil_iff.mpr fun e he => by simp [hsecond e he], List.append_nil]
    rfl
  | true =>
    rw [List.filter_eq_nil_iff.mpr fun e he => by simp [hfirst e he],
      List.filter_eq_self.mpr fun e he => by simp [hsecond e he], List.nil_append]
    rfl

/-- An edge leads from a node to one further on. -/
theorem edge_ends (h : s.WellLinked) {e : GraphEdge} (he : e ∈ (ofSnapshot s).edges) :
    ∃ p ∈ (ofSnapshot s).nodes, ∃ c ∈ (ofSnapshot s).nodes,
      p.id = e.parent ∧ c.id = e.child ∧ p.column < c.column := by
  obtain ⟨c, hc, he⟩ := List.mem_flatMap.mp he
  obtain ⟨hchild, hparent⟩ := mem_edgesOf he
  have hlt := h.idxOf_lt_of_hasParent ⟨c, hc, hchild.symm, hparent⟩
  have hchildId : e.child ∈ s.commitIds := hchild ▸ List.mem_map_of_mem hc
  have hparentId : e.parent ∈ s.commitIds :=
    List.idxOf_lt_length_iff.mp (Nat.lt_of_lt_of_le hlt List.idxOf_le_length)
  obtain ⟨p, hp, hpid, hpcolumn⟩ := exists_node h.ids hparentId
  obtain ⟨n, hn, hnid, hncolumn⟩ := exists_node h.ids hchildId
  exact ⟨p, hp, n, hn, hpid, hnid, by rwa [hpcolumn, hncolumn]⟩

/-! ## The whole graph -/

/-- The graph shows the repository as it is. -/
structure Depicts (g : Graph) (s : Snapshot) : Prop where
  lanes : g.lanes.map (·.branch) = s.branches.map (·.name)
  palette : ∀ (i : Nat) (l : Lane), g.lanes[i]? = some l → branchColors[i % 8]? = some l.color
  nodes : g.nodes.map (·.id) = s.commitIds
  /-- In the column of its place, and on the lane of the branch that it was made on. -/
  place : ∀ (i : Nat) (c : Commit) (n : GraphNode), s.commits[i]? = some c →
    g.nodes[i]? = some n → n.column = i ∧
      if c.branch = "" then n.lane = 0 else (s.branches.map (·.name))[n.lane]? = some c.branch
  head : g.MarksOnly (·.isHead) s.head
  labels : ∀ b ∈ s.branches, g.MarksOnly (fun n => b.name ∈ n.labels) b.commit
  labelOrder : ∀ n ∈ g.nodes, n.labels.Sublist (s.branches.map (·.name))
  edges : ∀ e ∈ g.edges, ∃ p ∈ g.nodes, ∃ c ∈ g.nodes,
    p.id = e.parent ∧ c.id = e.child ∧ p.column < c.column
  /-- One edge from the parent, and none into a root. -/
  parent : ∀ c ∈ s.commits,
    g.into c.id false = c.parent.toList.map fun p => { parent := p, child := c.id }
  /-- One edge more from the second parent of a merge, and none into another commit. -/
  merged : ∀ c ∈ s.commits,
    (c.isMerge = true → ∃ p q, c.parents = some [p, q] ∧
      g.into c.id true = [{ parent := q, child := c.id, merge := true }]) ∧
    (c.isMerge = false → g.into c.id true = [])

theorem depicts_ofSnapshot (h : s.Sound) (hcolors : s.ColoredInTurn) (hne : "" ∉ s.commitIds) :
    (ofSnapshot s).Depicts s := by
  have hids := h.linked.ids
  have hnames := h.linked.names
  constructor
  case lanes => exact map_branch_lanesOf s
  case palette =>
    intro i l hl
    obtain ⟨b, hb, rfl⟩ := Option.map_eq_some_iff.mp ((List.getElem?_map ..).symm.trans hl)
    exact (branchColor_eq i).trans (congrArg some (hcolors.color_eq hb).symm)
  case nodes => exact map_id_nodes s
  case place =>
    intro i c n hc hn
    rw [getElem?_nodes, hc] at hn
    cases hn
    refine ⟨rfl, ?_⟩
    split
    · next hbranch =>
      refine lane_nodeOf_of_no_branch (fun hmem => ?_) i
      exact (h.named _ hmem).1 hbranch
    · next hbranch =>
      have hmem := (h.coherent.commits c (List.mem_of_getElem? hc)).resolve_left hbranch
      rw [lane_nodeOf hnames hmem]
      exact List.getElem?_idxOf hmem
  case head =>
    refine marksOnly_of_iff hids hne h.linked.head fun n hn => ?_
    obtain ⟨i, c, -, rfl⟩ := mem_nodes_iff.mp hn
    exact decide_eq_true_iff
  case labels =>
    intro b hb
    refine marksOnly_of_iff hids hne (h.linked.branches b hb) fun n hn => ?_
    obtain ⟨i, c, hc, rfl⟩ := mem_nodes_iff.mp hn
    have hid : c.id ≠ "" := fun he => hne (he ▸ List.mem_map_of_mem (List.mem_of_getElem? hc))
    exact decide_eq_true_iff.trans (mem_labelsOf_iff hnames hb hid)
  case labelOrder =>
    intro n hn
    obtain ⟨i, c, -, rfl⟩ := mem_nodes_iff.mp hn
    exact List.filter_sublist.map _
  case edges => exact fun e he => edge_ends h.linked he
  case parent => exact fun c hc => into_eq h.linked hne hc false
  case merged =>
    intro c hc
    have hlink := h.linked.linkedTo_commitIds hc
    rw [into_eq h.linked hne hc, if_pos rfl]
    constructor
    · intro hm
      obtain ⟨ps, hps⟩ := Option.ne_none_iff_exists'.mp (hlink.isMerge.mp hm)
      obtain ⟨p, q, rfl, -, -, -⟩ := hlink.parents ps hps
      exact ⟨p, q, hps, by rw [hps]; rfl⟩
    · intro hm
      have hps : c.parents = none := by
        by_contra hlisted
        rw [hlink.isMerge.mpr hlisted] at hm
        cases hm
      rw [hps]
      rfl

end Graph

/-! ## Runs -/

namespace Session

theorem coloredInTurn_runAll (source : Source) (lines : List String) :
    (runAll source {} lines).snapshot.ColoredInTurn :=
  runAll_keeps Snapshot.ColoredInTurn.empty (fun hs h => h.step hs) lines

end Session

namespace Graph

/-- In any repository, however it came about, each node is on a lane and has its colour. In one that
comes about by running lines the graph shows the repository as it is. -/
theorem depicts_runAll :
    (∀ s, (ofSnapshot s).OnLanes s) ∧
      ∀ source : Source, (∀ n, source.ids.nth n ≠ "") → ∀ lines,
        (ofSnapshot (Session.runAll source {} lines).snapshot).Depicts
          (Session.runAll source {} lines).snapshot := by
  refine ⟨onLanes_ofSnapshot, fun source hids lines => ?_⟩
  have hne : "" ∉ (Session.runAll source {} lines).snapshot.commitIds :=
    fun hmem => Session.forall_commitIds_runAll (P := (· ≠ "")) hids lines "" hmem rfl
  exact depicts_ofSnapshot (Session.sound_runAll source lines)
    (Session.coloredInTurn_runAll source lines) hne

/-- Two roots, a merge of both, a merge of a branch with one at the same commit, and a commit on no
branch. -/
theorem depicts_of_two_roots :
    let lines := ["git init", "git checkout -b side", "git add .", "git commit -m one",
      "git checkout main", "touch a", "git add a", "git commit -m two", "git merge side",
      "git checkout side", "git branch twin", "git merge twin", "git checkout c000001", "touch b",
      "git add b", "git commit -m three"]
    let s := (Session.runAll .sample {} lines).snapshot
    (∀ n, Source.sample.ids.nth n ≠ "") ∧
      (ofSnapshot s).nodes.map (fun n => (n.id, n.lane, n.labels)) =
        [("c000001", 1, ["twin"]), ("c000002", 0, []), ("c000003", 0, ["main"]),
          ("c000004", 1, ["side"]), ("c000005", 0, [])] ∧
      (ofSnapshot s).edges.map (fun e => (e.parent, e.child, e.merge)) =
        [("c000002", "c000003", false), ("c000001", "c000003", true),
          ("c000001", "c000004", false), ("c000001", "c000004", true),
          ("c000001", "c000005", false)] ∧
      (ofSnapshot s).OnLanes s ∧ (ofSnapshot s).Depicts s := by
  intro lines s
  have hids : ∀ n, Source.sample.ids.nth n ≠ "" := IdSource.numbered_ne_empty
  exact ⟨hids, by decide +kernel, by decide +kernel, depicts_runAll.1 s,
    depicts_runAll.2 .sample hids lines⟩

end Graph
end GitPractice
