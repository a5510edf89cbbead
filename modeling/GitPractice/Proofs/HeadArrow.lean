import GitPractice.Proofs.GraphLayout
import GitPractice.Screen.Drawing

/-!
# The arrow from HEAD

In the drawing of the graph the commit under HEAD has an arrow from HEAD to the first
of its branches, in the order in which they were made. Where HEAD stands is not in the
graph, so this need not be the branch that HEAD is on. The arrow goes astray exactly
when a branch that was made before the current one points to the same commit, or when
HEAD is on no branch, is not called detached either, and a branch points there
(`Screen.arrow_astray_iff`).
-/

namespace GitPractice
namespace Screen

variable {g : Graph} {n : GraphNode} {name : String}

/-- The cell of the commit is an arrow from HEAD to this name, behind which further names may stand. -/
def ArrowTo (g : Graph) (n : GraphNode) (name : String) : Prop :=
  ∃ further, (refParts g n).map (·.1) = "HEAD" :: " -> " :: name :: further

/-! ## What a cell shows -/

theorem text_foldl_add (parts : List (String × String)) (before : Styled) :
    (parts.foldl (fun s part => s.add part.1 part.2) before).text =
      before.text ++ parts.flatMap fun part => withoutControls part.1.toList := by
  induction parts generalizing before with
  | nil => rw [List.foldl_nil, List.flatMap_nil, List.append_nil]
  | cons part parts ih =>
    rw [List.foldl_cons, ih, List.flatMap_cons, ← List.append_assoc]
    rfl

/-- The names are shown one behind the other, but for characters that are not printed. -/
theorem text_refs (g : Graph) (n : GraphNode) :
    (refs g n).text = (refParts g n).flatMap fun part => withoutControls part.1.toList :=
  text_foldl_add (refParts g n) {}

theorem ArrowTo.text (h : ArrowTo g n name) :
    ∃ further, (refs g n).text = "HEAD -> ".toList ++ (withoutControls name.toList ++ further) := by
  obtain ⟨further, hparts⟩ := h
  have hmap := List.flatMap_map (·.1) (fun label => withoutControls label.toList) (refParts g n)
  rw [hparts] at hmap
  exact ⟨_, (text_refs g n).trans hmap.symm⟩

/-- Commas are between the labels and nowhere else. -/
theorem map_labelParts (f : String → String) (labels : List String) :
    ((labels.map fun label => (label, f label)).intersperse (", ", "")).map (·.1) = labels.intersperse ", " := by
  induction labels with
  | nil => rfl
  | cons label labels ih =>
    cases labels with
    | nil => rfl
    | cons other labels =>
      rw [List.map_cons, List.map_cons, List.intersperse_cons_cons, List.map_cons, List.map_cons,
        List.intersperse_cons_cons, ← ih]
      rfl

/-- HEAD has an arrow if it is not detached and a branch points to its commit, and the first one is where
the arrow leads. -/
theorem arrowTo_iff (hlabels : " -> " ∉ n.labels) :
    ArrowTo g n name ↔ n.isHead = true ∧ g.detached = false ∧ n.labels.head? = some name := by
  rw [ArrowTo, refParts]
  simp only [List.map_append, map_labelParts]
  cases hnames : n.labels with
  | nil => cases n.isHead <;> simp
  | cons first others =>
    rw [hnames, List.mem_cons, not_or] at hlabels
    obtain ⟨rest, hrest⟩ : ∃ rest, (first :: others).intersperse ", " = first :: rest ∧ rest.head? ≠ some " -> " := by
      cases others with
      | nil => exact ⟨[], rfl, nofun⟩
      | cons other others => exact ⟨_, List.intersperse_cons_cons, by simp⟩
    cases n.isHead with
    | false =>
      simp only [hrest.1, Bool.false_eq_true, if_false, List.map_nil, List.nil_append, false_and, iff_false]
      rintro ⟨further, hparts⟩
      cases hparts
      exact hrest.2 rfl
    | true =>
      cases g.detached with
      | false => simp [hrest.1]
      | true => simp [hrest.1, Ne.symm hlabels.1]

end Screen

/-! ## The branches at HEAD -/

namespace Snapshot

variable {s : Snapshot}

/-- The branches that point to the commit under HEAD. -/
def atHead (s : Snapshot) : List Branch := s.branches.filter fun b => b.commit ≠ "" && b.commit = s.head

theorem head?_labelsOf_head (s : Snapshot) :
    (Graph.labelsOf s s.head).head? = s.atHead.head?.map (·.name) := List.head?_map

theorem Sound.commit_of_current (h : s.Sound) {b : Branch} (hb : b ∈ s.branches) (hname : b.name = s.currentBranch) :
    b.commit = s.head := by
  have hne : s.currentBranch ≠ "" := hname ▸ (h.named.of_mem hb).1
  obtain ⟨-, current, honly, hcommit⟩ := h.coherent.attached hne
  have hmem : b ∈ s.branches.filter (·.name = s.currentBranch) :=
    List.mem_filter.mpr ⟨hb, decide_eq_true hname⟩
  rw [honly, List.mem_singleton] at hmem
  rw [hmem, hcommit]

/-- The first branch at HEAD is another one than the current one exactly if a branch before the current one
is at HEAD, or any branch when there is no current one. -/
theorem Sound.first_atHead (h : s.Sound) :
    (∃ b, s.atHead.head? = some b ∧ b.name ≠ s.currentBranch) ↔
      ∃ b ∈ s.branches.takeWhile (·.name ≠ s.currentBranch), b.commit ≠ "" ∧ b.commit = s.head := by
  constructor
  · rintro ⟨b, hfirst, hname⟩
    obtain ⟨rest, hatHead⟩ := List.head?_eq_some_iff.mp hfirst
    obtain ⟨before, after, hbranches, hbefore, hb, -⟩ := List.filter_eq_cons_iff.mp hatHead
    simp only [Bool.and_eq_true, decide_eq_true_eq] at hb
    -- the current branch is at HEAD too, so it does not come before the first one there
    have hother : ∀ x ∈ before ++ [b], decide (x.name ≠ s.currentBranch) = true := by
      intro x hx
      rw [List.mem_append, List.mem_singleton] at hx
      rw [decide_eq_true_eq]
      rcases hx with hx | rfl
      · intro hcurrent
        have hcommit := h.commit_of_current (hbranches ▸ List.mem_append_left _ hx) hcurrent
        refine hbefore x hx ?_
        simp only [Bool.and_eq_true, decide_eq_true_eq]
        exact ⟨by rw [hcommit, ← hb.2]; exact hb.1, hcommit⟩
      · exact hname
    refine ⟨b, ?_, hb⟩
    rw [hbranches, List.append_cons, List.takeWhile_append_of_pos hother]
    exact List.mem_append_left _ List.mem_concat_self
  · rintro ⟨b, hb, hcommit⟩
    have hmem : b ∈ s.atHead := by
      refine List.mem_filter.mpr ⟨(List.takeWhile_prefix _).subset hb, ?_⟩
      simpa using hcommit
    obtain ⟨first, rest, hatHead⟩ := List.exists_cons_of_ne_nil (List.ne_nil_of_mem hmem)
    refine ⟨first, by rw [hatHead]; rfl, fun hcurrent => ?_⟩
    obtain ⟨before, after, hbranches, hbefore, -⟩ := List.filter_eq_cons_iff.mp hatHead
    refine hbefore b ?_ (List.mem_filter.mp hmem).2
    -- what is taken ends before the current branch
    rw [hbranches, List.takeWhile_append] at hb
    split at hb
    · rwa [List.takeWhile_cons_of_neg (by simpa using hcurrent), List.append_nil] at hb
    · exact (List.takeWhile_prefix _).subset hb

end Snapshot

/-! ## Runs -/

namespace Screen

/-- The arrow leads to the first branch at HEAD. -/
theorem exists_arrowTo_iff {s : Snapshot} (h : s.Sound) {P : String → Prop} :
    (∃ n ∈ (Graph.ofSnapshot s).nodes, ∃ name, ArrowTo (Graph.ofSnapshot s) n name ∧ P name) ↔
      s.detached = false ∧ ∃ b, s.atHead.head? = some b ∧ P b.name := by
  have hlabels {n : GraphNode} (hn : n ∈ (Graph.ofSnapshot s).nodes) : " -> " ∉ n.labels := by
    obtain ⟨i, c, -, rfl⟩ := Graph.mem_nodes_iff.mp hn
    intro hmem
    obtain ⟨b, hb, hname⟩ := List.mem_map.mp hmem
    have hword := (h.named.of_mem (List.mem_of_mem_filter hb)).2 ' '
    rw [hname] at hword
    exact absurd (hword (by decide)) (by decide)
  constructor
  · rintro ⟨n, hn, name, harrow, hname⟩
    obtain ⟨hhead, hdetached, hfirst⟩ := (arrowTo_iff (hlabels hn)).mp harrow
    obtain ⟨i, c, -, rfl⟩ := Graph.mem_nodes_iff.mp hn
    have hid : c.id = s.head := of_decide_eq_true hhead
    have hlabelsOf : (Graph.labelsOf s s.head).head? = some name := hid ▸ hfirst
    rw [Snapshot.head?_labelsOf_head, Option.map_eq_some_iff] at hlabelsOf
    obtain ⟨b, hb, rfl⟩ := hlabelsOf
    exact ⟨hdetached, b, hb, hname⟩
  · rintro ⟨hdetached, b, hb, hname⟩
    obtain ⟨hmem, hcommit⟩ := List.mem_filter.mp (List.mem_of_head? hb)
    simp only [Bool.and_eq_true, decide_eq_true_eq] at hcommit
    have hid : s.head ∈ s.commitIds := by
      have hlisted := (h.linked.branches b hmem).resolve_left hcommit.1
      rwa [hcommit.2] at hlisted
    obtain ⟨n, hn, hnode, -⟩ := Graph.exists_node h.linked.ids hid
    refine ⟨n, hn, b.name, (arrowTo_iff (hlabels hn)).mpr ⟨?_, hdetached, ?_⟩, hname⟩
    · obtain ⟨i, c, -, rfl⟩ := Graph.mem_nodes_iff.mp hn
      exact decide_eq_true hnode
    · obtain ⟨i, c, -, rfl⟩ := Graph.mem_nodes_iff.mp hn
      have hcid : c.id = s.head := hnode
      show (Graph.labelsOf s c.id).head? = _
      rw [hcid, Snapshot.head?_labelsOf_head, hb]
      rfl

/-- Whatever lines are run from the beginning, whatever ids and times the source shows: the arrow leads to
another branch than the current one exactly if HEAD is not detached and a branch that was made before the
current one is at HEAD, or any branch when there is no current one. The name it leads to can be read behind it. -/
theorem arrow_astray_iff (source : Source) (lines : List String) :
    let s := (Session.runAll source {} lines).snapshot
    ((∃ n ∈ (Graph.ofSnapshot s).nodes, ∃ name, ArrowTo (Graph.ofSnapshot s) n name ∧ name ≠ s.currentBranch) ↔
      s.detached = false ∧
        ∃ b ∈ s.branches.takeWhile (·.name ≠ s.currentBranch), b.commit ≠ "" ∧ b.commit = s.head) ∧
    ∀ n name, ArrowTo (Graph.ofSnapshot s) n name → ∃ further,
      (refs (Graph.ofSnapshot s) n).text = "HEAD -> ".toList ++ (withoutControls name.toList ++ further) := by
  intro s
  have h : s.Sound := Session.sound_runAll source lines
  refine ⟨?_, fun n name harrow => harrow.text⟩
  rw [exists_arrowTo_iff h, h.first_atHead]

/-- The branch that was checked out is the second one of two at the same commit. -/
theorem arrow_of_second_branch :
    let s := (Session.runAll .sample {}
      ["git init", "git add .", "git commit -m one", "git checkout -b side"]).snapshot
    let g := Graph.ofSnapshot s
    g.nodes.map (fun n => String.ofList (refs g n).text) = ["HEAD -> main, side"] ∧
      s.currentBranch = "side" := by
  decide +kernel

end Screen
end GitPractice
