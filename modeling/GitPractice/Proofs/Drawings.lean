import GitPractice.Proofs.Ids
import GitPractice.Proofs.Markup
import GitPractice.Proofs.Styles
import GitPractice.Screen.Drawing

/-!
# Views that can be drawn

A drawing prints without a fault if each of its steps does, and a table does if
its texts can be shown. What users type is put into the tables as it is, with
one exception: the table of files reads the names of files as markup. It can be
drawn if all of them are legible (`fileTable_ok`), and on a terminal with room
for it only then (`fileTable_ok_iff`); every other view can be drawn as long as
its colours and the ids in it are in order.
-/

namespace GitPractice
namespace Screen

/-! ## Steps -/

/-- Every step prints something. -/
def Drawing.Prints (d : Drawing) : Prop := ∀ step ∈ d, ∃ text, step = .ok text

namespace Drawing

theorem print_eq_none_iff {d : Drawing} : d.print.2 = none ↔ d.Prints := by
  induction d with
  | nil => simp [print, Prints]
  | cons step d ih =>
    cases step with
    | error fault => simp [print, Prints]
    | ok text => simpa [print, Prints] using ih

theorem prints_nil : Prints [] := fun _ h => by cases h

theorem prints_cons {step : Except Fault String} {d : Drawing} :
    Prints (step :: d) ↔ (∃ text, step = .ok text) ∧ d.Prints := List.forall_mem_cons

theorem prints_append {d d' : Drawing} : Prints (d ++ d') ↔ d.Prints ∧ d'.Prints :=
  List.forall_mem_append

theorem prints_ite {c : Prop} [Decidable c] {d d' : Drawing} (h : d.Prints) (h' : d'.Prints) :
    Prints (if c then d else d') := by
  split
  · exact h
  · exact h'

theorem line_ok (tm : Terminal) (s : String) : ∃ text, line tm s = .ok text := ⟨_, rfl⟩

/-- Lines of text always print. -/
theorem prints_lines {α : Type} (tm : Terminal) (f : α → String) (xs : List α) :
    Prints (xs.map fun x => line tm (f x)) := by
  intro step hstep
  obtain ⟨x, -, rfl⟩ := List.mem_map.mp hstep
  exact line_ok tm (f x)

theorem prints_line (tm : Terminal) (s : String) : Prints [line tm s] := prints_lines tm id [s]

end Drawing

/-- All steps of a walk over a list succeed with the property, or one fails or misses it. -/
theorem exists_mapM_ok_iff {α β ε : Type} {f : α → Except ε β} {P : β → Prop} {xs : List α} :
    (∃ ys, xs.mapM f = .ok ys ∧ ∀ y ∈ ys, P y) ↔ ∀ x ∈ xs, ∃ y, f x = .ok y ∧ P y := by
  induction xs with
  | nil => simp [pure, Except.pure]
  | cons x xs ih =>
    rw [List.mapM_cons, List.forall_mem_cons, ← ih]
    cases hx : f x with
    | error e => simp [bind, Except.bind]
    | ok y =>
      cases hxs : xs.mapM f with
      | error e => simp [bind, Except.bind]
      | ok ys => simp [bind, Except.bind, pure, Except.pure]

/-- A walk that succeeds has succeeded everywhere. -/
theorem mapM_eq_ok_iff {α β ε : Type} {f : α → Except ε β} {xs : List α} {ys : List β} :
    xs.mapM f = .ok ys ↔ List.Forall₂ (fun x y => f x = .ok y) xs ys := by
  induction xs generalizing ys with
  | nil => simp [pure, Except.pure, eq_comm]
  | cons x xs ih =>
    rw [List.mapM_cons, List.forall₂_cons_left_iff]
    cases hx : f x with
    | error e => simp [bind, Except.bind]
    | ok y =>
      cases hxs : xs.mapM f with
      | error e => simp [bind, Except.bind, ← ih, hxs]
      | ok zs => simp [bind, Except.bind, pure, Except.pure, ← ih, hxs, eq_comm]

section

variable {α β : Type} {R : α → β → Prop} {xs : List α} {ys : List β}

theorem exists_right_of_forall₂ (h : List.Forall₂ R xs ys) {x : α} (hx : x ∈ xs) : ∃ y ∈ ys, R x y := by
  induction h with
  | nil => cases hx
  | @cons a b as bs hab _ ih =>
    rcases List.mem_cons.mp hx with rfl | hx
    · exact ⟨b, List.mem_cons_self, hab⟩
    · obtain ⟨y, hy, hR⟩ := ih hx
      exact ⟨y, List.mem_cons_of_mem b hy, hR⟩

theorem exists_left_of_forall₂ (h : List.Forall₂ R xs ys) {y : β} (hy : y ∈ ys) : ∃ x ∈ xs, R x y :=
  exists_right_of_forall₂ (List.Forall₂.flip h) hy

end

/-! ## Texts and tables -/

variable {tm : Terminal}

theorem marked_eq_ok_iff {s : String} {styled : Styled} :
    marked tm s = .ok styled ↔ Markup.render tm.emoji s = .ok styled := by
  rw [marked]
  constructor
  · intro h
    split at h
    · next hrender =>
      cases h
      exact hrender
    · cases h
    · cases h
  · intro h
    rw [h]

/-- Plain text is no markup. -/
theorem marked_of_isPlain {s : String} (h : Markup.IsPlain tm.emoji s.toList) :
    marked tm s = .ok (Styled.plain s) :=
  marked_eq_ok_iff.mpr (Markup.render_of_isPlain h)

/-- The text can be made and shown. -/
def Shows (text : Except Fault Styled) : Prop := ∃ s, text = .ok s ∧ s.Showable

/-- The text makes sense as markup, styles included. -/
def Legible (tm : Terminal) (s : String) : Prop := Shows (marked tm s)

theorem shows_plain (s : String) {style : String} (h : Style.Usable style) :
    Shows (plain s style) := by
  refine ⟨_, rfl, fun name hname => ?_⟩
  rw [Styled.styles] at hname
  split at hname
  · cases hname
  · rw [List.mem_singleton.mp hname]
    exact h

/-- A text without an opening bracket is legible. -/
theorem legible_of_no_bracket {s : String} (h : '[' ∉ s.toList) : Legible tm s :=
  ⟨_, marked_eq_ok_iff.mpr (Markup.render_of_no_tag (Markup.hasTag_of_no_bracket h)), fun _ hmem => by cases hmem⟩

namespace Unread

/-- All texts of the column can be made and shown. -/
structure Shows (c : Unread) : Prop where
  heading : Screen.Shows c.heading
  cells : ∀ cell ∈ c.cells, Screen.Shows cell

theorem read_eq_ok_iff {c : Unread} {column : Column} :
    c.read = .ok column ↔ ∃ heading cells, c.heading = .ok heading ∧ List.Forall₂ (· = .ok ·) c.cells cells ∧
      column = { heading, cells, centered := c.centered, fixedWidth := c.fixedWidth } := by
  have hall (cells : List Styled) : c.cells.mapM id = .ok cells ↔ List.Forall₂ (· = .ok ·) c.cells cells :=
    mapM_eq_ok_iff
  simp only [read, ← hall]
  cases hheading : c.heading with
  | error e => simp [bind, Except.bind]
  | ok heading =>
    cases hcells : c.cells.mapM id with
    | error e => simp [bind, Except.bind]
    | ok cells => simp [bind, Except.bind, pure, Except.pure, eq_comm]

theorem read_ok {c : Unread} (h : c.Shows) : ∃ column, c.read = .ok column ∧ column.Showable := by
  obtain ⟨heading, hheading, hshowable⟩ := h.heading
  obtain ⟨cells, hcells, hall⟩ := exists_mapM_ok_iff.mpr h.cells
  exact ⟨_, read_eq_ok_iff.mpr ⟨heading, cells, hheading, mapM_eq_ok_iff.mp hcells, rfl⟩, hshowable, hall⟩

theorem showable_blank (c : Unread) : c.blank.Showable := by
  refine ⟨Styled.showable_plain "", fun s hs => ?_⟩
  obtain ⟨_, -, rfl⟩ := List.mem_map.mp hs
  exact Styled.showable_plain ""

end Unread

theorem shows_column {α : Type} {heading : String} {f : α → Except Fault Styled} {xs : List α}
    {centered : Bool} (h : ∀ x ∈ xs, Shows (f x)) : (column heading (xs.map f) centered).Shows :=
  ⟨shows_plain heading (by decide), List.forall_mem_map.mpr h⟩

section

variable {t : Table} {columns : List Unread}

/-- Without room for texts none is read, and there is nothing to fail. -/
theorem table_of_no_room (h : tm.columns < columns.length + 4) :
    table tm t columns = .ok (Table.render { t with columns := columns.map Unread.blank } tm.columns) := by
  have hfailure : Table.failure? { t with columns := columns.map Unread.blank } tm.columns = none :=
    Table.failure?_eq_none (List.forall_mem_map.mpr fun c _ => c.showable_blank) _
  rw [table, hasRoom, if_neg (by simpa using h)]
  simp only [bind, Except.bind, pure, Except.pure, hfailure]

/-- A table that is drawn with room for texts has read them all. -/
theorem table_eq_ok_iff {text : String} (hroom : columns.length + 4 ≤ tm.columns) :
    table tm t columns = .ok text ↔ ∃ cs, List.Forall₂ (·.read = .ok ·) columns cs ∧
      Table.failure? { t with columns := cs } tm.columns = none ∧
      text = Table.render { t with columns := cs } tm.columns := by
  rw [table, hasRoom, if_pos (decide_eq_true hroom)]
  simp only [← mapM_eq_ok_iff]
  cases hcs : columns.mapM Unread.read with
  | error e => simp [bind, Except.bind]
  | ok cs =>
    cases hfailure : Table.failure? { t with columns := cs } tm.columns with
    | some e => simp [bind, Except.bind, hfailure, throw, throwThe, MonadExceptOf.throw]
    | none => simp [bind, Except.bind, pure, Except.pure, hfailure, eq_comm]

/-- On any terminal a table of texts that can be shown is drawn. -/
theorem table_ok (h : ∀ c ∈ columns, c.Shows) : ∃ text, table tm t columns = .ok text := by
  by_cases hroom : tm.columns < columns.length + 4
  · exact ⟨_, table_of_no_room hroom⟩
  · obtain ⟨cs, hcs, hshowable⟩ := exists_mapM_ok_iff.mpr fun c hc => Unread.read_ok (h c hc)
    have hfailure : Table.failure? { t with columns := cs } tm.columns = none :=
      Table.failure?_eq_none hshowable _
    exact ⟨_, (table_eq_ok_iff (Nat.not_lt.mp hroom)).mpr ⟨cs, mapM_eq_ok_iff.mp hcs, hfailure, rfl⟩⟩

end

/-! ## Tables of the views -/

/-- The colours of branches, and no colour at all, can be used as they are and in bold. -/
theorem usable_of_color {color : String} (h : color = "" ∨ color ∈ branchColors) :
    Style.Usable color ∧ Style.Usable ("bold " ++ color) := by
  have hall : ∀ color ∈ "" :: branchColors,
      Style.Usable color ∧ Style.Usable ("bold " ++ color) := by decide +kernel
  exact hall color (List.mem_cons.mpr h)

theorem branchTable_ok {p : StatusPanel}
    (h : ∀ b ∈ p.branches, b.color ∈ branchColors ∧ '[' ∉ b.commit.toList) :
    ∃ text, branchTable tm p = .ok text := by
  apply table_ok
  simp only [List.forall_mem_cons]
  refine ⟨shows_column fun b _ => shows_plain _ (by decide), shows_column fun b hb => ?_,
    shows_column fun b hb => legible_of_no_bracket (h b hb).2, fun _ hmem => by cases hmem⟩
  obtain ⟨hcolor, hbold⟩ := usable_of_color (Or.inr (h b hb).1)
  apply shows_plain
  split
  · exact hbold
  · exact hcolor

theorem no_bracket_clockText (t : TimeOfDay) : '[' ∉ t.clockText.toList := by
  simp [TimeOfDay.clockText, Text.not_mem_padded]

theorem historyTable_ok (tm : Terminal) (p : HistoryPanel) : ∃ text, historyTable tm p = .ok text := by
  apply table_ok
  simp only [List.forall_mem_cons]
  refine ⟨⟨⟨_, rfl, Styled.showable_plain ""⟩, List.forall_mem_map.mpr fun e _ => ?_⟩,
    shows_column fun e _ => shows_plain _ (by decide), shows_column fun e _ => shows_plain _ (by decide),
    shows_column fun e _ => legible_of_no_bracket (no_bracket_clockText _), fun _ hmem => by cases hmem⟩
  exact ⟨_, rfl, Styled.showable_plain _⟩

section

variable {g : Graph} {n : GraphNode}

/-- Nodes and lanes have colours of branches, or a node has none. -/
structure Colored (g : Graph) : Prop where
  lanes : ∀ l ∈ g.lanes, l.color ∈ branchColors
  nodes : ∀ n ∈ g.nodes, n.color = "" ∨ n.color ∈ branchColors

theorem showable_glyphs (h : n.color = "" ∨ n.color ∈ branchColors) (lanes : Nat) :
    (glyphs lanes n).Showable := by
  rw [glyphs]
  refine List.foldlRecOn _ _ (Styled.showable_plain "") fun s hs lane _ => ?_
  split
  · exact hs.add _ (usable_of_color h).2
  · exact hs.add _ (by decide +kernel)

theorem mem_of_findLane? {lanes : List Lane} {label : String} {entry : Lane × Nat}
    (h : Graph.findLane? lanes label = some entry) : entry.1 ∈ lanes := by
  have hfind := List.mem_of_find?_eq_some h
  exact List.fst_mem_of_mem_zipIdx (List.mem_reverse.mp hfind)

/-- The colour of a label is that of its lane. -/
theorem color_of_label (h : ∀ l ∈ g.lanes, l.color ∈ branchColors) (label : String) :
    ((Graph.findLane? g.lanes label).map (·.1.color)).getD "" = "" ∨
      ((Graph.findLane? g.lanes label).map (·.1.color)).getD "" ∈ branchColors := by
  cases hfound : Graph.findLane? g.lanes label with
  | none => exact Or.inl rfl
  | some entry => exact Or.inr (h _ (mem_of_findLane? hfound))

theorem usable_of_mem_refParts (h : ∀ l ∈ g.lanes, l.color ∈ branchColors) :
    ∀ part ∈ refParts g n, Style.Usable part.2 := by
  rw [refParts]
  simp only [List.forall_mem_append]
  constructor
  · split
    · rw [List.forall_mem_cons]
      refine ⟨by decide +kernel, ?_⟩
      split
      · rw [List.forall_mem_singleton]
        decide +kernel
      · exact fun _ hmem => by cases hmem
    · exact fun _ hmem => by cases hmem
  · refine forall_mem_intersperse (by decide) fun part hpart => ?_
    obtain ⟨label, -, rfl⟩ := List.mem_map.mp hpart
    exact (usable_of_color (color_of_label h label)).1

theorem showable_refs (h : ∀ l ∈ g.lanes, l.color ∈ branchColors) : (refs g n).Showable := by
  rw [refs]
  refine List.foldlRecOn _ _ (Styled.showable_plain "") fun s hs part hpart => ?_
  exact hs.add _ (usable_of_mem_refParts h part hpart)

theorem graphTable_ok (hcolored : Colored g) (hids : ∀ n ∈ g.nodes, '[' ∉ n.short.toList) :
    ∃ text, graphTable tm g = .ok text := by
  apply table_ok
  simp only [List.forall_mem_cons]
  refine ⟨shows_column fun n hn => ⟨_, rfl, ?_⟩, shows_column fun n hn => ?_,
    shows_column fun n _ => shows_plain _ (by decide), shows_column fun n _ => ⟨_, rfl, ?_⟩,
    fun _ hmem => by cases hmem⟩
  · exact showable_glyphs (hcolored.nodes n (List.mem_reverse.mp hn)) _
  · exact legible_of_no_bracket (hids n (List.mem_reverse.mp hn))
  · exact showable_refs hcolored.lanes

end

theorem not_mem_toList_ofList {c : Char} {cs : List Char} (h : cs.contains c = false) :
    c ∉ (String.ofList cs).toList := by
  rw [String.toList_ofList]
  simpa using h

/-- The texts of the catalogue are no markup. -/
theorem no_bracket_of_mem_catalog : ∀ t ∈ Topic.catalog,
    '[' ∉ t.name.toList ∧ '[' ∉ t.category.toList ∧ '[' ∉ t.description.toList ∧
      ∀ use ∈ t.useCases, '[' ∉ use.toList := by
  simp only [Topic.catalog, List.forall_mem_cons]
  repeat' apply And.intro
  -- Each text is a list of characters at once; to read it as a text again would take long.
  all_goals first
    | exact List.forall_mem_nil _
    | refine not_mem_toList_ofList ?_
      rfl

theorem topicTable_ok {topics : List Topic} (h : topics ⊆ Topic.catalog) :
    ∃ text, topicTable tm topics = .ok text := by
  apply table_ok
  simp only [List.forall_mem_cons]
  refine ⟨shows_column fun t ht => ?_, shows_column fun t ht => ?_, shows_column fun t ht => ?_,
    shows_column fun t _ => shows_plain _ (by decide), fun _ hmem => by cases hmem⟩
  all_goals
    obtain ⟨hname, hcategory, hdescription, -⟩ := no_bracket_of_mem_catalog t (h ht)
    apply legible_of_no_bracket
    assumption

/-- A line of text without an opening bracket can be printed. -/
theorem markedLine_ok {s : String} (h : '[' ∉ s.toList) : ∃ text, markedLine tm s = .ok text := by
  obtain ⟨styled, hmarked, hshowable⟩ : Legible tm s := legible_of_no_bracket h
  have hfailure : (printedLines tm.columns styled).findSome? Styled.failure? = none := by
    rw [List.findSome?_eq_none_iff]
    intro line hline
    rw [Styled.failure?_eq_none_iff]
    exact hshowable.of_styles_subset (Styled.styles_of_mem_printedLines hline)
  refine ⟨printed tm.columns styled, ?_⟩
  rw [markedLine, hmarked]
  simp only [bind, Except.bind, hfailure]
  rfl

/-! ## Views -/

open Drawing

theorem prints_drawOutcome (tm : Terminal) (o : Outcome) : (drawOutcome tm o).Prints :=
  prints_ite prints_nil (prints_line tm _)

theorem prints_drawHistory (tm : Terminal) (p : HistoryPanel) : (drawHistory tm p).Prints := by
  have htable : ∃ text, historyTable tm p = .ok text := historyTable_ok tm p
  exact prints_ite (prints_line tm _)
    (prints_cons.mpr ⟨htable, prints_ite (prints_line tm _) prints_nil⟩)

theorem prints_drawGraph {g : Graph} (hcolored : Colored g)
    (hids : ∀ n ∈ g.nodes, '[' ∉ n.short.toList) : (drawGraph tm g).Prints := by
  have htable : ∃ text, graphTable tm g = .ok text := graphTable_ok hcolored hids
  exact prints_ite (prints_line tm _)
    (prints_cons.mpr ⟨htable, prints_ite (prints_line tm _) prints_nil⟩)

theorem prints_drawTopics {topics : List Topic} (h : topics ⊆ Topic.catalog) :
    (drawTopics tm topics).Prints :=
  prints_ite (prints_line tm _) (prints_cons.mpr ⟨topicTable_ok h, prints_nil⟩)

theorem prints_drawTopic {t : Topic} (h : t ∈ Topic.catalog) : (drawTopic tm t).Prints := by
  obtain ⟨-, -, hdescription, huses⟩ := no_bracket_of_mem_catalog t h
  have huseCases : Prints (t.useCases.map fun u => markedLine tm ("  - " ++ u)) := by
    intro step hstep
    obtain ⟨use, huse, rfl⟩ := List.mem_map.mp hstep
    refine markedLine_ok ?_
    rw [String.toList_append, List.mem_append, not_or]
    exact ⟨by decide, huses use huse⟩
  rw [drawTopic]
  simp only [prints_append, prints_cons, and_assoc]
  exact ⟨line_ok tm _, markedLine_ok hdescription, line_ok tm _, prints_nil, prints_lines tm _ _, line_ok tm _,
    prints_nil, huseCases, prints_ite prints_nil (prints_line tm _),
    prints_ite prints_nil (prints_line tm _)⟩

/-! ## The table of files -/

/-- What is shown of a name without blanks has none. -/
theorem no_blank_of_marked {name : String} (hname : ∀ c ∈ name.toList, Text.isBlank c = false)
    {s : Styled} (h : marked tm name = .ok s) : ∀ c ∈ s.text, Text.isBlank c = false :=
  Markup.no_blank_of_render hname (marked_eq_ok_iff.mp h)

section

variable {p : StatusPanel}

theorem marked_area {area : String}
    (h : area ∈ p.staged.map (fun _ => "staged") ++ p.working.map fun _ => "working") :
    marked tm area = .ok (Styled.plain area) ∧ measure (Styled.plain area).text ≤ 7 := by
  have harea : area = "staged" ∨ area = "working" := by
    simp only [List.mem_append, List.mem_map] at h
    rcases h with ⟨_, -, rfl⟩ | ⟨_, -, rfl⟩
    · exact Or.inl rfl
    · exact Or.inr rfl
  rcases harea with rfl | rfl
  · exact ⟨marked_of_isPlain (Markup.isPlain_of_no_sign (by decide) (by decide)), by decide⟩
  · exact ⟨marked_of_isPlain (Markup.isPlain_of_no_sign (by decide) (by decide)), by decide⟩

/-- The files can be listed if all their names are legible. -/
theorem fileTable_ok (h : ∀ f ∈ p.staged ++ p.working, Legible tm f.name) :
    ∃ text, fileTable tm p = .ok text := by
  apply table_ok
  simp only [List.forall_mem_cons]
  exact ⟨shows_column fun area harea => ⟨_, (marked_area harea).1, Styled.showable_plain area⟩, shows_column h,
    shows_column fun f _ => shows_plain _ (by decide), fun _ hmem => by cases hmem⟩

theorem measure_status (status : FileStatus) : measure (Styled.plain status.name).text ≤ 9 := by
  cases status <;> decide

/-- The table of files with what has been read for it. -/
def fileColumns (areas names statuses : List Styled) : Table where
  box := Box.rounded
  columns := [{ heading := Styled.plain "Area", cells := areas }, { heading := Styled.plain "File", cells := names },
    { heading := Styled.plain "Status", cells := statuses }]

/-- Wherever there is room for texts at all, the table of files is drawn only if all names are read. -/
theorem read_of_fileTable (hroom : 7 ≤ tm.columns) {text : String} (h : fileTable tm p = .ok text) :
    ∃ areas names statuses, (fileColumns areas names statuses).failure? tm.columns = none ∧
      List.Forall₂ (fun f s => marked tm f.name = .ok s) (p.staged ++ p.working) names ∧
      (∀ s ∈ areas, measure s.text ≤ 7) ∧ ∀ s ∈ statuses, measure s.text ≤ 9 := by
  obtain ⟨cs, hcs, hfailure, -⟩ := (table_eq_ok_iff (by simpa using hroom)).mp h
  rcases hcs with _ | ⟨harea, _ | ⟨hname, _ | ⟨hstatus, ⟨⟩⟩⟩⟩
  obtain ⟨_, areas, ⟨⟩, hareas, rfl⟩ := Unread.read_eq_ok_iff.mp harea
  obtain ⟨_, names, ⟨⟩, hnames, rfl⟩ := Unread.read_eq_ok_iff.mp hname
  obtain ⟨_, statuses, ⟨⟩, hstatuses, rfl⟩ := Unread.read_eq_ok_iff.mp hstatus
  refine ⟨areas, names, statuses, hfailure, List.forall₂_map_left_iff.mp hnames, fun s hs => ?_, fun s hs => ?_⟩
  · obtain ⟨area, harea, heq⟩ := exists_left_of_forall₂ (List.forall₂_map_left_iff.mp hareas) hs
    obtain ⟨hmarked, hmeasure⟩ := marked_area harea
    cases hmarked.symm.trans heq
    exact hmeasure
  · obtain ⟨f, -, ⟨⟩⟩ := exists_left_of_forall₂ (List.forall₂_map_left_iff.mp hstatuses) hs
    exact measure_status f.status

/-- The terminal has room for the names, with areas and statuses beside them. -/
structure Roomy (tm : Terminal) (names : List String) : Prop where
  columns : 30 ≤ tm.columns
  names : ∀ name ∈ names, ∀ s, marked tm name = .ok s → Text.width s.text + 26 ≤ tm.columns

/-- Where there is room for the names, the table is drawn only if all of them are legible. -/
theorem fileTable_ok_iff (hroom : Roomy tm ((p.staged ++ p.working).map (·.name)))
    (hwords : ∀ f ∈ p.staged ++ p.working, ∀ c ∈ f.name.toList, Text.isBlank c = false) :
    (∃ text, fileTable tm p = .ok text) ↔ ∀ f ∈ p.staged ++ p.working, Legible tm f.name := by
  refine ⟨fun ⟨text, htext⟩ => ?_, fileTable_ok⟩
  have hcolumns := hroom.columns
  obtain ⟨areas, names, statuses, hfailure, hnames, hareas, hstatuses⟩ := read_of_fileTable (by omega) htext
  have hword (s : Styled) (hs : s ∈ names) :
      (∀ c ∈ s.text, Text.isBlank c = false) ∧ measure s.text + 26 ≤ tm.columns := by
    obtain ⟨f, hf, hmarked⟩ := exists_left_of_forall₂ hnames hs
    have hblank := no_blank_of_marked (hwords f hf) hmarked
    rw [Styled.measure_of_no_blank hblank]
    exact ⟨hblank, hroom.names f.name (List.mem_map_of_mem hf) s hmarked⟩
  have hfits : (fileColumns areas names statuses).Fits tm.columns := by
    refine ⟨rfl, by simp [fileColumns], ?_⟩
    have hheading (heading : String) (cells : List Styled) {n : Nat} (hn : measure (Styled.plain heading).text ≤ n)
        (hcells : ∀ s ∈ cells, measure s.text ≤ n) : (fileColumns areas names statuses).fullWidth
          { heading := Styled.plain heading, cells := cells } ≤ n + 2 :=
      Table.fullWidth_le (List.forall_mem_cons.mpr ⟨hn, hcells⟩)
    have harea := hheading "Area" areas (by decide) hareas
    have hfile : measure (Styled.plain "File").text ≤ tm.columns - 26 :=
      Nat.le_trans (by decide) (Nat.le_sub_of_add_le hcolumns)
    have hname := hheading "File" names hfile fun s hs => Nat.le_sub_of_add_le (hword s hs).2
    have hstatus := hheading "Status" statuses (by decide) hstatuses
    have hsum (a b c : Nat) : (fileColumns areas names statuses).width [a, b, c] = a + b + c + 4 := by
      simp [Table.width, Table.boxWidth, fileColumns, Nat.add_assoc]
    refine Nat.le_trans (Nat.le_of_eq (hsum _ _ _)) ?_
    omega
  intro f hf
  obtain ⟨s, hs, hmarked⟩ := exists_right_of_forall₂ hnames hf
  have hname : { heading := Styled.plain "File", cells := names } ∈ (fileColumns areas names statuses).columns := by
    simp [fileColumns]
  have hheading : 0 < measure (Styled.plain "File").text := by decide
  exact ⟨s, hmarked, Table.showable_of_no_blank hfits hfailure hname rfl hheading hs (hword s hs).1⟩

/-- Nothing but the table of files can make the panel fail. -/
theorem prints_drawStatus_iff (hbranches : ∀ b ∈ p.branches, b.color ∈ branchColors ∧ '[' ∉ b.commit.toList) :
    (drawStatus tm p).Prints ↔
      (p.initialized = true → p.staged ++ p.working ≠ [] → ∃ text, fileTable tm p = .ok text) := by
  rw [drawStatus]
  cases hi : p.initialized with
  | false =>
    rw [Bool.not_false, if_pos rfl]
    exact iff_of_true (prints_line tm _) fun h => by cases h
  | true =>
    have hfiles : Prints (if p.staged.isEmpty && p.working.isEmpty then [] else [fileTable tm p]) ↔
        (p.staged ++ p.working ≠ [] → ∃ text, fileTable tm p = .ok text) := by
      have hempty : (p.staged.isEmpty && p.working.isEmpty) = true ↔ p.staged ++ p.working = [] := by simp
      split
      · next h => exact iff_of_true prints_nil fun hne => absurd (hempty.mp h) hne
      · next h =>
        rw [prints_cons, and_iff_left prints_nil]
        exact ⟨fun htable _ => htable, fun htable => htable (mt hempty.mpr h)⟩
    have hhead : ∃ text, (if p.detached then line tm ("Detached HEAD at commit: " ++ p.head)
        else line tm ("On branch: " ++ p.currentBranch)) = .ok text := by
      split
      · exact line_ok tm _
      · exact line_ok tm _
    have hrecent : Prints (if p.recentCommits.isEmpty then []
        else line tm "Recent commits:" :: p.recentCommits.map (recentLine tm)) :=
      prints_ite prints_nil (prints_cons.mpr ⟨line_ok tm _, prints_lines tm _ _⟩)
    have hclean : Prints (if p.clean then [line tm "Nothing to commit, working directory clean"]
        else []) :=
      prints_ite (prints_line tm _) prints_nil
    rw [Bool.not_true, if_neg Bool.false_ne_true]
    simp only [prints_append, prints_cons, hhead, hrecent, hclean, prints_nil, hfiles, line_ok,
      branchTable_ok hbranches, and_true, true_and, true_implies]

end
end Screen
end GitPractice
