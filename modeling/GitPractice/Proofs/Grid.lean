import GitPractice.Proofs.Cells

/-!
# Grids

When every text of a table takes one line, so does every row, and with room for
all of them the table is a grid (`render_of_fits`). All signs of the grid are in
its cells (`signs_gridText`). A table on a narrower terminal is no wider than the
terminal, except for its box (`length_firstLine_le`), and it has no more signs than
its texts, however these are broken and cut (`signs_render_le`).
-/

namespace GitPractice
namespace Screen
namespace Table

/-- The line of a row between its edges. -/
def rowLine (edges : Edges) (cells : List (List Char)) : List Char :=
  edges.left :: (cells.intersperse [edges.divider]).flatten ++ [edges.right]

/-- A text that fits makes one line, or none where there is no room, which is filled up to one. -/
theorem align_of_fits {c : Column} (hcentered : c.centered = false) {text : Styled}
    (hinline : ∀ d ∈ text.text, isInline d = true) {width : Nat}
    (hfits : Text.width text.text + 2 ≤ width) (atBottom : Bool) :
    ((cellLines c width text).map (padded width)).length ≤ 1 ∧
      align atBottom 1 width ((cellLines c width text).map (padded width)) = [cell width text] := by
  rw [cellLines, cell]
  split
  · constructor
    · exact Nat.zero_le 1
    · cases atBottom <;> rfl
  · rw [hcentered, Styled.layOut_of_fits .ellipsis (not_mem_of_inline hinline rfl)
      (not_mem_of_inline hinline rfl) (by omega)]
    constructor
    · exact Nat.le_refl 1
    · cases atBottom <;> rfl

theorem foldl_max_of_le {xs : List Nat} {n : Nat} (h : ∀ x ∈ xs, x ≤ n) : xs.foldl max n = n := by
  induction xs with
  | nil => rfl
  | cons x xs ih =>
    obtain ⟨hx, hxs⟩ := List.forall_mem_cons.mp h
    rw [List.foldl_cons, Nat.max_eq_left hx, ih hxs]

theorem rowLines_of_fits {t : Table} {α : Type} {names : List α} {column : α → Column}
    (hcolumns : t.columns = names.map column) {width : α → Nat} {text : α → Styled}
    (hcentered : ∀ n ∈ names, (column n).centered = false)
    (hinline : ∀ n ∈ names, ∀ c ∈ (text n).text, isInline c = true)
    (hfits : ∀ n ∈ names, Text.width (text n).text + 2 ≤ width n) (edges : Edges)
    (atBottom : Bool) :
    t.rowLines (names.map width) edges atBottom (names.map text) =
      [rowLine edges (names.map fun n => cell (width n) (text n))] := by
  have hcell (n : α) (hn : n ∈ names) :=
    align_of_fits (hcentered n hn) (hinline n hn) (hfits n hn) atBottom
  have hheight : ((names.map fun n =>
      ((cellLines (column n) (width n) (text n)).map (padded (width n))).length).foldl max 1) = 1 := by
    refine foldl_max_of_le fun x hx => ?_
    obtain ⟨n, hn, rfl⟩ := List.mem_map.mp hx
    exact (hcell n hn).1
  have hcells : (names.map fun n => (align atBottom 1 (width n)
      ((cellLines (column n) (width n) (text n)).map (padded (width n)))).getD 0 []) =
      names.map fun n => cell (width n) (text n) := by
    refine List.map_congr_left fun n hn => ?_
    rw [(hcell n hn).2]
    rfl
  rw [rowLines, hcolumns, List.zip_map', List.zip_map']
  simp only [List.map_map, Function.comp_def]
  rw [hheight, List.range_one, List.map_singleton, hcells]
  rfl

/-- The lines of a table in which every row takes one. -/
def gridLines (widths : List Nat) (heading : List (List Char)) (rows : List (List (List Char))) :
    List (List Char) :=
  [stroke Box.heavyHead.top widths, rowLine Box.heavyHead.heading heading, stroke Box.heavyHead.rule widths] ++
    rows.map (rowLine Box.heavyHead.row) ++ [stroke Box.heavyHead.bottom widths]

/-- The lines of a grid as a text. -/
def gridText (widths : List Nat) (heading : List (List Char)) (rows : List (List (List Char))) :
    String :=
  String.ofList ((gridLines widths heading rows).flatMap (· ++ ['\n']))

/-- The table with a column for each of the names and a row for each of the keys. -/
def ofTexts {α β : Type} (names : List α) (keys : List β) (heading : α → Styled) (text : β → α → Styled) :
    Table where
  box := Box.heavyHead
  columns := names.map fun n => { heading := heading n, cells := keys.map fun k => text k n }

section

variable {α β : Type} {names : List α} {keys : List β} {heading : α → Styled} {text : β → α → Styled}

theorem headings_ofTexts : (ofTexts names keys heading text).headings = names.map heading := by
  rw [headings, ofTexts, List.map_map]
  rfl

theorem rows_ofTexts (hne : names ≠ []) :
    (ofTexts names keys heading text).rows = keys.map fun k => names.map (text k) := by
  have hcount : (ofTexts names keys heading text).rowCount = keys.length := by
    obtain ⟨n, ns, rfl⟩ := List.exists_cons_of_ne_nil hne
    rw [rowCount, ofTexts, List.map_map, List.map_cons, List.foldl_cons]
    simp only [Function.comp_apply, List.length_map, Nat.zero_max]
    refine foldl_max_of_le fun x hx => ?_
    obtain ⟨m, -, rfl⟩ := List.mem_map.mp hx
    simp
  rw [rows, hcount]
  refine List.ext_getElem (by simp) fun i hi _ => ?_
  have hkeys : i < keys.length := by simpa using hi
  simp [ofTexts, hkeys]

theorem boxWidth_ofTexts : (ofTexts names keys heading text).boxWidth = names.length + 1 := by
  rw [boxWidth, ofTexts, List.length_map]

/-- All columns of such a table may shrink. -/
theorem fixedWidth_ofTexts : ∀ c ∈ (ofTexts names keys heading text).columns, c.fixedWidth = none :=
  List.forall_mem_map.mpr fun _ _ => rfl

/-! ## Tables with room for their texts -/

/-- A table of texts that take one line each, in columns that have room for them. -/
theorem lines_of_fits (hne : names ≠ [])
    (hinline : ∀ n ∈ names, ∀ s ∈ heading n :: keys.map fun k => text k n,
      ∀ c ∈ s.text, isInline c = true)
    {room : α → Nat}
    (hroom : ∀ n ∈ names, ∀ s ∈ heading n :: keys.map fun k => text k n, Text.width s.text ≤ room n) :
    (ofTexts names keys heading text).lines (names.map fun n => room n + 2) =
      gridLines (names.map fun n => room n + 2)
        (names.map fun n => cell (room n + 2) (heading n))
        (keys.map fun k => names.map fun n => cell (room n + 2) (text k n)) := by
  have hline (text' : α → Styled)
      (htext : ∀ n ∈ names, text' n ∈ heading n :: keys.map fun k => text k n)
      (edges : Edges) (atBottom : Bool) :
      (ofTexts names keys heading text).rowLines (names.map fun n => room n + 2) edges atBottom
          (names.map text') =
        [rowLine edges (names.map fun n => cell (room n + 2) (text' n))] :=
    rowLines_of_fits rfl (fun _ _ => rfl) (fun n hn => hinline n hn _ (htext n hn))
      (fun n hn => Nat.add_le_add_right (hroom n hn _ (htext n hn)) 2) edges atBottom
  have hbody : (ofTexts names keys heading text).rows.flatMap ((ofTexts names keys heading text).rowLines
      (names.map fun n => room n + 2) Box.heavyHead.row false) =
      keys.map fun k => rowLine Box.heavyHead.row (names.map fun n => cell (room n + 2) (text k n)) := by
    have hrow (k : β) (hk : k ∈ keys) :=
      hline (text k) (fun n _ => List.mem_cons_of_mem _ (List.mem_map_of_mem hk)) Box.heavyHead.row false
    rw [rows_ofTexts hne, List.flatMap_map, List.flatMap_congr hrow, ← List.map_eq_flatMap]
  have hheading := hline heading (fun n _ => List.mem_cons_self) Box.heavyHead.heading true
  rw [lines, headings_ofTexts]
  simp only [ofTexts] at hbody hheading ⊢
  simp only [List.nil_append, if_true, Bool.false_eq_true, if_false]
  rw [hheading, hbody, gridLines]
  simp

section

variable (hinline : ∀ n ∈ names, ∀ s ∈ heading n :: keys.map fun k => text k n, ∀ c ∈ s.text, isInline c = true)
  {room : α → Nat} (hroom : ∀ n ∈ names, room n =
    ((heading n :: keys.map fun k => text k n).map fun s => Text.width s.text).foldl max 0)
include hinline hroom

theorem map_fullWidth_ofTexts :
    (ofTexts names keys heading text).columns.map (ofTexts names keys heading text).fullWidth =
      names.map fun n => room n + 2 := by
  have hmeasure (n : α) (hn : n ∈ names) (s : Styled) (hs : s ∈ heading n :: keys.map fun k => text k n) :
      measure s.text = Text.width s.text := by
    refine Styled.measure_of_no_break fun c hc => ?_
    have hinlinec := hinline n hn s hs c hc
    simp only [isInline, Bool.and_eq_true, Bool.not_eq_true'] at hinlinec
    exact hinlinec.1.2
  rw [ofTexts, List.map_map]
  refine List.map_congr_left fun n hn => ?_
  rw [Function.comp_apply, fullWidth, texts, if_pos rfl, hroom n hn, List.map_congr_left (hmeasure n hn)]

/-- On a terminal with room for it, a table of texts that take one line each is a grid. -/
theorem render_of_fits (hne : names ≠ []) {columns : Nat}
    (hcolumns : totalWidth (names.map fun n => room n + 2) + names.length + 1 ≤ columns) :
    (ofTexts names keys heading text).render columns =
      gridText (names.map fun n => room n + 2)
        (names.map fun n => cell (room n + 2) (heading n))
        (keys.map fun k => names.map fun n => cell (room n + 2) (text k n)) := by
  have hfull := map_fullWidth_ofTexts hinline hroom
  have hwidth : (ofTexts names keys heading text).width (names.map fun n => room n + 2) ≤ columns := by
    rw [Table.width, boxWidth_ofTexts]
    exact hcolumns
  have hfits : (ofTexts names keys heading text).Fits columns :=
    { heading := rfl, free := fixedWidth_ofTexts, width := by rwa [hfull] }
  have hall (n : α) (hn : n ∈ names) (s : Styled) (hs : s ∈ heading n :: keys.map fun k => text k n) :
      Text.width s.text ≤ room n := by
    rw [hroom n hn]
    exact le_foldl_max_map (fun s : Styled => Text.width s.text) hs
  rw [render]
  simp only [widths_of_fits hfits, hfull]
  rw [if_neg (Nat.not_lt.mpr hwidth), if_neg (by omega), lines_of_fits hne hinline hall]
  rfl

end

end

/-! ## Signs in a grid -/

open Markup (signs signs_append signs_cons isSign)

theorem signs_intersperse {divider : Char} (h : isSign divider = false) (cells : List (List Char)) :
    signs (cells.intersperse [divider]).flatten = signs cells.flatten := by
  have hdivider : signs [divider] = 0 := by simp [signs, h]
  induction cells with
  | nil => rfl
  | cons cell cells ih =>
    cases cells with
    | nil => rfl
    | cons next cells =>
      rw [List.intersperse_cons_cons, List.flatten_cons, List.flatten_cons, signs_append, signs_append,
        ih, hdivider, Nat.zero_add, ← signs_append, ← List.flatten_cons]

theorem signs_stroke {s : Strokes} (hleft : isSign s.left = false) (hfill : isSign s.fill = false)
    (hcross : isSign s.cross = false) (hright : isSign s.right = false) (widths : List Nat) :
    signs (stroke s widths) = 0 := by
  have hfillings : signs (widths.map fun w => List.replicate w s.fill).flatten = 0 := by
    rw [signs, List.countP_eq_zero]
    intro c hc
    obtain ⟨filling, hfilling, hc⟩ := List.mem_flatten.mp hc
    obtain ⟨w, -, rfl⟩ := List.mem_map.mp hfilling
    rw [List.eq_of_mem_replicate hc, hfill]
    exact Bool.false_ne_true
  rw [stroke, signs_append, signs_cons, signs_intersperse hcross, hfillings, hleft]
  simp [signs, hright]

theorem signs_rowLine {e : Edges} (hleft : isSign e.left = false)
    (hdivider : isSign e.divider = false) (hright : isSign e.right = false) (cells : List (List Char)) :
    signs (rowLine e cells) = signs cells.flatten := by
  rw [rowLine, signs_append, signs_cons, signs_intersperse hdivider]
  simp [signs, hleft, hright]

theorem signs_flatMap_break (lines : List (List Char)) :
    signs (lines.flatMap (· ++ ['\n'])) = signs lines.flatten := by
  have hbreak : signs (lines.flatMap fun _ => ['\n']) = 0 := by
    rw [signs, List.countP_eq_zero]
    intro c hc
    obtain ⟨line, -, hc⟩ := List.mem_flatMap.mp hc
    rw [List.mem_singleton.mp hc]
    decide
  rw [Markup.signs_flatMap_append, hbreak, List.flatMap_id', Nat.add_zero]

/-- All signs of a grid are in its cells. -/
theorem signs_gridText (widths : List Nat) (heading : List (List Char))
    (rows : List (List (List Char))) :
    signs (gridText widths heading rows).toList = signs (heading ++ rows.flatten).flatten := by
  have hrows : signs (rows.map (rowLine Box.heavyHead.row)).flatten =
      signs rows.flatten.flatten := by
    induction rows with
    | nil => rfl
    | cons row rows ih =>
      rw [List.map_cons, List.flatten_cons, signs_append, ih, signs_rowLine rfl rfl rfl,
        List.flatten_cons, List.flatten_append, signs_append]
  rw [gridText, String.toList_ofList, signs_flatMap_break, gridLines, List.flatten_append, List.flatten_append,
    List.flatten_cons, List.flatten_cons, List.flatten_singleton, List.flatten_singleton]
  simp only [signs_append]
  rw [hrows, signs_stroke rfl rfl rfl rfl, signs_stroke rfl rfl rfl rfl, signs_stroke rfl rfl rfl rfl,
    signs_rowLine rfl rfl rfl, List.flatten_append, signs_append]
  omega

/-! ## Signs in a table of any width -/

theorem signs_zip_le {α β : Type} (f : β → List Char) (xs : List α) (ys : List β) :
    signs ((xs.zip ys).flatMap fun p => f p.2) ≤ signs (ys.flatMap f) := by
  induction ys generalizing xs with
  | nil =>
    rw [List.zip_nil_right]
    exact Nat.le_refl _
  | cons y ys ih =>
    cases xs with
    | nil => exact Nat.zero_le _
    | cons x xs =>
      rw [List.zip_cons_cons, List.flatMap_cons, List.flatMap_cons, signs_append, signs_append]
      exact Nat.add_le_add_left (ih xs) _

theorem signs_getD_le (height : Nat) (lines : List (List Char)) :
    signs ((List.range height).flatMap fun i => lines.getD i []) ≤ signs lines.flatten := by
  induction lines generalizing height with
  | nil => simp [signs]
  | cons line lines ih =>
    cases height with
    | zero => exact Nat.zero_le _
    | succ height =>
      rw [List.range_succ_eq_map, List.flatMap_cons, List.flatMap_map, List.flatten_cons, signs_append,
        signs_append]
      exact Nat.add_le_add_left (ih height) _

/-- The lines of a row go through all cells of the row. -/
theorem signs_across_le (height : Nat) (cells : List (List (List Char))) :
    signs ((List.range height).flatMap fun i => (cells.map fun lines => lines.getD i []).flatten) ≤
      signs cells.flatten.flatten := by
  induction cells with
  | nil => simp [signs]
  | cons lines cells ih =>
    simp only [List.map_cons, List.flatten_cons, List.flatten_append]
    rw [Markup.signs_flatMap_append, signs_append]
    exact Nat.add_le_add (signs_getD_le height lines) ih

/-- Blanks to fill up a cell are no signs. -/
theorem signs_align (atBottom : Bool) (height width : Nat) (lines : List (List Char)) :
    signs (align atBottom height width lines).flatten = signs lines.flatten := by
  have hmissing : signs (List.replicate (height - lines.length) (List.replicate width ' ')).flatten = 0 := by
    rw [List.flatten_replicate_replicate]
    exact Markup.signs_spaces _
  simp only [align]
  split
  · rw [List.flatten_append, signs_append, hmissing, Nat.zero_add]
  · rw [List.flatten_append, signs_append, hmissing, Nat.add_zero]

theorem signs_rowLines_le {t : Table} {e : Edges} (hleft : isSign e.left = false)
    (hdivider : isSign e.divider = false) (hright : isSign e.right = false) (widths : List Nat)
    (atBottom : Bool) (texts : List Styled) :
    signs (t.rowLines widths e atBottom texts).flatten ≤ signs (texts.flatMap (·.text)) := by
  obtain ⟨cells, hcells⟩ : ∃ cells, (t.columns.zip (widths.zip texts)).map (fun p =>
      (p.2.1, (cellLines p.1 p.2.1 p.2.2).map (padded p.2.1))) = cells := ⟨_, rfl⟩
  obtain ⟨height, hheight⟩ : ∃ height, (cells.map (·.2.length)).foldl max 1 = height := ⟨_, rfl⟩
  have hlines : signs (cells.flatMap (·.2.flatten)) ≤ signs (texts.flatMap (·.text)) := by
    rw [← hcells, List.flatMap_map]
    refine Nat.le_trans (Markup.signs_flatMap_le (g := fun p => p.2.2.text) fun p _ => ?_) ?_
    · rw [← List.flatMap_def]
      exact signs_cellLines_le p.1 p.2.1 p.2.2
    · exact Nat.le_trans (signs_zip_le (fun p : Nat × Styled => p.2.text) _ _)
        (signs_zip_le (fun s : Styled => s.text) _ _)
  have haligned : signs (cells.map fun cell => align atBottom height cell.1 cell.2).flatten.flatten ≤
      signs (cells.flatMap (·.2.flatten)) := by
    rw [List.flatten_flatten, List.map_map, ← List.flatMap_def]
    exact Markup.signs_flatMap_le fun cell _ => Nat.le_of_eq (signs_align _ _ _ _)
  simp only [rowLines, hcells, hheight]
  refine Nat.le_trans ?_ (Nat.le_trans haligned hlines)
  refine Nat.le_trans ?_ (signs_across_le height _)
  rw [← List.flatMap_def]
  exact Markup.signs_flatMap_le fun i _ => Nat.le_of_eq (signs_rowLine hleft hdivider hright _)

section

variable {α β : Type} {names : List α} {keys : List β} {heading : α → Styled} {text : β → α → Styled}

/-- However its texts are broken and cut, a table has no more signs than they have. -/
theorem signs_lines_le (hne : names ≠ []) (widths : List Nat) :
    signs ((ofTexts names keys heading text).lines widths).flatten ≤
      signs ((names.map heading ++ keys.flatMap fun k => names.map (text k)).flatMap (·.text)) := by
  have hheading := signs_rowLines_le (t := ofTexts names keys heading text) (e := Box.heavyHead.heading) rfl rfl rfl
    widths true (names.map heading)
  have hrows : signs ((keys.map fun k => names.map (text k)).flatMap
        ((ofTexts names keys heading text).rowLines widths Box.heavyHead.row false)).flatten ≤
      signs ((keys.flatMap fun k => names.map (text k)).flatMap (·.text)) := by
    rw [List.flatMap_def, List.flatten_flatten, List.map_map, List.map_map, ← List.flatMap_def, List.flatMap_assoc]
    exact Markup.signs_flatMap_le fun k _ => signs_rowLines_le rfl rfl rfl _ _ _
  rw [List.flatMap_append, signs_append]
  rw [lines, headings_ofTexts, rows_ofTexts hne]
  simp only [ofTexts] at hheading hrows ⊢
  simp only [List.nil_append, if_true, Bool.false_eq_true, if_false, List.flatten_append, List.flatten_singleton,
    signs_append]
  rw [signs_stroke rfl rfl rfl rfl, signs_stroke rfl rfl rfl rfl, signs_stroke rfl rfl rfl rfl]
  omega

theorem signs_render_le (hne : names ≠ []) (keys : List β) (heading : α → Styled) (text : β → α → Styled)
    (columns : Nat) :
    signs ((ofTexts names keys heading text).render columns).toList ≤
      signs ((names.map heading ++ keys.flatMap fun k => names.map (text k)).flatMap (·.text)) := by
  simp only [render]
  split
  · exact Nat.zero_le _
  · rw [String.toList_ofList, signs_flatMap_break]
    refine Nat.le_trans ?_ (signs_lines_le hne ((ofTexts names keys heading text).widths columns))
    split
    · rw [← List.flatMap_def, ← List.flatMap_id']
      exact Markup.signs_flatMap_le fun line _ => Text.signs_resize_le _ _
    · exact Nat.le_refl _

end

/-! ## The first line -/

/-- The strokes of a line take a column more than there are columns in the table. -/
theorem length_stroke (s : Strokes) {widths : List Nat} (hne : widths ≠ []) :
    (stroke s widths).length = totalWidth widths + widths.length + 1 := by
  have hfillings (widths : List Nat) :
      (((widths.map fun w => List.replicate w s.fill).intersperse [s.cross]).flatten).length =
        totalWidth widths + (widths.length - 1) := by
    induction widths with
    | nil => rfl
    | cons w widths ih =>
      cases widths with
      | nil => simp
      | cons v widths =>
        rw [List.map_cons] at ih
        rw [List.map_cons, List.map_cons, List.intersperse_cons_cons, List.flatten_cons, List.flatten_cons,
          List.length_append, List.length_append, ih, List.length_replicate, List.length_singleton]
        simp only [totalWidth_cons, List.length_cons]
        omega
  have hpos := List.length_pos_iff.mpr hne
  rw [stroke, List.length_append, List.length_cons, hfillings, List.length_singleton]
  omega

theorem mem_stroke {s : Strokes} {widths : List Nat} {c : Char} (h : c ∈ stroke s widths) :
    c = s.left ∨ c = s.fill ∨ c = s.cross ∨ c = s.right := by
  have hfillings : ∀ part ∈ (widths.map fun w => List.replicate w s.fill).intersperse [s.cross],
      ∀ c ∈ part, c = s.fill ∨ c = s.cross := by
    refine forall_mem_intersperse (fun c hc => Or.inr (List.mem_singleton.mp hc)) fun part hpart c hc => ?_
    obtain ⟨w, -, rfl⟩ := List.mem_map.mp hpart
    exact Or.inl (List.eq_of_mem_replicate hc)
  rw [stroke, List.cons_append, List.mem_cons, List.mem_append, List.mem_singleton] at h
  rcases h with rfl | h | rfl
  · exact Or.inl rfl
  · obtain ⟨part, hpart, hc⟩ := List.mem_flatten.mp h
    rcases hfillings part hpart c hc with rfl | rfl
    · exact Or.inr (Or.inl rfl)
    · exact Or.inr (Or.inr (Or.inl rfl))
  · exact Or.inr (Or.inr (Or.inr rfl))

/-- A text up to its first line break. -/
def firstLine (s : String) : List Char := s.toList.takeWhile (· ≠ '\n')

theorem firstLine_of_lines {line : List Char} (h : '\n' ∉ line) (lines : List (List Char)) :
    firstLine (String.ofList ((line :: lines).flatMap (· ++ ['\n']))) = line := by
  have hall : ∀ c ∈ line, decide (c ≠ '\n') = true := fun c hc => by
    simpa using fun hbreak : c = '\n' => h (hbreak ▸ hc)
  rw [firstLine, String.toList_ofList, List.flatMap_cons, List.append_assoc, List.takeWhile_append_of_pos hall,
    List.singleton_append, List.takeWhile_cons_of_neg (by simp), List.append_nil]

theorem no_break_top (widths : List Nat) : '\n' ∉ stroke Box.heavyHead.top widths := by
  intro h
  have hmem := mem_stroke h
  revert hmem
  decide

theorem length_firstLine_gridText {widths : List Nat} (hne : widths ≠ []) (heading : List (List Char))
    (rows : List (List (List Char))) :
    (firstLine (gridText widths heading rows)).length = totalWidth widths + widths.length + 1 := by
  rw [gridText, gridLines, List.cons_append, List.cons_append, firstLine_of_lines (no_break_top widths),
    length_stroke _ hne]

section

variable {α β : Type} {names : List α} {keys : List β} {heading : α → Styled} {text : β → α → Styled}

/-- A table is no wider than the terminal, apart from a box that is. -/
theorem length_firstLine_le (hne : names ≠ []) (keys : List β) (heading : α → Styled) (text : β → α → Styled)
    (columns : Nat) :
    (firstLine ((ofTexts names keys heading text).render columns)).length ≤
      max columns (2 * names.length + 1) := by
  obtain ⟨t, ht⟩ : ∃ t, ofTexts names keys heading text = t := ⟨_, rfl⟩
  have hbox : t.boxWidth = names.length + 1 := by rw [← ht, boxWidth_ofTexts]
  have hsum : totalWidth (t.widths columns) ≤ columns - t.boxWidth :=
    totalWidth_widths_le (ht ▸ fixedWidth_ofTexts) columns
  have htop : (stroke Box.heavyHead.top (t.widths columns)).length = t.width (t.widths columns) := by
    have hwidths : (t.widths columns).length = names.length := by
      rw [length_widths, ← ht, ofTexts, List.length_map]
    have hsome : t.widths columns ≠ [] := by
      rwa [← List.length_pos_iff, hwidths, List.length_pos_iff]
    rw [length_stroke _ hsome, Table.width, hbox, hwidths]
    rfl
  obtain ⟨lines, hlines⟩ : ∃ lines, t.lines (t.widths columns) =
      stroke Box.heavyHead.top (t.widths columns) :: lines := by
    rw [← ht]
    exact ⟨_, rfl⟩
  rw [ht, render]
  simp only [hlines]
  rw [Table.width, hbox] at htop
  rw [hbox] at hsum
  split
  · exact Nat.zero_le _
  · split
    · next hwide =>
      have hbreak : '\n' ∉ Text.resize columns (stroke Box.heavyHead.top (t.widths columns)) := fun hmem =>
        (Text.mem_resize hmem).elim (by decide) (no_break_top _)
      rw [Table.width, hbox] at hwide
      have hresize := Text.length_resize_le columns (stroke Box.heavyHead.top (t.widths columns))
      rw [List.map_cons, firstLine_of_lines hbreak]
      omega
    · next hfits =>
      rw [Table.width, hbox] at hfits
      rw [firstLine_of_lines (no_break_top _), htop]
      omega

end

end Table
end Screen
end GitPractice
