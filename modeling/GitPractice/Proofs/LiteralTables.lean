import GitPractice.Proofs.Drawings
import GitPractice.Proofs.Grid
import GitPractice.Record

/-!
# Tables that show every value as it is

The table of some records reads all of its texts as markup, names of columns
among them. On a terminal that is wide enough it shows them as they are if they
are plain. Otherwise it lacks brackets, backslashes or colons, or it cannot be
drawn at all, and on a narrower terminal texts are broken or cut off
(`table_eq_literal_iff`).
-/

namespace GitPractice
namespace Record

open Screen
open Markup (signs)

/-! ## Texts and their cells -/

/-- The text of a record in a column. -/
def entry (fields : Fields) (name : String) : String :=
  cellText ((fields.get? name).getD (.text ""))

/-- The texts in the table of the records: names of columns and what stands below them. -/
def texts (records : List Fields) : List String :=
  columns records ++ records.flatMap fun fields => (columns records).map (entry fields)

/-- The columns that the widest text under a name takes. -/
def room (records : List Fields) (name : String) : Nat :=
  ((name :: records.map (entry · name)).map fun s => Text.width s.toList).foldl max 0

/-- The table that shows every text as it is, on one line in a column with room for it. -/
def literal (records : List Fields) : String :=
  let cell (name s : String) := Table.plainCell (room records name) s.toList
  if (columns records).isEmpty then "\n"
  else Table.gridText ((columns records).map (room records · + 2))
    ((columns records).map fun name => cell name name)
    (records.map fun fields => (columns records).map fun name => cell name (entry fields name))

/-- The width of that table. -/
def literalWidth (records : List Fields) : Nat :=
  totalWidth ((columns records).map (room records · + 2)) + (columns records).length + 1

variable {tm : Terminal} {records : List Fields}

theorem mem_texts {s : String} : s ∈ texts records ↔
    ∃ name ∈ columns records, s ∈ name :: records.map (entry · name) := by
  simp only [texts, List.mem_append, List.mem_flatMap, List.mem_map, List.mem_cons]
  constructor
  · rintro (hs | ⟨fields, hfields, name, hname, rfl⟩)
    · exact ⟨s, hs, Or.inl rfl⟩
    · exact ⟨name, hname, Or.inr ⟨fields, hfields, rfl⟩⟩
  · rintro ⟨name, hname, rfl | ⟨fields, hfields, rfl⟩⟩
    · exact Or.inl hname
    · exact Or.inr ⟨fields, hfields, name, hname, rfl⟩

/-- The literal table has all signs of its texts. -/
theorem signs_texts_le (hne : columns records ≠ []) :
    signs ((texts records).flatMap String.toList) ≤ signs (literal records).toList := by
  have hcell (name s : String) : signs s.toList ≤ signs (Table.plainCell (room records name) s.toList) :=
    Nat.le_of_eq (Table.signs_plainCell _ _).symm
  simp only [literal]
  rw [if_neg (by simpa using hne), Table.signs_gridText, texts, List.flatten_append, List.flatMap_append,
    Markup.signs_append, Markup.signs_append]
  refine Nat.add_le_add ?_ ?_
  · rw [← List.flatMap_def]
    exact Markup.signs_flatMap_le fun name _ => hcell name name
  · rw [List.flatten_flatten, List.map_map, ← List.flatMap_def, List.flatMap_assoc]
    refine Markup.signs_flatMap_le fun fields _ => ?_
    rw [Function.comp_apply, ← List.flatMap_def, List.flatMap_map]
    exact Markup.signs_flatMap_le fun name _ => hcell name (entry fields name)

/-! ## The table as it is drawn -/

/-- How the text is shown; one that makes no sense as markup is not. -/
def shown (tm : Terminal) (s : String) : Styled :=
  match marked tm s with
  | .ok styled => styled
  | .error _ => {}

theorem shown_of_marked {s : String} {styled : Styled} (h : marked tm s = .ok styled) :
    shown tm s = styled := by
  rw [shown, h]

/-- The table of the texts as they are shown. -/
def shownTable (tm : Terminal) (records : List Fields) : Table :=
  Table.ofTexts (columns records) records (shown tm) fun fields name => shown tm (entry fields name)

/-- The table without texts. -/
def blankTable (records : List Fields) : Table :=
  Table.ofTexts (columns records) records (fun _ => {}) fun _ _ => {}

theorem ne_nil_of_columns (hne : columns records ≠ []) : records ≠ [] := by
  rintro rfl
  exact hne rfl

theorem table_eq_of_columns (hne : columns records ≠ []) :
    table records [] tm =
      Screen.table tm { box := Box.heavyHead } ((columns records).map (tableColumn tm records)) := by
  have hrecords := ne_nil_of_columns hne
  rw [table, List.isEmpty_nil, if_pos rfl, if_neg (by simpa using hrecords),
    if_neg (by simpa using hne)]

/-- Texts are read where there is room for any. -/
def HasRoom (tm : Terminal) (records : List Fields) : Prop := (columns records).length + 4 ≤ tm.columns

theorem table_of_no_room (hne : columns records ≠ []) (h : ¬ HasRoom tm records) :
    table records [] tm = .ok ((blankTable records).render tm.columns) := by
  have hblank : ((columns records).map (tableColumn tm records)).map Unread.blank = (blankTable records).columns := by
    simp [blankTable, Table.ofTexts, tableColumn, Unread.blank, Function.comp_def]
  rw [table_eq_of_columns hne, Screen.table_of_no_room (by simpa [HasRoom] using h), hblank]
  rfl

/-- What succeeds everywhere gives the results one by one. -/
theorem eq_map_of_forall₂ {α β ε : Type} {f : α → Except ε β} {g : α → β} {xs : List α} {ys : List β}
    (hg : ∀ {x y}, f x = .ok y → g x = y) (h : List.Forall₂ (fun x y => f x = .ok y) xs ys) : ys = xs.map g := by
  induction h with
  | nil => rfl
  | cons hxy _ ih => rw [List.map_cons, hg hxy, ← ih]

/-- A column is read if all of its texts are. -/
theorem read_tableColumn_iff {name : String} {c : Column} :
    (tableColumn tm records name).read = .ok c ↔
      (∀ s ∈ name :: records.map (entry · name), marked tm s = .ok (shown tm s)) ∧
        c = { heading := shown tm name, cells := records.map fun fields => shown tm (entry fields name) } := by
  rw [Unread.read_eq_ok_iff]
  constructor
  · rintro ⟨heading, cells, hheading, hcells, rfl⟩
    have hentries : List.Forall₂ (fun fields styled => marked tm (entry fields name) = .ok styled) records cells :=
      List.forall₂_map_left_iff.mp hcells
    have hname : shown tm name = heading := shown_of_marked hheading
    obtain rfl : cells = records.map fun fields => shown tm (entry fields name) :=
      eq_map_of_forall₂ shown_of_marked hentries
    refine ⟨List.forall_mem_cons.mpr ⟨hname.symm ▸ hheading, List.forall_mem_map.mpr fun fields hfields => ?_⟩, ?_⟩
    · obtain ⟨styled, -, hstyled⟩ := exists_right_of_forall₂ hentries hfields
      rw [shown_of_marked hstyled]
      exact hstyled
    · rw [hname]
      rfl
  · rintro ⟨hmarked, rfl⟩
    obtain ⟨hname, hentries⟩ := List.forall_mem_cons.mp hmarked
    refine ⟨_, _, hname, ?_, rfl⟩
    rw [tableColumn, List.forall₂_map_left_iff, List.forall₂_map_right_iff, List.forall₂_same]
    exact List.forall_mem_map.mp hentries

/-- With room for texts the table is drawn if all of them are read and their styles can be shown. -/
theorem table_eq_ok_iff (hne : columns records ≠ []) (hroom : HasRoom tm records) {out : String} :
    table records [] tm = .ok out ↔
      (∀ s ∈ texts records, marked tm s = .ok (shown tm s)) ∧
        (shownTable tm records).failure? tm.columns = none ∧
        out = (shownTable tm records).render tm.columns := by
  have hread (cs : List Column) :
      List.Forall₂ (·.read = .ok ·) ((columns records).map (tableColumn tm records)) cs ↔
        (∀ s ∈ texts records, marked tm s = .ok (shown tm s)) ∧ cs = (shownTable tm records).columns := by
    rw [List.forall₂_map_left_iff]
    constructor
    · intro hcs
      refine ⟨fun s hs => ?_, ?_⟩
      · obtain ⟨name, hname, hs⟩ := mem_texts.mp hs
        obtain ⟨c, -, hc⟩ := exists_right_of_forall₂ hcs hname
        exact (read_tableColumn_iff.mp hc).1 s hs
      · exact eq_map_of_forall₂ (fun hc => (read_tableColumn_iff.mp hc).2.symm) hcs
    · rintro ⟨hmarked, rfl⟩
      rw [shownTable, Table.ofTexts, List.forall₂_map_right_iff, List.forall₂_same]
      exact fun name hname =>
        read_tableColumn_iff.mpr ⟨fun s hs => hmarked s (mem_texts.mpr ⟨name, hname, hs⟩), rfl⟩
  rw [table_eq_of_columns hne, Screen.table_eq_ok_iff (by simpa [HasRoom] using hroom)]
  simp only [hread]
  constructor
  · rintro ⟨cs, ⟨hmarked, rfl⟩, hfailure, rfl⟩
    exact ⟨hmarked, hfailure, rfl⟩
  · rintro ⟨hmarked, hfailure, rfl⟩
    exact ⟨_, ⟨hmarked, rfl⟩, hfailure, rfl⟩

/-- Legible texts are drawn, whatever the terminal is like. -/
theorem table_of_legible (hne : columns records ≠ []) (h : ∀ s ∈ texts records, Legible tm s) :
    ∃ out, table records [] tm = .ok out := by
  rw [table_eq_of_columns hne]
  refine table_ok (List.forall_mem_map.mpr fun name hname => ⟨?_, List.forall_mem_map.mpr fun fields hfields => ?_⟩)
  · exact h name (mem_texts.mpr ⟨name, hname, List.mem_cons_self⟩)
  · exact h _ (mem_texts.mpr ⟨name, hname, List.mem_cons_of_mem _ (List.mem_map_of_mem hfields)⟩)

/-! ## What a literal table takes -/

theorem map_shown_texts : (texts records).map (shown tm) =
    (columns records).map (shown tm) ++
      records.flatMap fun fields => (columns records).map fun name => shown tm (entry fields name) := by
  rw [texts, List.map_append, List.map_flatMap]
  simp only [List.map_map, Function.comp_def]

/-- No table of the records has more signs than what is shown of its texts. -/
theorem signs_shownTable_le (tm : Terminal) (hne : columns records ≠ []) :
    signs ((shownTable tm records).render tm.columns).toList ≤
      signs ((texts records).flatMap fun s => (shown tm s).text) := by
  have hle := Table.signs_render_le hne records (shown tm) (fun fields name => shown tm (entry fields name))
    tm.columns
  rwa [← map_shown_texts, List.flatMap_map] at hle

theorem signs_blankTable (hne : columns records ≠ []) :
    signs ((blankTable records).render tm.columns).toList = 0 := by
  have hle := Table.signs_render_le hne records (fun _ => {}) (fun _ _ => {}) tm.columns
  exact Nat.eq_zero_of_le_zero (Nat.le_trans hle (by simp [signs]))

/-- A table with all signs of its texts has lost none of them to a tag or an emoji. -/
theorem isPlain_of_table (h : table records [] tm = .ok (literal records)) :
    ∀ s ∈ texts records, Markup.IsPlain tm.emoji s.toList := by
  intro s hs
  have hne : columns records ≠ [] := by
    obtain ⟨name, hname, -⟩ := mem_texts.mp hs
    exact List.ne_nil_of_mem hname
  have hall := signs_texts_le hne
  by_cases hroom : HasRoom tm records
  · obtain ⟨hmarked, -, hrender⟩ := (table_eq_ok_iff hne hroom).mp h
    have hshown := signs_shownTable_le tm hne
    have hread (s : String) (hs : s ∈ texts records) := marked_eq_ok_iff.mp (hmarked s hs)
    by_contra hplain
    have hlost : signs ((texts records).flatMap fun s => (shown tm s).text) <
        signs ((texts records).flatMap String.toList) :=
      Markup.signs_flatMap_lt (fun s hs => Markup.signs_le_of_render (hread s hs)) hs
        (Markup.signs_lt_of_render (hread s hs) hplain)
    rw [hrender] at hall
    omega
  · -- Where there is no room for texts, only those without signs are not missed.
    have hrender := Except.ok.inj ((table_of_no_room hne hroom).symm.trans h)
    have hnone : signs ((texts records).flatMap String.toList) = 0 := by
      rw [← hrender, signs_blankTable hne] at hall
      exact Nat.eq_zero_of_le_zero hall
    have hsign (c : Char) (hc : Markup.isSign c = true) : c ∉ s.toList := fun hmem =>
      List.countP_eq_zero.mp hnone c (List.mem_flatMap.mpr ⟨s, hs, hmem⟩) hc
    exact Markup.isPlain_of_no_sign (hsign '[' rfl) (hsign ':' rfl)

/-- The literal table is drawn only where there is room for it. -/
theorem literalWidth_le_of_table (h : table records [] tm = .ok (literal records)) :
    literalWidth records ≤ tm.columns := by
  by_cases hne : columns records = []
  · rw [table, List.isEmpty_nil, if_pos rfl, literal, hne] at h
    simp only [List.isEmpty_nil, if_true] at h
    split at h
    · exact absurd (Except.ok.inj h) (by decide)
    · split at h
      · exact absurd (Except.ok.inj h) (by decide)
      · rw [literalWidth, hne]
        exact Nat.pos_of_ne_zero ‹_›
  · -- Both tables begin with a stroke, which is as long as the table is wide.
    obtain ⟨heading, text, hdrawn⟩ : ∃ (heading : String → Styled) (text : Fields → String → Styled),
        literal records = (Table.ofTexts (columns records) records heading text).render tm.columns := by
      by_cases hroom : HasRoom tm records
      · exact ⟨_, _, ((table_eq_ok_iff hne hroom).mp h).2.2⟩
      · exact ⟨_, _, Except.ok.inj (h.symm.trans (table_of_no_room hne hroom))⟩
    have hline := Table.length_firstLine_le hne records heading text tm.columns
    have hliteral : (Table.firstLine (literal records)).length = literalWidth records := by
      simp only [literal]
      rw [if_neg (by simpa using hne), Table.length_firstLine_gridText (by simpa using hne), List.length_map]
      rfl
    have hpadding := totalWidth_map_add (room records) 2 (columns records)
    have hpos : 0 < (columns records).length := List.length_pos_iff.mpr hne
    rw [← hdrawn, hliteral] at hline
    rw [literalWidth] at hline ⊢
    omega

/-! ## Plain texts -/

theorem table_of_no_columns (hne : records ≠ []) (h : columns records = []) :
    table records [] tm = .ok (if tm.columns = 0 then "" else literal records) := by
  rw [table, List.isEmpty_nil, if_pos rfl, if_neg (by simpa using hne), literal, h]
  rfl

/-- The table of the texts as they are. -/
def plainTable (records : List Fields) : Table :=
  Table.ofTexts (columns records) records (fun name => { text := name.toList })
    fun fields name => { text := (entry fields name).toList }

theorem ofTexts_eq_plainTable {heading : String → Styled} {text : Fields → String → Styled}
    (h : ∀ name ∈ columns records, heading name = { text := name.toList })
    (hentries : ∀ name ∈ columns records, ∀ fields ∈ records, text fields name = { text := (entry fields name).toList }) :
    Table.ofTexts (columns records) records heading text = plainTable records := by
  rw [plainTable, Table.ofTexts, Table.ofTexts]
  congr 1
  refine List.map_congr_left fun name hname => ?_
  rw [h name hname, List.map_congr_left fun fields hfields => hentries name hname fields hfields]

section

variable (hinline : ∀ s ∈ texts records, Inline s.toList) (hwidth : literalWidth records ≤ tm.columns)
include hinline hwidth

/-- Where the literal table has room, but no text has, there is none to be seen. -/
theorem blankTable_eq_plainTable (hroom : ¬ HasRoom tm records) : blankTable records = plainTable records := by
  have hempty {name s : String} (hname : name ∈ columns records) (hs : s ∈ name :: records.map (entry · name)) :
      s.toList = [] := by
    have hsum : room records name + 2 ≤ totalWidth ((columns records).map (room records · + 2)) :=
      le_totalWidth (List.mem_map_of_mem hname)
    have htext : Text.width s.toList ≤ room records name :=
      le_foldl_max_map (fun s : String => Text.width s.toList) hs
    by_contra hsome
    have hvisible := (hinline s (mem_texts.mpr ⟨name, hname, hs⟩)).visible hsome
    rw [HasRoom] at hroom
    rw [literalWidth] at hwidth
    omega
  refine ofTexts_eq_plainTable (fun name hname => ?_) fun name hname fields hfields => ?_
  · rw [hempty hname List.mem_cons_self]
  · rw [hempty hname (List.mem_cons_of_mem _ (List.mem_map_of_mem hfields))]

/-- Plain texts that take one line each stand in the literal table. -/
theorem render_plainTable (hne : columns records ≠ []) : (plainTable records).render tm.columns = literal records := by
  have hcell (name : String) (hname : name ∈ columns records) (s : String)
      (hs : s ∈ name :: records.map (entry · name)) :
      Table.cell (room records name + 2) { text := s.toList } = Table.plainCell (room records name) s.toList :=
    Table.cell_of_inline rfl (hinline s (mem_texts.mpr ⟨name, hname, hs⟩))
      (le_foldl_max_map (fun s : String => Text.width s.toList) hs)
  have htexts (name : String) : ({ text := name.toList } : Styled) :: records.map (fun fields =>
      { text := (entry fields name).toList }) =
        (name :: records.map (entry · name)).map fun s => { text := s.toList } := by
    rw [List.map_cons, List.map_map]
    rfl
  have hunbroken (name : String) (hname : name ∈ columns records) (s : Styled)
      (hs : s ∈ ({ text := name.toList } : Styled) :: records.map fun fields =>
        { text := (entry fields name).toList }) : ∀ c ∈ s.text, isInline c = true := by
    rw [htexts] at hs
    obtain ⟨text, htext, rfl⟩ := List.mem_map.mp hs
    exact (hinline text (mem_texts.mpr ⟨name, hname, htext⟩)).unbroken
  have hroom (name : String) (_ : name ∈ columns records) : room records name =
      ((({ text := name.toList } : Styled) :: records.map fun fields =>
        { text := (entry fields name).toList }).map fun s => Text.width s.text).foldl max 0 := by
    rw [htexts, List.map_map]
    rfl
  have hrender : (plainTable records).render tm.columns = Table.gridText ((columns records).map (room records · + 2))
      ((columns records).map fun name => Table.cell (room records name + 2) { text := name.toList })
      (records.map fun fields => (columns records).map fun name =>
        Table.cell (room records name + 2) { text := (entry fields name).toList }) :=
    Table.render_of_fits hunbroken hroom hne hwidth
  rw [hrender]
  simp only [literal]
  rw [if_neg (by simpa using hne)]
  congr 1
  · exact List.map_congr_left fun name hname => hcell name hname name List.mem_cons_self
  · refine List.map_congr_left fun fields hfields => List.map_congr_left fun name hname => ?_
    exact hcell name hname _ (List.mem_cons_of_mem _ (List.mem_map_of_mem hfields))

theorem table_of_isPlain (hne : columns records ≠ []) (hplain : ∀ s ∈ texts records, Markup.IsPlain tm.emoji s.toList) :
    table records [] tm = .ok (literal records) := by
  have hmarked (s : String) (hs : s ∈ texts records) : marked tm s = .ok { text := s.toList } := by
    rw [marked_of_isPlain (hplain s hs), Styled.plain, withoutControls_of_inline (hinline s hs).unbroken]
  have hshown (s : String) (hs : s ∈ texts records) : shown tm s = { text := s.toList } :=
    shown_of_marked (hmarked s hs)
  rw [← render_plainTable hinline hwidth hne]
  by_cases hroom : HasRoom tm records
  · have htable : shownTable tm records = plainTable records :=
      ofTexts_eq_plainTable (fun name hname => hshown name (mem_texts.mpr ⟨name, hname, List.mem_cons_self⟩))
        fun name hname fields hfields => hshown _ (mem_texts.mpr
          ⟨name, hname, List.mem_cons_of_mem _ (List.mem_map_of_mem hfields)⟩)
    have hshowable : ∀ c ∈ (plainTable records).columns, c.Showable := by
      refine List.forall_mem_map.mpr fun name _ => ⟨Styled.showable_plain "", List.forall_mem_map.mpr fun fields _ => ?_⟩
      exact Styled.showable_plain ""
    refine (table_eq_ok_iff hne hroom).mpr ⟨fun s hs => ?_, ?_, ?_⟩
    · rw [hshown s hs]
      exact hmarked s hs
    · rw [htable]
      exact Table.failure?_eq_none hshowable _
    · rw [htable]
  · rw [table_of_no_room hne hroom, blankTable_eq_plainTable hinline hwidth hroom]

end

/-- A line of usage, with brackets that start no tag. -/
def usage : List Fields := [[("name", .text "git commit"), ("usage", .text "[--amend]")]]

/-- What a commit prints. -/
def committed : List Fields := [[("output", .text "[main c000001] first")]]

end Record
end GitPractice
