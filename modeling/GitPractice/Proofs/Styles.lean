import GitPractice.Proofs.Columns
import GitPractice.Proofs.Placement

/-!
# Texts and their styles

A text fails on the screen only if one of its styles does. On the way there it
is cut, filled up and moved, and tabs become spaces, but none of this gives it a
style that it did not have (`Styled.styles_of_mem_layOut`). So a table of texts
that can be shown can be shown, whatever they say and however they are broken
and cut (`Table.failure?_eq_none`).
-/

namespace GitPractice

/-- The name can be used for a style, though it may be the name of none. -/
def Style.Usable (name : String) : Prop := (Style.read name).isOk = true

instance (name : String) : Decidable (Style.Usable name) := inferInstanceAs (Decidable (_ = true))

namespace Screen

namespace Span

theorem style_of_upTo? {p q : Span} {stop : Nat} (h : p.upTo? stop = some q) :
    q.style = p.style := by
  rw [upTo?] at h
  split at h
  · cases h
    rfl
  · cases h

theorem style_of_between? {p q : Span} {start stop : Nat} (h : p.between? start stop = some q) :
    q.style = p.style := by
  simp only [between?] at h
  split at h
  · cases h
  · cases h
    rfl

end Span

namespace Styled

/-- Every style of the text can be used. -/
def Showable (s : Styled) : Prop := ∀ style ∈ s.styles, Style.Usable style

theorem failure?_eq_none_iff {s : Styled} : s.failure? = none ↔ s.Showable := by
  rw [failure?, List.findSome?_eq_none_iff]
  refine forall₂_congr fun style _ => ?_
  rw [Style.Usable]
  cases Style.read style with
  | error e => simp [Except.isOk, Except.toBool]
  | ok d => simp [Except.isOk, Except.toBool]

theorem Showable.of_styles_subset {s t : Styled} (h : s.Showable) (hs : t.styles ⊆ s.styles) :
    t.Showable :=
  fun style hmem => h style (hs hmem)

/-- A text without styles can be shown. -/
theorem showable_plain (text : String) : (plain text).Showable := by
  intro style hmem
  cases hmem

variable {s t : Styled}

theorem Showable.add (h : s.Showable) (content : String) {style : String}
    (hstyle : Style.Usable style) : (s.add content style).Showable := by
  intro name hname
  rw [Styled.add, styles, List.mem_append] at hname
  rcases hname with hname | hname
  · exact h name (List.mem_append_left _ hname)
  · simp only at hname
    split at hname
    · exact h name (List.mem_append_right _ hname)
    · rw [List.map_append, List.mem_append] at hname
      rcases hname with hname | hname
      · exact h name (List.mem_append_right _ hname)
      · rw [List.mem_singleton.mp hname]
        exact hstyle

/-! ## Cutting and moving -/

theorem styles_subset_of_spans (hstyle : t.style = s.style)
    (hspans : ∀ p ∈ t.spans, ∃ q ∈ s.spans, p.style = q.style) : t.styles ⊆ s.styles := by
  intro style hmem
  rw [styles, List.mem_append] at hmem ⊢
  rcases hmem with hmem | hmem
  · rw [hstyle] at hmem
    exact Or.inl hmem
  · obtain ⟨p, hp, rfl⟩ := List.mem_map.mp hmem
    obtain ⟨q, hq, he⟩ := hspans p hp
    exact Or.inr (List.mem_map.mpr ⟨q, hq, he.symm⟩)

theorem styles_replace (text : List Char) : (s.replace text).styles ⊆ s.styles := by
  refine styles_subset_of_spans rfl fun p hp => ?_
  rw [replace] at hp
  split at hp
  · obtain ⟨q, hq, he⟩ := List.mem_filterMap.mp hp
    exact ⟨q, hq, Span.style_of_upTo? he⟩
  · exact ⟨p, hp, rfl⟩

theorem styles_part (start stop : Nat) : (s.part start stop).styles ⊆ s.styles := by
  refine styles_subset_of_spans rfl fun p hp => ?_
  obtain ⟨q, hq, he⟩ := List.mem_filterMap.mp hp
  exact ⟨q, hq, Span.style_of_between? he⟩

theorem styles_of_mem_cutAt {places : List Nat} (h : t ∈ s.cutAt places) : t.styles ⊆ s.styles := by
  rw [cutAt] at h
  split at h
  · rw [List.mem_singleton.mp h]
    exact List.Subset.refl _
  · rw [← List.map_uncurry_zip_eq_zipWith] at h
    obtain ⟨place, -, rfl⟩ := List.mem_map.mp h
    exact styles_part _ _

theorem styles_of_mem_lines (h : t ∈ s.lines) : t.styles ⊆ s.styles := by
  rw [lines] at h
  split at h
  · rw [List.mem_singleton.mp h]
    exact List.Subset.refl _
  · rw [← List.map_uncurry_zip_eq_zipWith] at h
    obtain ⟨place, -, rfl⟩ := List.mem_map.mp h
    exact styles_part _ _

theorem styles_of_map_spans {f : Span → Span} (hf : ∀ p, (f p).style = p.style) (text : List Char) :
    ({ s with text, spans := s.spans.map f } : Styled).styles = s.styles := by
  simp [styles, hf, Function.comp_def]

theorem styles_extend (count : Nat) : (s.extend count).styles = s.styles :=
  styles_of_map_spans (fun p => by split <;> rfl) _

theorem styles_indent (count : Nat) : (s.indent count).styles = s.styles :=
  styles_of_map_spans (fun p => (rfl : (p.shift count).style = p.style)) _

theorem styles_padRight (width : Nat) : (s.padRight width).styles = s.styles := rfl

theorem styles_append : (s.append t).styles ⊆ s.styles ++ t.styles := by
  have hshift : (t.spans.map (Span.shift · s.text.length)).map (·.style) =
      t.spans.map (·.style) := by
    rw [List.map_map]
    rfl
  intro style hmem
  rw [append, styles, List.map_append, hshift, ← List.append_assoc, List.mem_append] at hmem
  exact List.mem_append.mpr (hmem.imp_right (List.mem_append_right _))

theorem styles_addPart (before : Styled × Nat) (part : Styled) :
    (addPart before part).1.styles ⊆ before.1.styles ++ part.styles := by
  rw [addPart]
  split
  · refine List.Subset.trans styles_append ?_
    rw [styles_extend]
    exact List.Subset.refl _
  · exact styles_append

theorem styles_foldl_addPart (parts : List Styled) (before : Styled × Nat)
    (hbefore : before.1.styles ⊆ s.styles) (hparts : ∀ part ∈ parts, part.styles ⊆ s.styles) :
    (parts.foldl addPart before).1.styles ⊆ s.styles := by
  -- Along the parts; what is put together so far has styles of the text only.
  induction parts generalizing before with
  | nil => exact hbefore
  | cons part parts ih =>
    refine ih (addPart before part) ?_ fun p hp => hparts p (List.mem_cons_of_mem _ hp)
    refine List.Subset.trans (styles_addPart before part) ?_
    exact List.append_subset.mpr ⟨hbefore, hparts part List.mem_cons_self⟩

theorem styles_expandTabs : s.expandTabs.styles ⊆ s.styles := by
  rw [expandTabs]
  split
  · refine styles_foldl_addPart _ _ ?_ fun part hp => styles_of_mem_cutAt hp
    exact styles_subset_of_spans rfl fun p hp => by cases hp
  · exact List.Subset.refl _

/-! ## Laying out -/

variable (overflow : Overflow) (width : Nat)

theorem styles_truncate : (s.truncate overflow width).styles ⊆ s.styles := by
  simp only [truncate]
  split
  · exact styles_replace _
  · exact List.Subset.refl _

theorem styles_alignLeft : (s.alignLeft overflow width).styles ⊆ s.styles := by
  rw [alignLeft]
  split
  · exact styles_truncate overflow width
  · exact List.Subset.refl _

theorem styles_center : (s.center overflow width).styles ⊆ s.styles := by
  rw [center, styles_padRight, styles_indent]
  exact List.Subset.trans (styles_truncate overflow width) (styles_replace _)

variable {overflow width}

theorem styles_of_mem_flow (h : t ∈ s.flow overflow width) : t.styles ⊆ s.styles := by
  obtain ⟨line, hline, h⟩ := List.mem_flatMap.mp h
  obtain ⟨part, hpart, rfl⟩ := List.mem_map.mp h
  refine List.Subset.trans (styles_replace _) ?_
  refine List.Subset.trans (styles_of_mem_cutAt hpart) ?_
  exact List.Subset.trans styles_expandTabs (styles_of_mem_lines hline)

/-- The lines of a text that is laid out have no styles but those of the text. -/
theorem styles_of_mem_layOut {centered : Bool} (h : t ∈ s.layOut overflow width centered) :
    t.styles ⊆ s.styles := by
  obtain ⟨line, hline, rfl⟩ := List.mem_map.mp h
  refine List.Subset.trans ?_ (styles_of_mem_flow hline)
  split
  · exact styles_center overflow width
  · exact styles_alignLeft overflow width

/-- Neither have the lines that are printed. -/
theorem styles_of_mem_printedLines {columns : Nat} (h : t ∈ printedLines columns s) : t.styles ⊆ s.styles := by
  rw [printedLines] at h
  split at h
  · cases h
  · obtain ⟨line, hline, rfl⟩ := List.mem_map.mp h
    exact List.Subset.trans (styles_truncate .fold columns) (styles_of_mem_flow hline)

end Styled

/-! ## Tables -/

/-- Every text of the column can be shown. -/
structure Column.Showable (c : Column) : Prop where
  heading : c.heading.Showable
  cells : ∀ s ∈ c.cells, s.Showable

namespace Table

variable {t : Table}

theorem showable_of_mem_headings (h : ∀ c ∈ t.columns, c.Showable) {text : Styled}
    (hmem : text ∈ t.headings) : text.Showable := by
  obtain ⟨c, hc, rfl⟩ := List.mem_map.mp hmem
  exact (h c hc).heading

/-- A row is filled up with empty texts, which can be shown. -/
theorem showable_of_mem_rows (h : ∀ c ∈ t.columns, c.Showable) {texts : List Styled}
    (htexts : texts ∈ t.rows) {text : Styled} (hmem : text ∈ texts) : text.Showable := by
  obtain ⟨i, -, rfl⟩ := List.mem_map.mp htexts
  obtain ⟨c, hc, rfl⟩ := List.mem_map.mp hmem
  rw [List.getD_eq_getElem?_getD]
  cases hcell : c.cells[i]? with
  | none =>
    intro style hstyle
    cases hstyle
  | some cell => exact (h c hc).cells cell (List.mem_of_getElem? hcell)

theorem failure?_eq_none (h : ∀ c ∈ t.columns, c.Showable) (columns : Nat) : t.failure? columns = none := by
  rw [failure?, List.findSome?_eq_none_iff]
  intro texts htexts
  have hshowable : ∀ text ∈ texts, text.Showable := by
    intro text hmem
    rcases List.mem_append.mp htexts with hheading | hrow
    · split at hheading
      · rw [List.mem_singleton.mp hheading] at hmem
        exact showable_of_mem_headings h hmem
      · cases hheading
    · exact showable_of_mem_rows h hrow hmem
  rw [List.findSome?_eq_none_iff]
  rintro ⟨c, width, text⟩ hmem
  have htext : text ∈ texts := (List.of_mem_zip (List.of_mem_zip hmem).2).2
  rw [List.findSome?_eq_none_iff]
  intro line hline
  rw [cellLines] at hline
  split at hline
  · cases hline
  · rw [Styled.failure?_eq_none_iff]
    exact (hshowable text htext).of_styles_subset (Styled.styles_of_mem_layOut hline)

/-- A table that can be shown with full columns shows every line of its cells. -/
theorem showable_of_failure?_eq_none {columns : Nat} (hfits : t.Fits columns) (h : t.failure? columns = none)
    {c : Column} (hc : c ∈ t.columns) {s : Styled} (hs : s ∈ c.cells) {line : Styled}
    (hline : line ∈ cellLines c (t.fullWidth c) s) : line.Showable := by
  obtain ⟨i, hi, rfl⟩ := List.mem_iff_getElem.mp hs
  have hcount : i < t.rowCount := Nat.lt_of_lt_of_le hi (le_foldl_max_map (·.cells.length) hc)
  have hrow : t.columns.map (fun c => c.cells.getD i {}) ∈ t.rows :=
    List.mem_map.mpr ⟨i, List.mem_range.mpr hcount, rfl⟩
  rw [failure?, List.findSome?_eq_none_iff] at h
  have hcells := h _ (List.mem_append_right _ hrow)
  rw [List.findSome?_eq_none_iff] at hcells
  have hcell : (c, t.fullWidth c, c.cells[i]) ∈
      t.columns.zip ((t.widths columns).zip (t.columns.map fun c => c.cells.getD i {})) := by
    rw [widths_of_fits hfits, List.zip_map', ← List.map_prod_left_eq_zip]
    refine List.mem_map.mpr ⟨c, hc, ?_⟩
    rw [List.getD_eq_getElem?_getD, List.getElem?_eq_getElem hi]
    rfl
  have hlines := hcells _ hcell
  rw [List.findSome?_eq_none_iff] at hlines
  exact Styled.failure?_eq_none_iff.mp (hlines line hline)

/-- A word has room in a full column, so it is shown in all of its styles. -/
theorem showable_of_no_blank {columns : Nat} (hfits : t.Fits columns) (h : t.failure? columns = none)
    {c : Column} (hc : c ∈ t.columns) (hcentered : c.centered = false)
    (hroom : 0 < measure c.heading.text) {s : Styled} (hs : s ∈ c.cells)
    (hword : ∀ d ∈ s.text, Text.isBlank d = false) : s.Showable := by
  obtain ⟨width, hwidth, hmax⟩ : ∃ width, t.fullWidth c = width + 2 ∧
      ∀ text ∈ c.heading :: c.cells, measure text.text ≤ width := by
    rw [fullWidth, texts, if_pos hfits.heading]
    exact ⟨_, rfl, fun text hmem => le_foldl_max_map (fun s => measure s.text) hmem⟩
  have hpositive : 0 < width := Nat.lt_of_lt_of_le hroom (hmax _ List.mem_cons_self)
  have hword_fits : Text.width s.text ≤ width := by
    rw [← Styled.measure_of_no_blank hword]
    exact hmax s (List.mem_cons_of_mem _ hs)
  have hlines : cellLines c (t.fullWidth c) s = [s.padRight width] := by
    rw [cellLines, hwidth, if_neg (by omega), hcentered, Nat.add_sub_cancel,
      Styled.layOut_of_no_blank .ellipsis hword hword_fits]
  have hline : s.padRight width ∈ cellLines c (t.fullWidth c) s := by
    rw [hlines]
    exact List.mem_cons_self
  have hshown : (s.padRight width).Showable := showable_of_failure?_eq_none hfits h hc hs hline
  rwa [Styled.Showable, Styled.styles_padRight] at hshown

end Table
end Screen
end GitPractice
