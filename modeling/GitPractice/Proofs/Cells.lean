import GitPractice.Proofs.Signs
import GitPractice.Proofs.Styles

/-!
# Cells

However a text is broken, cut and filled up, its cell holds no more signs than the
text (`Table.signs_cellLines_le`). A text without styles that takes one line, and
that can be seen up to its end, stands in its cell as it is (`Table.cell_of_inline`).
-/

namespace GitPractice

namespace Text

/-- The clusters of a text are the text. -/
theorem flatMap_chars_ofChars (last : Option Char) (present : Option Cluster) (cs : List Char) :
    (Cluster.ofChars last present cs).flatMap (·.chars) =
      present.toList.flatMap (·.chars) ++ cs := by
  have hjoin (present : Option Cluster) (c : Char) :
      (Cluster.joinOr present c).chars = present.toList.flatMap (·.chars) ++ [c] := by
    cases present <;> simp [Cluster.joinOr, Cluster.join]
  induction last, present, cs using Cluster.ofChars.induct with
  | case1 => simp [Cluster.ofChars]
  | case2 last present c hc => simp [Cluster.ofChars, hc, hjoin]
  | case3 last present c hc h => simp [Cluster.ofChars, hc, h, hjoin]
  | case4 last present c hc h => simp [Cluster.ofChars, hc, h]
  | case5 last d cs k ih =>
    rw [Cluster.ofChars.eq_def]
    simp only [if_true, ih]
    simp [Cluster.join]
  | case6 last d cs ih => simp [Cluster.ofChars, ih]
  | case7 last present c d cs hc h ih =>
    rw [Cluster.ofChars.eq_def]
    simp only [hc, h, if_true, if_false, ih]
    simp [hjoin]
  | case8 last present c d cs hc h h' ih => simp [Cluster.ofChars, hc, h, h', ih, hjoin]
  | case9 last present c d cs hc h h' ih => simp [Cluster.ofChars, hc, h, h', ih]

theorem length_cut_le (width : Nat) (ks : List Cluster) :
    (Cluster.cut width ks).length ≤ (ks.flatMap (·.chars)).length + width := by
  induction ks generalizing width with
  | nil => exact Nat.zero_le _
  | cons k ks ih =>
    rw [List.flatMap_cons, List.length_append, Cluster.cut]
    split
    · exact Nat.zero_le _
    · split
      · have hrest := ih (width - k.width)
        rw [List.length_append]
        omega
      · rw [List.length_singleton]
        omega

theorem mem_cut {width : Nat} {ks : List Cluster} {c : Char} (h : c ∈ Cluster.cut width ks) :
    c = ' ' ∨ c ∈ ks.flatMap (·.chars) := by
  induction ks generalizing width with
  | nil => cases h
  | cons k ks ih =>
    rw [Cluster.cut] at h
    rw [List.flatMap_cons, List.mem_append]
    split at h
    · cases h
    · split at h
      · rcases List.mem_append.mp h with h | h
        · exact Or.inr (Or.inl h)
        · exact (ih h).imp_right Or.inr
      · exact Or.inl (List.mem_singleton.mp h)

theorem length_resize_le (columns : Nat) (cs : List Char) :
    (resize columns cs).length ≤ cs.length + columns := by
  rw [resize]
  split
  · have hcut := length_cut_le columns (clusters cs)
    rwa [clusters, flatMap_chars_ofChars] at hcut
  · rw [List.length_append, spaces, List.length_replicate]
    omega

theorem mem_resize {columns : Nat} {cs : List Char} {c : Char} (h : c ∈ resize columns cs) :
    c = ' ' ∨ c ∈ cs := by
  rw [resize] at h
  split at h
  · have hcut := mem_cut h
    rwa [clusters, flatMap_chars_ofChars] at hcut
  · rcases List.mem_append.mp h with h | h
    · exact Or.inr h
    · exact Or.inl (List.eq_of_mem_replicate h)

end Text

open Markup (signs signs_append)

theorem Markup.signs_spaces (n : Nat) : signs (Text.spaces n) = 0 := by
  simp [signs, Text.spaces, List.countP_replicate, Markup.isSign]

/-! ## Signs in a cell -/

theorem Text.signs_cut_le (width : Nat) (ks : List Cluster) :
    signs (Cluster.cut width ks) ≤ signs (ks.flatMap (·.chars)) := by
  induction ks generalizing width with
  | nil => exact Nat.le_refl _
  | cons k ks ih =>
    rw [List.flatMap_cons, signs_append, Cluster.cut]
    split
    · exact Nat.zero_le _
    · split
      · rw [signs_append]
        exact Nat.add_le_add_left (ih _) _
      · exact Nat.zero_le _

theorem Text.signs_resize_le (columns : Nat) (cs : List Char) :
    signs (resize columns cs) ≤ signs cs := by
  rw [resize]
  split
  · have hcut := signs_cut_le columns (clusters cs)
    rwa [clusters, flatMap_chars_ofChars] at hcut
  · rw [signs_append, Markup.signs_spaces]
    exact Nat.le_refl _

namespace Screen

theorem signs_crop_le (room : Nat) (segments : List (List Char)) :
    signs (crop room segments).flatten ≤ signs segments.flatten := by
  induction segments generalizing room with
  | nil => exact Nat.le_refl _
  | cons s segments ih =>
    have hs := Text.signs_resize_le room s
    have hrest := ih (room - Text.width s)
    rw [crop, List.flatten_cons, signs_append]
    split
    · rw [List.flatten_cons, signs_append]
      omega
    · rw [List.flatten_singleton]
      omega

theorem signs_limit_le (room : Nat) (segments : List (List Char)) :
    signs (limit room segments).flatten ≤ signs segments.flatten := by
  rw [limit]
  split
  · exact signs_crop_le room segments
  · exact Nat.le_refl _

/-- Making room takes no signs but those that do not fit. -/
theorem signs_adjust_le (width : Nat) (segments : List (List Char)) :
    signs (adjust width segments).flatten ≤ signs segments.flatten := by
  simp only [adjust]
  split
  · simp [signs_append, Markup.signs_spaces]
  · exact signs_limit_le width segments

/-! ## Cutting a text -/

/-- Cuts at places that go up cut nothing away. -/
theorem flatten_cuts {text : List Char} {places : List Nat} {start stop : Nat} (hstop : text.length ≤ stop)
    (h : (start :: places).Pairwise (· ≤ ·)) :
    (List.zipWith (fun start stop => (text.drop start).take (stop - start)) (start :: places)
      (places ++ [stop])).flatten = text.drop start := by
  induction places generalizing start with
  | nil =>
    have hlength : (text.drop start).length ≤ stop - start := by
      rw [List.length_drop]
      omega
    simp [List.take_of_length_le hlength]
  | cons place places ih =>
    obtain ⟨hstart, hplaces⟩ := List.pairwise_cons.mp h
    have hle : start ≤ place := hstart place List.mem_cons_self
    have hdrop : text.drop place = (text.drop start).drop (place - start) := by
      rw [List.drop_drop, Nat.add_sub_cancel' hle]
    rw [List.cons_append, List.zipWith_cons_cons, List.flatten_cons, ih hplaces, hdrop,
      List.take_append_drop]

/-- The places behind a character go up. -/
theorem pairwise_placesBehind (c : Char) (cs : List Char) :
    (Styled.placesBehind c cs).Pairwise (· ≤ ·) := by
  have hplaces : (cs.zipIdx.map (·.2)).Pairwise (· < ·) := by
    rw [List.zipIdx_map_snd]
    exact List.pairwise_lt_range'
  rw [Styled.placesBehind, List.pairwise_map]
  refine List.Pairwise.filter _ ((List.pairwise_map.mp hplaces).imp fun h => ?_)
  omega

/-- In a cell a line is broken at places that go up from its start. -/
theorem pairwise_breaks (width column place : Nat) (words : List (List Char)) :
    (place :: breaks .ellipsis width column place words).Pairwise (· ≤ ·) := by
  induction words generalizing column place with
  | nil => exact List.pairwise_singleton _ _
  | cons word words ih =>
    have hbehind (column : Nat) :
        ∀ b ∈ breaks .ellipsis width column (place + word.length) words, place ≤ b := fun b hb =>
      Nat.le_trans (Nat.le_add_right _ _) ((List.pairwise_cons.mp (ih column _)).1 b hb)
    have hrest (column : Nat) :
        (place :: breaks .ellipsis width column (place + word.length) words).Pairwise (· ≤ ·) :=
      List.pairwise_cons.mpr ⟨hbehind column, (List.pairwise_cons.mp (ih column _)).2⟩
    simp only [breaks]
    split
    · exact hrest _
    · -- The word begins a line, unless it stands at the very front.
      rw [if_neg (by simp)]
      rw [List.filter_cons, List.filter_nil]
      split
      · rw [List.singleton_append, List.pairwise_cons]
        refine ⟨List.forall_mem_cons.mpr ⟨Nat.le_refl _, hbehind _⟩, hrest _⟩
      · exact hrest _

namespace Styled

variable {s : Styled}

/-- The parts of a text that is cut at places that go up are the text. -/
theorem flatMap_cutAt {places : List Nat} (h : places.Pairwise (· ≤ ·)) :
    (s.cutAt places).flatMap (·.text) = s.text := by
  rw [cutAt]
  split
  · exact List.flatMap_singleton _ _
  · rw [List.flatMap_def, List.map_zipWith]
    exact flatten_cuts (Nat.le_refl _) (List.pairwise_cons.mpr ⟨fun _ _ => Nat.zero_le _, h⟩)

theorem flatten_segments (s : Styled) : s.segments.flatten = s.text := by
  have hsorted : (s.spans.flatMap fun p => [p.start, p.stop]).mergeSort.Pairwise (· ≤ ·) := by
    have h := @List.pairwise_mergeSort Nat (fun a b => a ≤ b) (by simp; omega) (by simp; omega)
      (s.spans.flatMap fun p => [p.start, p.stop])
    simpa using h
  rw [segments, ← List.flatMap_def, flatMap_cutAt hsorted]

/-- Lines lose their ends and nothing else. -/
theorem signs_lines_le (s : Styled) : signs (s.lines.flatMap (·.text)) ≤ signs s.text := by
  have hpairwise := pairwise_placesBehind '\n' s.text
  rw [lines]
  split
  · rw [List.flatMap_singleton]
  · have hcuts := flatten_cuts (Nat.le_succ s.text.length)
      (List.pairwise_cons.mpr ⟨fun _ _ => Nat.zero_le _, hpairwise⟩)
    rw [List.drop_zero, ← List.map_uncurry_zip_eq_zipWith, ← List.flatMap_def] at hcuts
    rw [← List.map_uncurry_zip_eq_zipWith, List.flatMap_map]
    refine Nat.le_trans (Markup.signs_flatMap_le fun place _ => ?_) (Nat.le_of_eq (congrArg signs hcuts))
    exact Markup.signs_le_of_sublist (List.take_sublist_take_left (Nat.sub_le_sub_right (Nat.sub_le _ _) _))

theorem signs_addPart_le (before : Styled × Nat) (part : Styled) :
    signs (addPart before part).1.text ≤ signs before.1.text + signs part.text := by
  rw [addPart]
  split
  · have hlast : signs part.text.dropLast ≤ signs part.text :=
      Markup.signs_le_of_sublist (List.dropLast_sublist _)
    have hspace : signs [' '] = 0 := rfl
    simp only [append, extend, signs_append, Markup.signs_spaces, hspace]
    omega
  · rw [append, signs_append]

theorem signs_foldl_addPart_le (parts : List Styled) (before : Styled × Nat) :
    signs (parts.foldl addPart before).1.text ≤ signs before.1.text + signs (parts.flatMap (·.text)) := by
  induction parts generalizing before with
  | nil => exact Nat.le_refl _
  | cons part parts ih =>
    have hpart := signs_addPart_le before part
    have hparts := ih (addPart before part)
    rw [List.foldl_cons, List.flatMap_cons, signs_append]
    omega

theorem signs_expandTabs_le (s : Styled) : signs s.expandTabs.text ≤ signs s.text := by
  rw [expandTabs]
  split
  · have hparts := signs_foldl_addPart_le (s.cutAt (placesBehind '\t' s.text)) ({ style := s.style }, 0)
    rw [flatMap_cutAt (pairwise_placesBehind _ _)] at hparts
    exact Nat.le_trans hparts (Nat.le_of_eq (Nat.zero_add _))
  · exact Nat.le_refl _

/-- A text that is broken in a cell keeps its signs at most. -/
theorem signs_flow_le (width : Nat) (s : Styled) :
    signs ((s.flow .ellipsis width).flatMap (·.text)) ≤ signs s.text := by
  refine Nat.le_trans ?_ (signs_lines_le s)
  rw [flow, List.flatMap_assoc]
  refine Markup.signs_flatMap_le fun line _ => Nat.le_trans ?_ (signs_expandTabs_le line)
  have hparts := flatMap_cutAt (s := line.expandTabs)
    (List.pairwise_cons.mp (pairwise_breaks width 0 0 (wordsWithBlanks [] false false line.expandTabs.text))).2
  rw [List.flatMap_map]
  refine Nat.le_trans (Markup.signs_flatMap_le fun part _ => ?_) (Nat.le_of_eq (congrArg signs hparts))
  exact Markup.signs_le_of_sublist (List.take_sublist _ _)

theorem signs_truncate_le (overflow : Overflow) (width : Nat) (s : Styled) :
    signs (s.truncate overflow width).text ≤ signs s.text := by
  simp only [truncate]
  split
  · cases overflow with
    | fold => exact Text.signs_resize_le _ _
    | ellipsis =>
      have hellipsis : signs ['…'] = 0 := rfl
      change signs (Text.resize (width - 1) s.text ++ ['…']) ≤ _
      rw [signs_append, hellipsis]
      exact Text.signs_resize_le _ _
  · exact Nat.le_refl _

theorem signs_padRight (width : Nat) (s : Styled) : signs (s.padRight width).text = signs s.text := by
  rw [padRight, signs_append, Markup.signs_spaces, Nat.add_zero]

theorem signs_alignLeft_le (overflow : Overflow) (width : Nat) (s : Styled) :
    signs (s.alignLeft overflow width).text ≤ signs s.text := by
  rw [alignLeft]
  split
  · exact signs_truncate_le overflow width s
  · exact Nat.le_of_eq (signs_padRight width s)

theorem signs_center_le (overflow : Overflow) (width : Nat) (s : Styled) :
    signs (s.center overflow width).text ≤ signs s.text := by
  rw [center, signs_padRight, indent, signs_append, Markup.signs_spaces, Nat.zero_add]
  refine Nat.le_trans (signs_truncate_le _ _ _) ?_
  exact Markup.signs_le_of_sublist (Text.dropEndWhile_prefix _ _).sublist

/-- A text that is laid out in a cell keeps its signs at most. -/
theorem signs_layOut_le (width : Nat) (centered : Bool) (s : Styled) :
    signs ((s.layOut .ellipsis width centered).flatMap (·.text)) ≤ signs s.text := by
  refine Nat.le_trans ?_ (signs_flow_le width s)
  rw [layOut, List.flatMap_map]
  refine Markup.signs_flatMap_le fun line _ => ?_
  split
  · exact signs_center_le _ _ _
  · exact signs_alignLeft_le _ _ _

end Styled

theorem Table.signs_padded_le (width : Nat) (line : Styled) :
    signs (padded width line) ≤ signs line.text := by
  rw [padded]
  refine Nat.le_trans (signs_adjust_le _ _) (Nat.le_trans (signs_adjust_le _ _) ?_)
  have hinner := signs_adjust_le (width - 2) line.segments
  rw [Styled.flatten_segments] at hinner
  simpa [signs, Markup.isSign] using hinner

/-- The lines of a cell have no more signs than the text. -/
theorem Table.signs_cellLines_le (c : Column) (width : Nat) (text : Styled) :
    signs ((cellLines c width text).flatMap (padded width)) ≤ signs text.text := by
  refine Nat.le_trans (Markup.signs_flatMap_le fun line _ => signs_padded_le width line) ?_
  rw [cellLines]
  split
  · exact Nat.zero_le _
  · exact Styled.signs_layOut_le _ _ _

/-! ## Rows of one line -/

/-- A character that leaves the line in one piece and stays in it. -/
def isInline (c : Char) : Bool := c ≠ '\t' && c ≠ '\n' && !isMeasureBreak c && !isDropped c

/-- A text that takes one line and can be seen up to its end. -/
structure Inline (cs : List Char) : Prop where
  unbroken : ∀ c ∈ cs, isInline c = true
  visible : cs ≠ [] → 0 < Text.width cs
  /-- Blanks at the end would be taken for too many if other characters took no columns. -/
  blank_end : cs.getLast?.any Text.isBlank = true → cs.length ≤ Text.width cs
  joiner_end : cs.getLast? ≠ some Text.joiner

instance (cs : List Char) : Decidable (Inline cs) :=
  decidable_of_iff (cs.all isInline = true ∧ (cs ≠ [] → 0 < Text.width cs) ∧
      (cs.getLast?.any Text.isBlank = true → cs.length ≤ Text.width cs) ∧
      cs.getLast? ≠ some Text.joiner)
    ⟨fun h => ⟨List.all_eq_true.mp h.1, h.2.1, h.2.2.1, h.2.2.2⟩,
      fun h => ⟨List.all_eq_true.mpr h.unbroken, h.visible, h.blank_end, h.joiner_end⟩⟩

theorem not_mem_of_inline {cs : List Char} (h : ∀ c ∈ cs, isInline c = true) {d : Char}
    (hd : isInline d = false) : d ∉ cs := by
  intro hmem
  rw [h d hmem] at hd
  cases hd

theorem withoutControls_of_inline {cs : List Char} (h : ∀ c ∈ cs, isInline c = true) :
    withoutControls cs = cs := by
  rw [withoutControls, List.filter_eq_self]
  intro c hc
  have hinline := h c hc
  simp only [isInline, Bool.and_eq_true] at hinline
  exact hinline.2

namespace Table

/-- The cell of a text that takes one line. -/
def cell (width : Nat) (text : Styled) : List Char :=
  if width ≤ 2 then Text.spaces width
  else padded width ((text.trimExcess (width - 2)).padRight (width - 2))

/-- The cell that shows a text as it is. -/
def plainCell (width : Nat) (cs : List Char) : List Char :=
  ' ' :: cs ++ Text.spaces (width - Text.width cs) ++ [' ']

theorem signs_plainCell (width : Nat) (cs : List Char) : signs (plainCell width cs) = signs cs := by
  simp [plainCell, signs, Markup.isSign, Text.spaces, List.countP_replicate]

theorem adjust_of_width {width : Nat} {segments : List (List Char)}
    (h : totalWidth (segments.map Text.width) = width) : adjust width segments = segments := by
  simp [adjust, limit, h]

theorem excess_of_inline {cs : List Char} (hcs : Inline cs) {width : Nat}
    (hwidth : Text.width cs ≤ width) : excess width cs = 0 := by
  cases hlast : cs.getLast?.any Text.isBlank with
  | true =>
    have hlength := hcs.blank_end hlast
    rw [excess, Nat.sub_eq_zero_of_le (Nat.le_trans hlength hwidth), Nat.min_zero]
  | false => exact Styled.excess_of_last hlast width

theorem cell_of_inline {s : Styled} (hspans : s.spans = []) (hs : Inline s.text) {width : Nat}
    (hwidth : Text.width s.text ≤ width) : cell (width + 2) s = plainCell width s.text := by
  rw [cell]
  split
  · have hzero : width = 0 := by omega
    subst hzero
    have hempty : s.text = [] := by
      by_contra hne
      have hvisible := hs.visible hne
      omega
    rw [hempty]
    rfl
  · have hspace : Text.width [' '] = 1 := by decide
    -- The text with its spaces is one segment, and as wide as it should be with them.
    obtain ⟨filled, hfilled⟩ : ∃ filled, s.text ++ Text.spaces (width - Text.width s.text) = filled :=
      ⟨_, rfl⟩
    have hsegments : (s.padRight width).segments = [filled] := by
      simp [Styled.segments, Styled.padRight, Styled.cutAt, hspans, hfilled]
    have hwide : Text.width filled = width := by
      rw [← hfilled, Text.width_append_spaces hs.joiner_end]
      omega
    have hinner : adjust width [filled] = [filled] := adjust_of_width (by simpa using hwide)
    have houter : adjust (width + 2) ([' '] :: [filled] ++ [[' ']]) = [' '] :: [filled] ++ [[' ']] := by
      apply adjust_of_width
      simp [hwide, hspace]
      omega
    rw [Nat.add_sub_cancel, Styled.trimExcess_eq_self (excess_of_inline hs hwidth), padded, Nat.add_sub_cancel, hsegments,
      hinner, houter, houter, plainCell, hfilled.symm]
    simp

end Table
end Screen
end GitPractice
