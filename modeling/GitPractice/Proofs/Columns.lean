import Mathlib.Tactic.ByContra
import GitPractice.Screen.Table

/-!
# Widths of columns

A table that has room for the full width of every column gets it
(`Table.widths_of_fits`). One that has not is shrunk until it fits: each round
takes a column away at least (`totalWidth_reduce_lt`), so the rounds are enough, and the
columns never take more than there is (`Table.totalWidth_widths_le`).
-/

namespace GitPractice
namespace Screen

theorem le_foldl_max_map {α : Type} (f : α → Nat) {xs : List α} {x : α} (h : x ∈ xs) :
    f x ≤ (xs.map f).foldl max 0 := by
  rw [List.foldl_max]
  exact Nat.le_trans (List.le_max?_getD_of_mem (List.mem_map_of_mem h)) (Nat.le_max_right _ _)

theorem forall_mem_intersperse {α : Type} {P : α → Prop} {sep : α} (hsep : P sep) {xs : List α}
    (h : ∀ x ∈ xs, P x) : ∀ x ∈ xs.intersperse sep, P x := by
  induction xs with
  | nil => exact h
  | cons x xs ih =>
    cases xs with
    | nil => exact h
    | cons y ys =>
      obtain ⟨hx, hys⟩ := List.forall_mem_cons.mp h
      rw [List.intersperse_cons_cons, List.forall_mem_cons, List.forall_mem_cons]
      exact ⟨hx, hsep, ih hys⟩

/-! ## What widths come to -/

theorem le_totalWidth {widths : List Nat} {width : Nat} (h : width ∈ widths) : width ≤ totalWidth widths := by
  induction widths with
  | nil => cases h
  | cons w widths ih =>
    rw [totalWidth_cons]
    rcases List.mem_cons.mp h with rfl | h
    · exact Nat.le_add_right _ _
    · exact Nat.le_trans (ih h) (Nat.le_add_left _ _)

theorem exists_pos_of_totalWidth {widths : List Nat} (h : 0 < totalWidth widths) :
    ∃ width ∈ widths, 0 < width := by
  induction widths with
  | nil => cases h
  | cons w widths ih =>
    rw [totalWidth_cons] at h
    by_cases hw : 0 < w
    · exact ⟨w, List.mem_cons_self, hw⟩
    · obtain ⟨width, hmem, hpos⟩ := ih (by omega)
      exact ⟨width, List.mem_cons_of_mem w hmem, hpos⟩

/-- Widths that are all greater by the same come to that much more for each of them. -/
theorem totalWidth_map_add {α : Type} (f : α → Nat) (more : Nat) (xs : List α) :
    totalWidth (xs.map fun x => f x + more) = totalWidth (xs.map f) + xs.length * more := by
  induction xs with
  | nil => simp
  | cons x xs ih =>
    rw [List.map_cons, List.map_cons, totalWidth_cons, totalWidth_cons, ih, List.length_cons, Nat.succ_mul]
    omega

/-! ## Taking widths away -/

theorem nearest_one (n : Nat) : nearest n 1 = n := by
  simp [nearest, Nat.mod_one]

theorem length_reduce (total shares : Nat) (widths : List (Nat × Nat)) :
    (reduce total shares widths).length = widths.length := by
  induction widths generalizing total shares with
  | nil => rfl
  | cons w widths ih =>
    rw [reduce]
    split <;> simp [ih]

theorem totalWidth_reduce_le (total shares : Nat) (widths : List (Nat × Nat)) :
    totalWidth (reduce total shares widths) ≤ totalWidth (widths.map (·.2)) := by
  induction widths generalizing total shares with
  | nil => exact Nat.le_refl _
  | cons w widths ih =>
    rw [reduce, List.map_cons, totalWidth_cons]
    split
    · rw [totalWidth_cons]
      exact Nat.add_le_add_left (ih total shares) _
    · simp only [totalWidth_cons]
      exact Nat.add_le_add (Nat.sub_le _ _) (ih _ _)

/-- Whatever the shares are rounded to, the last one takes all that is left, as far as its limit goes. -/
theorem totalWidth_reduce_lt {total shares : Nat} {widths : List (Nat × Nat)} (htotal : 0 < total)
    (hshares : shares = widths.countP (0 < ·.1)) (hlimits : ∀ w ∈ widths, w.1 ≤ w.2)
    (hsome : ∃ w ∈ widths, 0 < w.1) : totalWidth (reduce total shares widths) < totalWidth (widths.map (·.2)) := by
  induction widths generalizing total shares with
  | nil =>
    obtain ⟨w, hw, -⟩ := hsome
    cases hw
  | cons w widths ih =>
    obtain ⟨hlimit, hlimits⟩ := List.forall_mem_cons.mp hlimits
    rw [reduce, List.map_cons, totalWidth_cons]
    split
    · next hzero =>
      have hrest : ∃ w ∈ widths, 0 < w.1 := by
        obtain ⟨v, hv, hpos⟩ := hsome
        rcases List.mem_cons.mp hv with rfl | hv
        · omega
        · exact ⟨v, hv, hpos⟩
      have hcount : shares = widths.countP (0 < ·.1) := by
        rw [hshares, List.countP_cons_of_neg (by simp [hzero])]
      rw [totalWidth_cons]
      exact Nat.add_lt_add_left (ih htotal hcount hlimits hrest) _
    · next hpos =>
      have hcount : shares = widths.countP (0 < ·.1) + 1 := by
        rw [hshares, List.countP_cons_of_pos (by simpa using Nat.pos_of_ne_zero hpos)]
      simp only [totalWidth_cons]
      by_cases hpart : min w.1 (nearest total shares) = 0
      · -- Nothing is taken here, so others have shares too.
        have hmore : 0 < widths.countP (0 < ·.1) := by
          by_contra hnone
          rw [hcount, Nat.eq_zero_of_not_pos hnone, Nat.zero_add, nearest_one] at hpart
          omega
        obtain ⟨v, hv, hvpos⟩ := List.countP_pos_iff.mp hmore
        rw [hpart, Nat.sub_zero, Nat.sub_zero]
        exact Nat.add_lt_add_left (ih htotal (by omega) hlimits ⟨v, hv, by simpa using hvpos⟩) _
      · have hrest := totalWidth_reduce_le (total - min w.1 (nearest total shares)) (shares - 1) widths
        omega

theorem foldl_max_eq_or_mem (n : Nat) (xs : List Nat) : xs.foldl max n = n ∨ xs.foldl max n ∈ xs := by
  induction xs generalizing n with
  | nil => exact Or.inl rfl
  | cons x xs ih =>
    rw [List.foldl_cons]
    rcases ih (max n x) with h | h
    · rw [h]
      rcases Nat.le_total x n with hle | hle
      · exact Or.inl (Nat.max_eq_left hle)
      · rw [Nat.max_eq_right hle]
        exact Or.inr List.mem_cons_self
    · exact Or.inr (List.mem_cons_of_mem x h)

theorem le_foldl_max {xs : List Nat} {x : Nat} (h : x ∈ xs) : x ≤ xs.foldl max 0 := by
  have hmap := le_foldl_max_map id h
  rwa [List.map_id] at hmap

/-- The greatest number and the next smaller one differ, unless all are zero. -/
theorem foldl_max_filter_lt {xs : List Nat} {n : Nat} (hn : xs.foldl max 0 = n) (hpos : 0 < n) :
    (xs.filter (· ≠ n)).foldl max 0 < n := by
  rcases foldl_max_eq_or_mem 0 (xs.filter (· ≠ n)) with h | h
  · rwa [h]
  · obtain ⟨hmem, hne⟩ := List.mem_filter.mp h
    have hle := le_foldl_max hmem
    have hne' : (xs.filter (· ≠ n)).foldl max 0 ≠ n := by simpa using hne
    omega

section

variable {excess : Nat} {widths : List (Bool × Nat)}

theorem map_snd_limits (excess : Nat) (widths : List (Bool × Nat)) :
    (limits excess widths).map (·.2) = widths.map (·.2) := by
  rw [limits, List.map_map]
  rfl

theorem limit_le {w : Nat × Nat} (h : w ∈ limits excess widths) : w.1 ≤ w.2 := by
  obtain ⟨v, -, rfl⟩ := List.mem_map.mp h
  simp only
  split
  · next hwidest =>
    have heq := of_decide_eq_true (Bool.and_eq_true_iff.mp hwidest).2
    omega
  · exact Nat.zero_le _

/-- As long as there are columns, one can be taken from the widest. -/
theorem exists_limit_pos (hfree : ∀ w ∈ widths, w.1 = true) (hexcess : 0 < excess)
    (hsum : 0 < totalWidth (widths.map (·.2))) : ∃ w ∈ limits excess widths, 0 < w.1 := by
  have hall : widths.filter (·.1) = widths := List.filter_eq_self.mpr hfree
  obtain ⟨widest, hwidest⟩ : ∃ widest, (widths.map (·.2)).foldl max 0 = widest := ⟨_, rfl⟩
  have hpos : 0 < widest := by
    obtain ⟨w, hw, hpos⟩ := exists_pos_of_totalWidth hsum
    have hle := le_foldl_max hw
    omega
  have hnext := foldl_max_filter_lt hwidest hpos
  rcases foldl_max_eq_or_mem 0 (widths.map (·.2)) with hmax | hmax
  · omega
  · obtain ⟨w, hw, heq⟩ := List.mem_map.mp hmax
    refine ⟨_, List.mem_map_of_mem hw, ?_⟩
    simp only [hall, hfree w hw, heq, decide_true, Bool.and_self, if_true, hwidest]
    omega

end

/-- Widths that all may shrink do so until they fit, given a round for each column too many. -/
theorem totalWidth_collapse_le {room rounds : Nat} {widths : List (Bool × Nat)} (hfree : ∀ w ∈ widths, w.1 = true)
    (hrounds : totalWidth (widths.map (·.2)) ≤ rounds + room) : totalWidth (collapse room rounds widths) ≤ room := by
  induction rounds generalizing widths with
  | zero => simpa [collapse] using hrounds
  | succ rounds ih =>
    obtain ⟨excess, hexcess⟩ : ∃ excess, totalWidth (widths.map (·.2)) - room = excess := ⟨_, rfl⟩
    obtain ⟨shares, hshares⟩ : ∃ shares, (limits excess widths).countP (0 < ·.1) = shares := ⟨_, rfl⟩
    have hsome (h : 0 < excess) := exists_limit_pos hfree h (by omega)
    simp only [collapse, hexcess, hshares]
    split
    · next hnone =>
      by_contra hwide
      obtain ⟨w, hw, hpos⟩ := hsome (by omega)
      have hcount : 0 < (limits excess widths).countP (0 < ·.1) :=
        List.countP_pos_iff.mpr ⟨w, hw, by simpa using hpos⟩
      omega
    · have hlength : (reduce excess shares (limits excess widths)).length = widths.length := by
        rw [length_reduce, limits, List.length_map]
      have hle := totalWidth_reduce_le excess shares (limits excess widths)
      have hlt (h : 0 < excess) := totalWidth_reduce_lt h hshares.symm (fun _ => limit_le) (hsome h)
      rw [map_snd_limits] at hle hlt
      refine ih ?_ ?_
      · intro w hw
        obtain ⟨v, hv, heq⟩ := List.mem_map.mp (List.of_mem_zip hw).1
        rw [← heq]
        exact hfree v hv
      · rw [List.map_snd_zip (by simp [hlength])]
        omega

theorem length_collapse (room rounds : Nat) (widths : List (Bool × Nat)) :
    (collapse room rounds widths).length = widths.length := by
  induction rounds generalizing widths with
  | zero => rw [collapse, List.length_map]
  | succ rounds ih =>
    simp only [collapse]
    split
    · rw [List.length_map]
    · simp [ih, length_reduce, limits]

/-! ## Tables -/

namespace Table

variable {t : Table}

theorem totalWidth_zipWith_le {α : Type} {f : Nat → α → Nat} (hf : ∀ w a, f w a ≤ w) (widths : List Nat)
    (xs : List α) : totalWidth (List.zipWith f widths xs) ≤ totalWidth widths := by
  induction widths generalizing xs with
  | nil => exact Nat.le_refl _
  | cons w widths ih =>
    cases xs with
    | nil => exact Nat.zero_le _
    | cons x xs =>
      rw [List.zipWith_cons_cons, totalWidth_cons, totalWidth_cons]
      exact Nat.add_le_add (hf w x) (ih xs)

theorem length_widths (t : Table) (columns : Nat) : (t.widths columns).length = t.columns.length := by
  simp only [widths]
  split
  · rw [List.length_map]
  · simp only [List.length_zipWith, narrow]
    split <;> simp [length_reduce, length_collapse]

theorem columnWidth_le (room : Nat) (c : Column) : t.columnWidth room c ≤ room := by
  rw [columnWidth]
  exact Nat.min_le_left _ _

/-- The columns of a table take no more than what the box leaves them. -/
theorem totalWidth_widths_le (hfree : ∀ c ∈ t.columns, c.fixedWidth = none) (columns : Nat) :
    totalWidth (t.widths columns) ≤ columns - t.boxWidth := by
  obtain ⟨room, hroom⟩ : ∃ room, columns - t.boxWidth = room := ⟨_, rfl⟩
  simp only [widths, hroom]
  split
  · next hfits => exact hfits
  · obtain ⟨natural, hnatural⟩ : ∃ natural, t.columns.map (fun c => max 1 (t.columnWidth room c)) = natural :=
      ⟨_, rfl⟩
    have hcollapse : totalWidth (collapse room (totalWidth natural)
        ((t.columns.map (·.fixedWidth.isNone)).zip natural)) ≤ room := by
      refine totalWidth_collapse_le ?_ ?_
      · intro w hw
        obtain ⟨c, hc, heq⟩ := List.mem_map.mp (List.of_mem_zip hw).1
        rw [← heq, hfree c hc, Option.isNone_none]
      · rw [List.map_snd_zip (by simp [← hnatural])]
        exact Nat.le_add_right _ _
    simp only [hnatural, narrow]
    rw [if_pos hcollapse]
    exact Nat.le_trans (totalWidth_zipWith_le columnWidth_le _ _) hcollapse

/-- The width of a column that has room for all of its texts. -/
def fullWidth (t : Table) (c : Column) : Nat := ((t.texts c).map fun s => measure s.text).foldl max 0 + 2

theorem fullWidth_le {c : Column} {n : Nat} (h : ∀ s ∈ t.texts c, measure s.text ≤ n) :
    t.fullWidth c ≤ n + 2 := by
  rw [fullWidth]
  refine Nat.add_le_add_right ?_ 2
  rcases foldl_max_eq_or_mem 0 ((t.texts c).map fun s => measure s.text) with hmax | hmax
  · rw [hmax]
    exact Nat.zero_le n
  · obtain ⟨s, hs, heq⟩ := List.mem_map.mp hmax
    rw [← heq]
    exact h s hs

/-- There is room for the full width of every column. -/
structure Fits (t : Table) (columns : Nat) : Prop where
  heading : t.showHeading = true
  free : ∀ c ∈ t.columns, c.fixedWidth = none
  width : t.width (t.columns.map t.fullWidth) ≤ columns

theorem widths_of_fits {columns : Nat} (h : t.Fits columns) : t.widths columns = t.columns.map t.fullWidth := by
  obtain ⟨room, hroom⟩ : ∃ room, columns - t.boxWidth = room := ⟨_, rfl⟩
  have hsum : totalWidth (t.columns.map t.fullWidth) ≤ room := by
    have hwidth := h.width
    rw [Table.width] at hwidth
    omega
  have hnatural : (t.columns.map fun c => max 1 (t.columnWidth room c)) = t.columns.map t.fullWidth := by
    refine List.map_congr_left fun c hc => ?_
    have hle : t.fullWidth c ≤ room :=
      Nat.le_trans (le_totalWidth (List.mem_map_of_mem hc)) hsum
    have hcolumn : t.columnWidth room c = min room (t.fullWidth c) := by
      rw [columnWidth, fullWidth, h.free c hc, texts, if_pos h.heading]
    rw [hcolumn, Nat.min_eq_right hle, fullWidth]
    omega
  simp only [widths, hroom, hnatural]
  rw [if_pos hsum]

end Table
end Screen
end GitPractice
