import GitPractice.Proofs.Styles
import GitPractice.Topic.Similarity

/-!
# How alike texts are

The table of lengths holds the lengths of the longest common subsequences
(`isLongest_common`), so a likeness is never above 100, and a text is alike to itself by
100. A text that occurs in another one is one of the windows that it is compared with,
hence its partial ratio is 100 (`partialRatio_of_part`).
-/

namespace GitPractice
namespace Similarity

variable {xs ys : List Char} {c d : Char} {n m : Nat}

/-! ## Longest common subsequences -/

/-- The length `n` is that of a longest common subsequence. -/
structure IsLongest (n : Nat) (xs ys : List Char) : Prop where
  reached : ∃ zs : List Char, zs.Sublist xs ∧ zs.Sublist ys ∧ zs.length = n
  bound : ∀ zs : List Char, zs.Sublist xs → zs.Sublist ys → zs.length ≤ n

theorem IsLongest.of_nil_left (ys : List Char) : IsLongest 0 [] ys where
  reached := ⟨[], List.Sublist.refl [], List.nil_sublist ys, rfl⟩
  bound zs hzs _ := by rw [List.sublist_nil.mp hzs, List.length_nil]

theorem IsLongest.of_nil_right (xs : List Char) : IsLongest 0 xs [] where
  reached := ⟨[], List.nil_sublist xs, List.Sublist.refl [], rfl⟩
  bound zs _ hzs := by rw [List.sublist_nil.mp hzs, List.length_nil]

/-- A first character that both texts have is worth taking. -/
theorem IsLongest.cons (h : IsLongest n xs ys) : IsLongest (n + 1) (c :: xs) (c :: ys) where
  reached := by
    obtain ⟨zs, hxs, hys, hlength⟩ := h.reached
    exact ⟨c :: zs, hxs.cons_cons c, hys.cons_cons c, by rw [List.length_cons, hlength]⟩
  bound zs hxs hys := by
    have htail : zs.tail.length ≤ n := h.bound zs.tail hxs.tail hys.tail
    rw [List.length_tail] at htail
    omega

/-- Of two different first characters at least one is left out. -/
theorem IsLongest.max (hne : c ≠ d) (hleft : IsLongest m xs (d :: ys)) (hright : IsLongest n (c :: xs) ys) :
    IsLongest (max m n) (c :: xs) (d :: ys) where
  reached := by
    rcases Nat.le_total m n with hle | hle
    · obtain ⟨zs, hxs, hys, hlength⟩ := hright.reached
      exact ⟨zs, hxs, hys.cons d, by omega⟩
    · obtain ⟨zs, hxs, hys, hlength⟩ := hleft.reached
      exact ⟨zs, hxs.cons c, hys, by omega⟩
  bound zs hxs hys := by
    cases hxs with
    | cons _ hxs => exact Nat.le_trans (hleft.bound zs hxs hys) (Nat.le_max_left m n)
    | cons_cons _ hzs =>
      cases hys with
      | cons _ hys => exact Nat.le_trans (hright.bound _ (hzs.cons_cons c) hys) (Nat.le_max_right m n)
      | cons_cons _ _ => exact absurd rfl hne

/-- The row holds the lengths for the first text against all ends of the second one. -/
inductive IsRow (xs : List Char) : List Char → List Nat → Prop
  | nil : IsRow xs [] [0]
  | cons {d : Char} {ys : List Char} {n : Nat} {row : List Nat} (longest : IsLongest n xs (d :: ys))
    (rest : IsRow xs ys row) : IsRow xs (d :: ys) (n :: row)

theorem IsRow.longest {row : List Nat} (h : IsRow xs ys row) : IsLongest (row.headD 0) xs ys := by
  cases h with
  | nil => exact .of_nil_right xs
  | cons longest => exact longest

theorem isRow_replicate (ys : List Char) : IsRow [] ys (List.replicate (ys.length + 1) 0) := by
  induction ys with
  | nil => exact .nil
  | cons d ys ih => exact .cons (.of_nil_left _) ih

theorem IsRow.nextRow {row : List Nat} (h : IsRow xs ys row) : IsRow (c :: xs) ys (nextRow c ys row) := by
  induction h with
  | nil => exact .nil
  | @cons d ys n row hlongest hrow ih =>
    refine .cons ?_ ih
    show IsLongest (if c = d then row.headD 0 + 1 else Nat.max n _) _ _
    split
    · next heq =>
      subst heq
      exact hrow.longest.cons
    · next hne => exact .max hne hlongest ih.longest

theorem isRow_rows (xs ys : List Char) : IsRow xs ys (rows xs ys) := by
  induction xs with
  | nil => exact isRow_replicate ys
  | cons c xs ih => exact ih.nextRow

theorem isLongest_common (xs ys : List Char) : IsLongest (common xs ys) xs ys := (isRow_rows xs ys).longest

theorem common_le_left (xs ys : List Char) : common xs ys ≤ xs.length := by
  obtain ⟨zs, hxs, -, hlength⟩ := (isLongest_common xs ys).reached
  have := hxs.length_le
  omega

theorem common_self (xs : List Char) : common xs xs = xs.length :=
  Nat.le_antisymm (common_le_left xs xs)
    ((isLongest_common xs xs).bound xs (List.Sublist.refl xs) (List.Sublist.refl xs))

/-! ## Percentages -/

theorem twoTo_pos (n : Nat) : 0 < Real64.twoTo n := Nat.pow_pos (by decide)

/-- Rounding does not go beyond a whole number. -/
theorem roundDiv_le {num den q : Nat} (hden : 0 < den) (h : num ≤ q * den) : Real64.roundDiv num den ≤ q := by
  have hsplit : den * (num / den) + num % den = num := Nat.div_add_mod num den
  have hrest : num % den < den := Nat.mod_lt num hden
  have hlow : num / den ≤ q := Nat.div_le_of_le_mul (by rwa [Nat.mul_comm])
  rw [Real64.roundDiv]
  rcases Nat.lt_or_eq_of_le hlow with hlt | heq
  · split
    · exact hlow
    · split
      · exact hlt
      · split
        · exact hlow
        · exact hlt
  · have hzero : num % den = 0 := by
      rw [heq, Nat.mul_comm] at hsplit
      omega
    rw [hzero, if_pos (by omega)]
    exact hlow

theorem nearest_le {num den q : Nat} (hden : 0 < den) (h : num ≤ q * den) :
    (nearest num den).1 ≤ q * Real64.twoTo (nearest num den).2 := by
  rw [nearest]
  split
  · exact Nat.zero_le _
  · refine roundDiv_le hden ?_
    rw [Nat.mul_right_comm]
    exact Nat.mul_le_mul_right _ h

/-- What is left of a share is a share again, and a hundred times a share is at most 100. -/
theorem percent_le (edits size : Nat) : percent edits size ≤ 100 := by
  rcases hedited : nearest edits size with ⟨edited, k⟩
  rcases hkept : nearest (Real64.twoTo k - edited) (Real64.twoTo k) with ⟨kept, l⟩
  rcases hscaled : nearest (100 * kept) (Real64.twoTo l) with ⟨scaled, m⟩
  have hshare : kept ≤ 1 * Real64.twoTo l := by
    have := nearest_le (twoTo_pos k) (show Real64.twoTo k - edited ≤ 1 * Real64.twoTo k by omega)
    rwa [hkept] at this
  have hhundred : scaled ≤ 100 * Real64.twoTo m := by
    have := nearest_le (twoTo_pos l) (show 100 * kept ≤ 100 * Real64.twoTo l by omega)
    rwa [hscaled] at this
  simp only [percent, hedited, hkept, hscaled]
  exact Nat.div_le_of_le_mul (by rwa [Nat.mul_comm])

/-- Nothing to edit is a likeness of 100, which no step rounds. -/
theorem percent_zero (size : Nat) : percent 0 size = 100 := by
  show percent 0 1 = 100
  decide +kernel

theorem likeness_le (xs ys : List Char) : likeness xs ys ≤ 100 := percent_le _ _

theorem likeness_self (xs : List Char) : likeness xs xs = 100 := by
  rw [likeness, common_self, ← Nat.two_mul, Nat.sub_self]
  exact percent_zero _

/-! ## Windows -/

theorem foldl_max_le {l : List Nat} (h : ∀ n ∈ l, n ≤ m) : l.foldl max 0 ≤ m := by
  rw [List.foldl_max]
  cases hmax : l.max? with
  | none => exact Nat.max_le.mpr ⟨Nat.zero_le m, Nat.zero_le m⟩
  | some n => exact Nat.max_le.mpr ⟨Nat.zero_le m, h n (List.max?_mem hmax)⟩

theorem bestWindow_le (short long : List Char) : bestWindow short long ≤ 100 := by
  refine foldl_max_le fun n hn => ?_
  obtain ⟨window, -, rfl⟩ := List.mem_map.mp hn
  exact likeness_le short window

theorem partialRatio_le (xs ys : List Char) : partialRatio xs ys ≤ 100 := by
  rw [partialRatio]
  split
  · exact Nat.le_refl 100
  · split
    · exact Nat.zero_le 100
    · split
      · exact bestWindow_le xs ys
      · split
        · exact bestWindow_le ys xs
        · exact Nat.max_le.mpr ⟨bestWindow_le xs ys, bestWindow_le ys xs⟩

theorem mem_windows_of_part (hne : xs ≠ []) (h : xs <:+: ys) : xs ∈ windows xs.length ys := by
  obtain ⟨front, back, rfl⟩ := h
  have hlength : 0 < xs.length := List.length_pos_iff.mpr hne
  refine List.mem_append_right _ (List.mem_map.mpr ⟨front.length, ?_, ?_⟩)
  · simp
    omega
  · simp

theorem bestWindow_of_part (hne : xs ≠ []) (h : xs <:+: ys) : bestWindow xs ys = 100 := by
  refine Nat.le_antisymm (bestWindow_le xs ys) ?_
  have := Screen.le_foldl_max_map (likeness xs) (mem_windows_of_part hne h)
  rwa [likeness_self] at this

/-- A part of a text is found in it as it stands. -/
theorem partialRatio_of_part (hne : xs ≠ []) (h : xs <:+: ys) : partialRatio xs ys = 100 := by
  have hlength : xs.length ≤ ys.length := h.length_le
  have hbest : bestWindow xs ys = 100 := bestWindow_of_part hne h
  have hys : ys ≠ [] := by
    rintro rfl
    exact hne (List.eq_nil_of_infix_nil h)
  rw [partialRatio, List.isEmpty_eq_false_iff.mpr hne, List.isEmpty_eq_false_iff.mpr hys]
  simp only [Bool.false_and, Bool.or_false, Bool.false_eq_true, if_false]
  split
  · exact hbest
  · rw [if_neg (by omega), hbest]
    exact Nat.max_eq_left (bestWindow_le ys xs)

end Similarity
end GitPractice
