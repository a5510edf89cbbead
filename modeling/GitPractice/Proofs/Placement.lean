import GitPractice.Proofs.Words
import GitPractice.Screen.Layout

/-!
# Texts in their places

A column is as wide as the widest of its texts, so none of them is broken or cut
there: each stands on one line and is filled up with spaces (`layOut_of_fits`).
A word, which has no blanks, stands there as it is (`layOut_of_no_blank`).
-/

namespace GitPractice

namespace Text

/-! ## Widths of parts -/

/-- Only what stands before a text can make a selector in it take a column. -/
theorem widthFrom_none_le (last : Option Char) (cs : List Char) :
    widthFrom none cs ≤ widthFrom last cs := by
  have hown (last : Option Char) (c : Char) :
      widthFrom.ownWidth none c ≤ widthFrom.ownWidth last c := by
    simp only [widthFrom.ownWidth]
    split <;> simp
  induction last, cs using widthFrom.induct with
  | case1 | case2 => simp [widthFrom]
  | case3 last c hc => simpa [widthFrom, hc] using hown last c
  | case4 last d cs ih => simpa [widthFrom] using ih
  | case5 last c d cs hc ih =>
    have hrest :
        widthFrom (if c = emojiSelector then none else if charWidth c = 0 then none else some c)
            (d :: cs) ≤
          widthFrom (if c = emojiSelector then none else if charWidth c = 0 then last else some c)
            (d :: cs) := by
      split
      · exact Nat.le_refl _
      · split
        · simpa [*] using ih
        · exact Nat.le_refl _
    rw [widthFrom, widthFrom, if_neg hc, if_neg hc]
    exact Nat.add_le_add (hown last c) hrest

/-- The first characters of a text are no wider than all of them. -/
theorem widthFrom_le_append (last : Option Char) (cs ds : List Char) :
    widthFrom last cs ≤ widthFrom last (cs ++ ds) := by
  induction last, cs using widthFrom.induct with
  | case1 | case2 => simp [widthFrom]
  | case3 last c hc => cases ds <;> simp [widthFrom, hc]
  | case4 last d cs ih => simpa [widthFrom] using ih
  | case5 last c d cs hc ih => simpa [widthFrom, hc] using ih

/-- A joiner at the end takes a character of what follows along; otherwise the widths add up. -/
theorem exists_widthFrom_append {cs : List Char} (h : cs.getLast? ≠ some joiner)
    (last : Option Char) :
    ∃ last', ∀ ds, widthFrom last (cs ++ ds) = widthFrom last cs + widthFrom last' ds := by
  induction last, cs using widthFrom.induct with
  | case1 last => exact ⟨last, fun ds => by simp [widthFrom]⟩
  | case2 last => exact absurd rfl h
  | case3 last c hc =>
    refine ⟨if c = emojiSelector then none else if charWidth c = 0 then last else some c,
      fun ds => ?_⟩
    cases ds <;> simp [widthFrom, hc]
  | case4 last d cs ih =>
    have hcs : cs.getLast? ≠ some joiner := by
      cases cs with
      | nil => simp
      | cons e es => simpa [List.getLast?_cons_cons] using h
    obtain ⟨last', hlast'⟩ := ih hcs
    exact ⟨last', fun ds => by simpa [widthFrom] using hlast' ds⟩
  | case5 last c d cs hc ih =>
    obtain ⟨last', hlast'⟩ := ih (by simpa [List.getLast?_cons_cons] using h)
    refine ⟨last', fun ds => ?_⟩
    have hds := hlast' ds
    rw [List.cons_append] at hds
    rw [List.cons_append, List.cons_append, widthFrom, widthFrom, if_neg hc, if_neg hc, hds,
      Nat.add_assoc]

theorem width_add_le {cs : List Char} (h : cs.getLast? ≠ some joiner) (ds : List Char) :
    width cs + width ds ≤ width (cs ++ ds) := by
  obtain ⟨last', hlast'⟩ := exists_widthFrom_append h none
  rw [width, width, width, hlast']
  exact Nat.add_le_add_left (widthFrom_none_le last' ds) _

theorem widthFrom_spaces (last : Option Char) (n : Nat) : widthFrom last (spaces n) = n := by
  have hspace : ' ' ≠ joiner := by decide
  have hown (last : Option Char) : widthFrom.ownWidth last ' ' = 1 := by
    rw [widthFrom.ownWidth, if_neg (by decide)]
    decide
  induction n generalizing last with
  | zero => rfl
  | succ n ih =>
    cases n with
    | zero => exact hown last
    | succ n =>
      rw [spaces, List.replicate_succ, List.replicate_succ, widthFrom, if_neg hspace, hown,
        ← List.replicate_succ, ← spaces, ih, Nat.add_comm]

theorem width_append_spaces {cs : List Char} (h : cs.getLast? ≠ some joiner) (n : Nat) :
    width (cs ++ spaces n) = width cs + n := by
  obtain ⟨last', hlast'⟩ := exists_widthFrom_append h none
  rw [width, width, hlast', widthFrom_spaces]

theorem dropEndWhile_prefix (p : Char → Bool) (cs : List Char) : dropEndWhile p cs <+: cs := by
  rw [dropEndWhile_eq_rdropWhile]
  exact List.rdropWhile_prefix p cs

end Text

namespace Screen

/-- A line that fits is not broken. `word` is the word read so far, which ends in a blank when the
next one may begin. -/
theorem breaks_of_fits (overflow : Overflow) {width : Nat} {word cs : List Char} {seen inBlanks : Bool} {column : Nat}
    (hblank : inBlanks = true → ∃ b bs, word = b :: bs ∧ Text.isBlank b = true)
    (hfits : column + Text.width (word.reverse ++ cs) ≤ width) (place : Nat) :
    breaks overflow width column place (wordsWithBlanks word seen inBlanks cs) = [] := by
  have hsolid (word cs : List Char) :
      Text.width (Text.dropEndWhile Text.isBlank word) ≤ Text.width (word ++ cs) := by
    obtain ⟨blanks, hblanks⟩ := Text.dropEndWhile_prefix Text.isBlank word
    calc Text.width (Text.dropEndWhile Text.isBlank word)
        ≤ Text.width (Text.dropEndWhile Text.isBlank word ++ (blanks ++ cs)) :=
          Text.widthFrom_le_append none _ _
      _ = Text.width (word ++ cs) := by rw [← List.append_assoc, hblanks]
  induction cs generalizing word seen inBlanks column place with
  | nil =>
    have hword := hsolid word.reverse []
    rw [wordsWithBlanks]
    split
    · rw [breaks, if_pos (by omega)]
      rfl
    · rfl
  | cons c cs ih =>
    have hsplit : word.reverse ++ c :: cs = (c :: word).reverse ++ cs := by simp
    rw [wordsWithBlanks]
    split
    · next hc =>
      rw [hsplit] at hfits
      exact ih (fun _ => ⟨c, word, rfl, hc⟩) hfits place
    · split
      · next hin =>
        obtain ⟨b, bs, rfl, hb⟩ := hblank hin
        have hend : (b :: bs).reverse.getLast? ≠ some Text.joiner := by
          rw [List.getLast?_reverse, List.head?_cons]
          rintro ⟨⟩
          revert hb
          decide
        have hword := hsolid (b :: bs).reverse (c :: cs)
        have hrest := Text.width_add_le hend (c :: cs)
        rw [breaks, if_pos (by omega)]
        refine ih (fun h => by cases h) ?_ _
        change _ + Text.width (c :: cs) ≤ _
        omega
      · rw [hsplit] at hfits
        exact ih (fun h => by cases h) hfits place

namespace Styled

variable {s : Styled} {width : Nat}

theorem wrap_of_fits (overflow : Overflow) (h : Text.width s.text ≤ width) :
    s.wrap overflow width = [s] := by
  rw [wrap, breaks_of_fits overflow (fun h => by cases h) (by simpa using h)]
  rfl

theorem width_trimExcess_le (s : Styled) (width : Nat) :
    Text.width (s.trimExcess width).text ≤ Text.width s.text := by
  have h := Text.widthFrom_le_append none (s.text.take (s.text.length - excess width s.text))
    (s.text.drop (s.text.length - excess width s.text))
  rwa [List.take_append_drop] at h

theorem placesBehind_of_not_mem {c : Char} {cs : List Char} (h : c ∉ cs) :
    placesBehind c cs = [] := by
  rw [placesBehind, List.map_eq_nil_iff, List.filter_eq_nil_iff]
  rintro ⟨d, i⟩ hmem
  have hd : d ∈ cs := List.fst_mem_of_mem_zipIdx hmem
  simpa using fun he : d = c => h (he ▸ hd)

theorem layOut_of_fits (overflow : Overflow) (hbreak : '\n' ∉ s.text) (htab : '\t' ∉ s.text)
    (h : Text.width s.text ≤ width) :
    s.layOut overflow width false = [(s.trimExcess width).padRight width] := by
  have hlines : s.lines = [s] := by
    rw [lines, placesBehind_of_not_mem hbreak]
    rfl
  have htabs : s.expandTabs = s := by
    rw [expandTabs, if_neg (by simpa using htab)]
  have htrim := Nat.le_trans (width_trimExcess_le s width) h
  rw [layOut, flow, hlines, List.flatMap_singleton, htabs, wrap_of_fits overflow h, List.map_singleton,
    List.map_singleton, if_neg Bool.false_ne_true, alignLeft, if_neg (Nat.not_lt.mpr htrim)]

theorem excess_of_last {cs : List Char} (h : cs.getLast?.any Text.isBlank = false) (width : Nat) :
    excess width cs = 0 := by
  have hend : Text.dropEndWhile Text.isBlank cs = cs := by
    rw [Text.dropEndWhile_eq_rdropWhile, List.rdropWhile_eq_self_iff]
    intro hne
    rw [List.getLast?_eq_some_getLast hne, Option.any_some] at h
    simp [h]
  rw [excess, hend, Nat.sub_self, Nat.zero_min]

theorem trimExcess_eq_self (h : excess width s.text = 0) : s.trimExcess width = s := by
  rw [trimExcess, h, Nat.sub_zero, List.take_length, replace, if_neg (Nat.lt_irrefl _)]

theorem measure_of_no_break {cs : List Char} (h : ∀ c ∈ cs, isMeasureBreak c = false) :
    measure cs = Text.width cs := by
  have hlines : splitAtBreaks isMeasureBreak cs = [cs] := by
    induction cs with
    | nil => rfl
    | cons c cs ih =>
      obtain ⟨hc, hcs⟩ := List.forall_mem_cons.mp h
      rw [splitAtBreaks, hc, ih hcs]
      rfl
  rw [measure, hlines, List.map_singleton, List.foldl_cons, List.foldl_nil, Nat.zero_max]

/-! ## Words -/

theorem not_mem_of_no_blank {cs : List Char} (h : ∀ c ∈ cs, Text.isBlank c = false) {b : Char}
    (hb : Text.isBlank b = true) : b ∉ cs := by
  intro hmem
  rw [h b hmem] at hb
  cases hb

theorem layOut_of_no_blank (overflow : Overflow) (h : ∀ c ∈ s.text, Text.isBlank c = false)
    (hwidth : Text.width s.text ≤ width) : s.layOut overflow width false = [s.padRight width] := by
  have hlast : s.text.getLast?.any Text.isBlank = false := by
    cases hlast : s.text.getLast? with
    | none => rfl
    | some c => exact h c (List.mem_of_getLast? hlast)
  rw [layOut_of_fits overflow (not_mem_of_no_blank h (by decide)) (not_mem_of_no_blank h (by decide)) hwidth,
    trimExcess_eq_self (excess_of_last hlast width)]

theorem isBlank_of_isMeasureBreak {c : Char} (h : isMeasureBreak c = true) :
    Text.isBlank c = true := by
  by_cases hc : c = '\n'
  · rw [hc]
    decide
  · simp [isMeasureBreak, hc] at h
    simp [Text.isBlank]
    omega

theorem measure_of_no_blank {cs : List Char} (h : ∀ c ∈ cs, Text.isBlank c = false) :
    measure cs = Text.width cs := by
  refine measure_of_no_break fun c hc => ?_
  cases hbreak : isMeasureBreak c with
  | false => rfl
  | true => exact absurd hc (not_mem_of_no_blank h (isBlank_of_isMeasureBreak hbreak))

end Styled
end Screen
end GitPractice
