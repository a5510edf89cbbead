import GitPractice.Text.Blank
import Mathlib.Data.List.DropRight

/-!
# Words and blanks

Splitting a line at blanks forgets the blanks. What is left is a list of words,
each of them a word again when it is split alone, and the blanks around a line
are not seen at all: `words_strip` is why a line may be logged stripped and
still mean the same.

`words_append_space` is the one law that splits a line whose beginning is
fixed. Everything about the commands that follow a known word goes through it.
-/

namespace GitPractice
namespace Text

/-- A text that is one word: not empty, and without a blank. -/
def IsWord (s : String) : Prop := s ≠ "" ∧ ∀ c ∈ s.toList, isBlank c = false

instance (s : String) : Decidable (IsWord s) :=
  decidable_of_iff (s ≠ "" ∧ s.toList.all (!isBlank ·) = true) (by simp [IsWord])

/-! ## Splitting -/

/-- What `extendFirst` leaves behind the first word are the words it found there. -/
theorem extendFirst_append {c : Char} {vs : List (List Char)} (hvs : vs ≠ [])
    (ws : List (List Char)) : extendFirst c (vs ++ ws) = extendFirst c vs ++ ws := by
  cases vs with
  | nil => exact absurd rfl hvs
  | cons v vs => rfl

theorem splitWords_ne_nil {cs : List Char} (h : continuesWord cs = true) :
    splitWords cs ≠ [] := by
  cases cs with
  | nil => simp [continuesWord] at h
  | cons c cs =>
    have hc : isBlank c = false := by simpa [continuesWord] using h
    rw [splitWords, hc]
    simp only [Bool.false_eq_true, if_false]
    split
    · cases splitWords cs <;> simp [extendFirst]
    · simp

/-- A blank ends the word before it. -/
theorem splitWords_append_blank {b : Char} (hb : isBlank b = true) (xs ys : List Char) :
    splitWords (xs ++ b :: ys) = splitWords xs ++ splitWords ys := by
  induction xs with
  | nil => exact splitWords_of_blank ys hb
  | cons x xs ih =>
    rw [List.cons_append, splitWords, splitWords, ih]
    by_cases hx : isBlank x = true
    · rw [if_pos hx, if_pos hx]
    · rw [if_neg hx, if_neg hx]
      have hc : continuesWord (xs ++ b :: ys) = continuesWord xs := by
        cases xs with
        | nil => simp [continuesWord, hb]
        | cons y xs => rfl
      rw [hc]
      by_cases hn : continuesWord xs = true
      · rw [if_pos hn, if_pos hn, extendFirst_append (splitWords_ne_nil hn)]
      · rw [if_neg hn, if_neg hn, List.cons_append]

/-- A run of characters without a blank is one word. -/
theorem splitWords_singleton {w : List Char} (hne : w ≠ []) (h : ∀ c ∈ w, isBlank c = false) :
    splitWords w = [w] := by
  induction w with
  | nil => exact absurd rfl hne
  | cons c w ih =>
    have hc : isBlank c = false := h c List.mem_cons_self
    rw [splitWords, hc]
    simp only [Bool.false_eq_true, if_false]
    cases w with
    | nil => rfl
    | cons d w =>
      have hd : isBlank d = false := h d (by simp)
      rw [ih (by simp) (fun x hx => h x (List.mem_cons_of_mem c hx))]
      simp [continuesWord, hd, extendFirst]

theorem splitWords_of_all_blank {cs : List Char} (h : ∀ c ∈ cs, isBlank c = true) :
    splitWords cs = [] := by
  induction cs with
  | nil => rfl
  | cons c cs ih =>
    rw [splitWords_of_blank cs (h c List.mem_cons_self)]
    exact ih fun x hx => h x (List.mem_cons_of_mem c hx)

/-- A line has a word as soon as one of its characters is no blank. -/
theorem splitWords_ne_nil_of_mem {cs : List Char} {c : Char} (hm : c ∈ cs)
    (hc : isBlank c = false) : splitWords cs ≠ [] := by
  induction cs with
  | nil => simp at hm
  | cons d cs ih =>
    by_cases hd : isBlank d = true
    · rw [splitWords_of_blank cs hd]
      rcases List.mem_cons.mp hm with rfl | hm
      · rw [hc] at hd
        exact absurd hd Bool.false_ne_true
      · exact ih hm
    · exact splitWords_ne_nil (by simpa [continuesWord] using hd)

/-- The characters of the words are characters of the line, and none is a blank. -/
theorem mem_of_mem_splitWords {cs w : List Char} {c : Char} (hw : w ∈ splitWords cs)
    (hc : c ∈ w) : c ∈ cs ∧ isBlank c = false := by
  induction cs generalizing w with
  | nil => simp [splitWords] at hw
  | cons d cs ih =>
    have later {w : List Char} (hw : w ∈ splitWords cs) (hc : c ∈ w) :
        c ∈ d :: cs ∧ isBlank c = false :=
      ⟨List.mem_cons_of_mem d (ih hw hc).1, (ih hw hc).2⟩
    rw [splitWords] at hw
    by_cases hd : isBlank d = true
    · rw [if_pos hd] at hw
      exact later hw hc
    · have here : d ∈ d :: cs ∧ isBlank d = false := ⟨List.mem_cons_self, by simpa using hd⟩
      rw [if_neg hd] at hw
      split at hw
      · cases hs : splitWords cs with
        | nil =>
          rw [hs, extendFirst, List.mem_singleton] at hw
          subst hw
          rw [List.mem_singleton.mp hc]
          exact here
        | cons v vs =>
          rw [hs, extendFirst, List.mem_cons] at hw
          rcases hw with rfl | hw
          · rcases List.mem_cons.mp hc with rfl | hc
            · exact here
            · exact later (by rw [hs]; exact List.mem_cons_self) hc
          · exact later (by rw [hs]; exact List.mem_cons_of_mem v hw) hc
      · rcases List.mem_cons.mp hw with rfl | hw
        · rw [List.mem_singleton.mp hc]
          exact here
        · exact later hw hc

theorem ne_nil_of_mem_splitWords {cs w : List Char} (hw : w ∈ splitWords cs) : w ≠ [] := by
  induction cs generalizing w with
  | nil => simp [splitWords] at hw
  | cons d cs ih =>
    rw [splitWords] at hw
    split at hw
    · exact ih hw
    · split at hw
      · cases hs : splitWords cs with
        | nil =>
          rw [hs, extendFirst, List.mem_singleton] at hw
          simp [hw]
        | cons v vs =>
          rw [hs, extendFirst, List.mem_cons] at hw
          rcases hw with rfl | hw
          · simp
          · exact ih (by rw [hs]; exact List.mem_cons_of_mem v hw)
      · rcases List.mem_cons.mp hw with rfl | hw
        · simp
        · exact ih hw

/-! ## Words of a line -/

theorem isWord_of_mem_words {line w : String} (hw : w ∈ words line) : IsWord w := by
  obtain ⟨cs, hcs, rfl⟩ := List.mem_map.mp hw
  refine ⟨fun h => ne_nil_of_mem_splitWords hcs (String.ofList_eq_empty_iff.mp h), ?_⟩
  intro c hc
  rw [String.toList_ofList] at hc
  exact (mem_of_mem_splitWords hcs hc).2

theorem words_of_isWord {w : String} (hw : IsWord w) : words w = [w] := by
  rw [words, splitWords_singleton (fun h => hw.1 (String.toList_eq_nil_iff.mp h)) hw.2]
  simp [String.ofList_toList]

theorem words_append_space (a b : String) : words (a ++ " " ++ b) = words a ++ words b := by
  have hsplit : (a ++ " " ++ b).toList = a.toList ++ ' ' :: b.toList := by
    simp [String.toList_append]
  rw [words, hsplit, splitWords_append_blank (by decide), List.map_append]
  rfl

theorem words_ne_nil_of_mem {s : String} {c : Char} (hm : c ∈ s.toList)
    (hc : isBlank c = false) : words s ≠ [] := by
  rw [words, ne_eq, List.map_eq_nil_iff]
  exact splitWords_ne_nil_of_mem hm hc

theorem mem_of_mem_words {s w : String} {c : Char} (hw : w ∈ words s) (hc : c ∈ w.toList) :
    c ∈ s.toList := by
  obtain ⟨cs, hcs, rfl⟩ := List.mem_map.mp hw
  rw [String.toList_ofList] at hc
  exact (mem_of_mem_splitWords hcs hc).1

/-! ## Blanks at the ends -/

theorem dropEndWhile_eq_rdropWhile (p : Char → Bool) (cs : List Char) :
    dropEndWhile p cs = cs.rdropWhile p := rfl

/-- A text that neither begins nor ends with a blank is left alone. -/
theorem stripChars_eq_self {cs : List Char} (hfirst : ∀ c ∈ cs.head?, isBlank c = false)
    (hlast : ∀ c ∈ cs.getLast?, isBlank c = false) : stripChars cs = cs := by
  have hdrop : cs.dropWhile isBlank = cs := by
    cases cs with
    | nil => rfl
    | cons c cs =>
      rw [List.dropWhile_cons_of_neg]
      rw [hfirst c rfl]
      exact Bool.false_ne_true
  rw [stripChars, hdrop, dropEndWhile_eq_rdropWhile, List.rdropWhile_eq_self_iff]
  intro hne
  rw [hlast _ (List.getLast?_eq_some_getLast hne)]
  exact Bool.false_ne_true

theorem stripChars_subset (cs : List Char) : stripChars cs ⊆ cs := by
  have hfront : stripChars cs <+: cs.dropWhile isBlank := List.rdropWhile_prefix _ _
  have hback : cs.dropWhile isBlank <:+ cs := List.dropWhile_suffix _
  exact List.Subset.trans hfront.subset hback.subset

theorem getLast?_stripChars {cs : List Char} : ∀ c ∈ (stripChars cs).getLast?,
    isBlank c = false := by
  intro c hc
  obtain ⟨hne, rfl⟩ := List.mem_getLast?_eq_getLast hc
  rw [Bool.eq_false_iff]
  exact List.rdropWhile_last_not _ _ hne

/-- Dropping blanks at the end keeps the first character. -/
theorem head?_stripChars {cs : List Char} : ∀ c ∈ (stripChars cs).head?,
    isBlank c = false := by
  intro c hc
  have hprefix : stripChars cs <+: cs.dropWhile isBlank := List.rdropWhile_prefix _ _
  have hhead : (cs.dropWhile isBlank).head? = some c := by
    obtain ⟨rest, hrest⟩ := hprefix
    rw [← hrest, List.head?_append, hc]
    rfl
  have := List.head?_dropWhile_not isBlank cs
  rw [hhead] at this
  simpa using this

theorem strip_strip (s : String) : strip (strip s) = strip s := by
  rw [strip, strip, String.toList_ofList,
    stripChars_eq_self head?_stripChars getLast?_stripChars]

theorem splitWords_dropWhile (cs : List Char) :
    splitWords (cs.dropWhile isBlank) = splitWords cs := by
  induction cs with
  | nil => rfl
  | cons c cs ih =>
    by_cases hc : isBlank c = true
    · rw [List.dropWhile_cons_of_pos hc, splitWords_of_blank cs hc, ih]
    · rw [List.dropWhile_cons_of_neg hc]

theorem splitWords_dropEndWhile (cs : List Char) :
    splitWords (dropEndWhile isBlank cs) = splitWords cs := by
  rw [dropEndWhile_eq_rdropWhile]
  conv_rhs => rw [← List.rdropWhile_append_rtakeWhile (p := isBlank) (l := cs)]
  have hblank : ∀ c ∈ cs.rtakeWhile isBlank, isBlank c = true :=
    fun c hc => List.mem_rtakeWhile_imp hc
  cases ht : cs.rtakeWhile isBlank with
  | nil => rw [List.append_nil]
  | cons b bs =>
    rw [ht] at hblank
    rw [splitWords_append_blank (hblank b List.mem_cons_self),
      splitWords_of_all_blank fun c hc => hblank c (List.mem_cons_of_mem b hc), List.append_nil]

/-- The blanks around a line are no part of its words. -/
theorem words_strip (line : String) : words (strip line) = words line := by
  rw [words, strip, String.toList_ofList, stripChars, splitWords_dropEndWhile,
    splitWords_dropWhile]
  rfl

/-- Nothing but blanks is left exactly of a line without a word. -/
theorem strip_eq_empty_iff (line : String) : strip line = "" ↔ words line = [] := by
  constructor
  · intro h
    rw [← words_strip, h]
    rfl
  · intro h
    by_contra hne
    have hchars : stripChars line.toList ≠ [] := fun e => hne (by rw [strip, e])
    obtain ⟨c, cs, hcs⟩ := List.exists_cons_of_ne_nil hchars
    have hblank : isBlank c = false := @head?_stripChars line.toList c (by rw [hcs]; rfl)
    have hmem : c ∈ (strip line).toList := by
      rw [strip, String.toList_ofList, hcs]
      exact List.mem_cons_self
    exact words_ne_nil_of_mem hmem hblank (by rw [words_strip, h])

/-! ## Words joined by single spaces -/

theorem join_cons_cons (sep v w : String) (ws : List String) :
    join sep (v :: w :: ws) = v ++ sep ++ join sep (w :: ws) := rfl

/-- A joined text is made of the texts and of what stands between them. -/
theorem mem_join {sep : String} {ws : List String} {c : Char}
    (hc : c ∈ (join sep ws).toList) : c ∈ sep.toList ∨ ∃ w ∈ ws, c ∈ w.toList := by
  induction ws with
  | nil => simp [join] at hc
  | cons v ws ih =>
    cases ws with
    | nil => exact Or.inr ⟨v, List.mem_cons_self, hc⟩
    | cons w ws =>
      rw [join_cons_cons, String.toList_append, String.toList_append, List.mem_append,
        List.mem_append] at hc
      rcases hc with (hc | hc) | hc
      · exact Or.inr ⟨v, List.mem_cons_self, hc⟩
      · exact Or.inl hc
      · rcases ih hc with hs | ⟨u, hu, hcu⟩
        · exact Or.inl hs
        · exact Or.inr ⟨u, List.mem_cons_of_mem v hu, hcu⟩

theorem join_ne_empty {w : String} (hw : IsWord w) (ws : List String) :
    join " " (w :: ws) ≠ "" := by
  intro h
  have hnil : (join " " (w :: ws)).toList = [] := String.toList_eq_nil_iff.mpr h
  cases ws with
  | nil => exact hw.1 h
  | cons v ws =>
    rw [join_cons_cons, String.toList_append, String.toList_append] at hnil
    simp at hnil

theorem head?_join {ws : List String} (h : ∀ w ∈ ws, IsWord w) :
    ∀ c ∈ (join " " ws).toList.head?, isBlank c = false := by
  intro c hc
  cases ws with
  | nil => simp [join] at hc
  | cons w ws =>
    have hw : IsWord w := h w List.mem_cons_self
    have hne : w.toList ≠ [] := fun e => hw.1 (String.toList_eq_nil_iff.mp e)
    have hfirst : w.toList.head? = some c := by
      cases ws with
      | nil => exact hc
      | cons v ws =>
        rw [join_cons_cons, String.toList_append, String.toList_append, List.append_assoc,
          List.head?_append_of_ne_nil _ hne] at hc
        exact hc
    exact hw.2 c (List.mem_of_mem_head? hfirst)

theorem getLast?_join {ws : List String} (h : ∀ w ∈ ws, IsWord w) :
    ∀ c ∈ (join " " ws).toList.getLast?, isBlank c = false := by
  induction ws with
  | nil => intro c hc; simp [join] at hc
  | cons v ws ih =>
    intro c hc
    cases ws with
    | nil => exact (h v List.mem_cons_self).2 c (List.mem_of_getLast? hc)
    | cons w ws =>
      have htail : ∀ u ∈ w :: ws, IsWord u := fun u hu => h u (List.mem_cons_of_mem v hu)
      have hne : (join " " (w :: ws)).toList ≠ [] := fun e =>
        join_ne_empty (htail w List.mem_cons_self) ws (String.toList_eq_nil_iff.mp e)
      rw [join_cons_cons, String.toList_append, List.getLast?_append_of_ne_nil _ hne] at hc
      exact ih htail c hc

/-- Words joined by single spaces have no blank at either end. -/
theorem strip_join {ws : List String} (h : ∀ w ∈ ws, IsWord w) :
    strip (join " " ws) = join " " ws := by
  rw [strip, stripChars_eq_self (head?_join h) (getLast?_join h), String.ofList_toList]

/-! ## Splitting at one character -/

/-- A function that goes from character to character and splits at one of them is the library's. -/
theorem eq_splitOn {sep : Char} {split : List Char → List (List Char)} (hnil : split [] = [[]])
    (hcons : ∀ c cs, split (c :: cs) =
      if c = sep then [] :: split cs
      else
        match split cs with
        | part :: parts => (c :: part) :: parts
        | [] => [[c]]) (cs : List Char) :
    split cs = cs.splitOn sep := by
  induction cs with
  | nil => exact hnil
  | cons c cs ih =>
    rw [hcons, ih, List.splitOn_cons_eq_if_modifyHead]
    by_cases hc : c = sep
    · rw [if_pos hc, if_pos (by simpa using hc)]
    · rw [if_neg hc, if_neg (by simpa using hc)]
      cases hs : cs.splitOn sep with
      | nil => exact absurd hs (List.splitOn_ne_nil _ _)
      | cons part parts => rfl

end Text
end GitPractice
