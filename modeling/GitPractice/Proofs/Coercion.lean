import GitPractice.Proofs.Words
import GitPractice.Settings.Layer

/-!
# Variables that look like numbers

A variable is taken for a number if it is made of digits, and digits are more than
what numbers are written in: a raised two counts as one and no number is written
with it. So there are texts that look like a number and are none that is read, and
these are the only ones that cannot be used (`Settings.coerce_fails_iff`).
-/

namespace GitPractice

namespace Text

/-- Where the digits lie, those of numbers and all others. -/
def digitRanges : List (Nat × Nat) :=
  decimalZeros.map (fun start => (start, start + 9)) ++ otherDigitRanges

theorem exists_range_of_inRanges {ranges : List (Nat × Nat)} {n : Nat} (h : inRanges ranges n = true) :
    ∃ range ∈ ranges, range.1 ≤ n ∧ n ≤ range.2 := by
  induction ranges with
  | nil => cases h
  | cons range ranges ih =>
    rw [inRanges] at h
    split at h
    next hhigh => exact ⟨range, List.mem_cons_self, of_decide_eq_true h, hhigh⟩
    next =>
      obtain ⟨other, hmem, hbounds⟩ := ih h
      exact ⟨other, List.mem_cons_of_mem _ hmem, hbounds⟩

theorem exists_range_of_isDigit {c : Char} (h : isDigit c = true) :
    ∃ range ∈ digitRanges, range.1 ≤ c.toNat ∧ c.toNat ≤ range.2 := by
  rw [isDigit, Bool.or_eq_true, decimalValue?, Option.isSome_map] at h
  rcases h with hdecimal | hother
  · obtain ⟨start, hfound⟩ := Option.isSome_iff_exists.mp hdecimal
    have hmem : start ∈ decimalZeros := List.mem_of_find?_eq_some hfound
    have hbounds := List.find?_some hfound
    simp only [Bool.and_eq_true, decide_eq_true_eq] at hbounds
    exact ⟨_, List.mem_append_left _ (List.mem_map_of_mem hmem), hbounds.1, by omega⟩
  · obtain ⟨range, hmem, hbounds⟩ := exists_range_of_inRanges hother
    exact ⟨range, List.mem_append_right _ hmem, hbounds⟩

theorem isBlank_of_isDigit {c : Char} (h : isDigit c = true) : isBlank c = false := by
  obtain ⟨range, hmem, hlow, hhigh⟩ := exists_range_of_isDigit h
  have hapart : ∀ range ∈ digitRanges, ∀ blank ∈ [(9, 13), (28, 32), (0x85, 0x85), (0xa0, 0xa0),
      (0x1680, 0x1680), (0x2000, 0x200a), (0x2028, 0x2029), (0x202f, 0x202f), (0x205f, 0x205f),
      (0x3000, 0x3000)], range.2 < blank.1 ∨ blank.2 < range.1 := by decide +kernel
  have h := hapart range hmem
  simp only [List.forall_mem_cons] at h
  rw [← Bool.not_eq_true, isBlank]
  simp only [Bool.or_eq_true, Bool.and_eq_true, decide_eq_true_eq, beq_iff_eq]
  omega

theorem lowerCode_of_apart {runs : List CaseRun} {n : Nat}
    (h : ∀ run ∈ runs, n < run.first ∨ run.last < n) : lowerCode runs n = n := by
  induction runs with
  | nil => rfl
  | cons run runs ih =>
    obtain ⟨hrun, hruns⟩ := List.forall_mem_cons.mp h
    rw [lowerCode]
    split
    · exact if_neg (by omega)
    · exact ih hruns

theorem lowerChar_of_isDigit {c : Char} (h : isDigit c = true) (before after : List Char) :
    lowerChar before c after = [c] := by
  obtain ⟨range, hmem, hlow, hhigh⟩ := exists_range_of_isDigit h
  have hapart : (caseRuns.all fun run => digitRanges.all fun range =>
      Nat.blt range.2 run.first || Nat.blt run.last range.1) = true := by decide +kernel
  have hcode : lowerCode caseRuns c.toNat = c.toNat := by
    refine lowerCode_of_apart fun run hrun => ?_
    have hrange := List.all_eq_true.mp (List.all_eq_true.mp hapart run hrun) range hmem
    rw [Bool.or_eq_true, Nat.blt_eq, Nat.blt_eq] at hrange
    omega
  have hsigma : c ≠ capitalSigma := by
    rintro rfl
    exact absurd h (by decide +kernel)
  have hdotted : c ≠ 'İ' := by
    rintro rfl
    exact absurd h (by decide +kernel)
  rw [lowerChar, if_neg hsigma, if_neg hdotted, hcode, Char.ofNat_toNat]

/-! ## Reading digits -/

/-- Digits of numbers are read, however many there are. -/
theorem readGrouped_of_decimal {cs : List Char} (h : ∀ c ∈ cs, (decimalValue? c).isSome = true)
    (value count : Nat) (afterDigit : Bool) (hne : afterDigit = true ∨ cs ≠ []) :
    ∃ n, readGrouped value count afterDigit cs = some (n, count + cs.length) := by
  induction cs generalizing value count afterDigit with
  | nil =>
    obtain rfl : afterDigit = true := hne.resolve_right fun hnil => hnil rfl
    exact ⟨value, rfl⟩
  | cons c cs ih =>
    obtain ⟨hc, hcs⟩ := List.forall_mem_cons.mp h
    obtain ⟨d, hd⟩ := Option.isSome_iff_exists.mp hc
    have hunderscore : c ≠ '_' := by
      rintro rfl
      exact absurd hc (by decide +kernel)
    obtain ⟨n, hn⟩ := ih hcs (10 * value + d) (count + 1) true (Or.inl rfl)
    refine ⟨n, ?_⟩
    rw [readGrouped, if_neg hunderscore, hd, List.length_cons, Nat.add_comm cs.length, ← Nat.add_assoc]
    exact hn

/-- One other digit spoils them. -/
theorem readGrouped_of_other {cs : List Char} (h : ∀ c ∈ cs, isDigit c = true)
    (hother : ∃ c ∈ cs, decimalValue? c = none) (value count : Nat) (afterDigit : Bool) :
    readGrouped value count afterDigit cs = none := by
  induction cs generalizing value count afterDigit with
  | nil =>
    obtain ⟨c, hc, -⟩ := hother
    cases hc
  | cons c cs ih =>
    obtain ⟨hc, hcs⟩ := List.forall_mem_cons.mp h
    have hunderscore : c ≠ '_' := by
      rintro rfl
      exact absurd hc (by decide +kernel)
    rw [readGrouped, if_neg hunderscore]
    cases hd : decimalValue? c with
    | none => rfl
    | some d =>
      obtain ⟨other, hmem, hnone⟩ := hother
      have hmem : other ∈ cs := by
        refine (List.mem_cons.mp hmem).resolve_left ?_
        rintro rfl
        rw [hd] at hnone
        cases hnone
      exact ih hcs ⟨other, hmem, hnone⟩ _ _ _

/-- Digits have neither a sign nor blanks around them. -/
theorem readInteger_of_digits {text : String} (h : ∀ c ∈ text.toList, isDigit c = true) :
    readInteger text = checkLength false (readGrouped 0 0 false text.toList) := by
  have hstrip : stripChars text.toList = text.toList := by
    refine stripChars_eq_self (fun c hc => ?_) (fun c hc => ?_)
    · exact isBlank_of_isDigit (h c (List.mem_of_head? hc))
    · exact isBlank_of_isDigit (h c (List.mem_of_getLast? hc))
  rw [readInteger, hstrip]
  split
  next heq =>
    rw [heq] at h
    exact absurd (h '-' List.mem_cons_self) (by decide +kernel)
  next heq =>
    rw [heq] at h
    exact absurd (h '+' List.mem_cons_self) (by decide +kernel)
  next => rfl

end Text

namespace Settings

/-- The text looks like a number and is none that is read: one of its digits is not a digit of numbers,
or there are too many of them. -/
def IsNoNumber (text : String) : Prop :=
  text ≠ "" ∧ (∀ c ∈ text.toList, Text.isDigit c = true) ∧
    ((∃ c ∈ text.toList, Text.decimalValue? c = none) ∨ Text.maxIntegerDigits < text.length)

theorem readDigitText_fails_iff {text : String} (hne : text ≠ "")
    (h : ∀ c ∈ text.toList, Text.isDigit c = true) :
    (∃ fault, readDigitText text = .error fault) ↔ IsNoNumber text := by
  have hcs : text.toList ≠ [] := by simpa using hne
  rw [readDigitText, Text.readInteger_of_digits h, IsNoNumber]
  by_cases hdecimal : ∀ c ∈ text.toList, (Text.decimalValue? c).isSome = true
  · -- Only the number of digits is left to look at.
    have hall : text.toList.takeWhile (fun c => (Text.decimalValue? c).isSome) = text.toList :=
      List.takeWhile_eq_self_iff.mpr hdecimal
    have hnone : ¬ ∃ c ∈ text.toList, Text.decimalValue? c = none := by
      rintro ⟨c, hc, hnone⟩
      have hsome := hdecimal c hc
      rw [hnone] at hsome
      cases hsome
    obtain ⟨n, hn⟩ := Text.readGrouped_of_decimal hdecimal 0 0 false (Or.inr hcs)
    simp only [hall, hn, Text.checkLength, Nat.zero_add, String.length_toList]
    by_cases hlong : Text.maxIntegerDigits < text.length
    · rw [if_pos hlong]
      exact iff_of_true ⟨_, rfl⟩ ⟨hne, h, Or.inr hlong⟩
    · rw [if_neg hlong, if_neg hlong]
      refine iff_of_false ?_ fun hno => (hno.2.2.elim hnone hlong)
      rintro ⟨fault, hfault⟩
      cases hfault
  · have hother : ∃ c ∈ text.toList, Text.decimalValue? c = none := by
      simpa using hdecimal
    have hnone := Text.readGrouped_of_other h hother 0 0 false
    refine iff_of_true ?_ ⟨hne, h, Or.inl hother⟩
    simp only [hnone, Text.checkLength]
    split
    · exact ⟨_, rfl⟩
    · exact ⟨_, rfl⟩

/-- A text of digits is no word for true or false. -/
theorem lower_not_mem_of_digits {text : String} (hne : text ≠ "")
    (h : ∀ c ∈ text.toList, Text.isDigit c = true) :
    yesWords.contains (Text.lower text) = false ∧ noWords.contains (Text.lower text) = false := by
  -- The small form begins with the same digit.
  obtain ⟨first, hfirst, hdigit⟩ : ∃ first, (Text.lower text).toList.head? = some first ∧
      Text.isDigit first = true := by
    cases hcs : text.toList with
    | nil => exact absurd (by simpa using hcs) hne
    | cons c cs =>
      have hc : Text.isDigit c = true := h c (by rw [hcs]; exact List.mem_cons_self)
      refine ⟨c, ?_, hc⟩
      rw [Text.lower, String.toList_ofList, hcs, Text.lowerFrom, Text.lowerChar_of_isDigit hc]
      rfl
  have hword : ∀ word ∈ yesWords ++ noWords, word ≠ Text.lower text := by
    intro word hword heq
    have hletters : ∀ word ∈ yesWords ++ noWords, word.toList.head?.any Text.isDigit = false := by
      decide +kernel
    have hnone := hletters word hword
    rw [heq, hfirst, Option.any_some, hdigit] at hnone
    cases hnone
  constructor
  · rw [← Bool.not_eq_true, List.contains_iff_mem]
    exact fun hmem => hword _ (List.mem_append_left _ hmem) rfl
  · rw [← Bool.not_eq_true, List.contains_iff_mem]
    exact fun hmem => hword _ (List.mem_append_right _ hmem) rfl

/-- A variable cannot be used exactly if it looks like a number and is none that is read. -/
theorem coerce_fails_iff (text : String) : (∃ fault, coerce text = .error fault) ↔ IsNoNumber text := by
  by_cases hdigits : text ≠ "" ∧ ∀ c ∈ text.toList, Text.isDigit c = true
  · obtain ⟨hne, hall⟩ := hdigits
    obtain ⟨hyes, hno⟩ := lower_not_mem_of_digits hne hall
    have hlooks : (text ≠ "" && text.toList.all Text.isDigit) = true := by
      simpa using ⟨hne, hall⟩
    rw [← readDigitText_fails_iff hne hall, coerce]
    simp only [hyes, hno, hlooks, Bool.false_eq_true, if_false, if_true]
    cases readDigitText text with
    | error fault => exact iff_of_true ⟨fault, rfl⟩ ⟨fault, rfl⟩
    | ok n => exact iff_of_false (fun ⟨_, h⟩ => nomatch h) (fun ⟨_, h⟩ => nomatch h)
  · have hlooks : (text ≠ "" && text.toList.all Text.isDigit) = false := by
      rw [← Bool.not_eq_true]
      simpa using hdigits
    refine iff_of_false ?_ fun hno => hdigits ⟨hno.1, hno.2.1⟩
    rintro ⟨fault, hfault⟩
    rw [coerce] at hfault
    simp only [hlooks, Bool.false_eq_true, if_false] at hfault
    split at hfault
    · cases hfault
    · split at hfault
      · cases hfault
      · cases hfault

end Settings
end GitPractice
