import GitPractice.Text.Case

/-!
# Small letters stay

What is in small letters is left as it is when it is put in small letters once more,
whatever stands around it. So a text in small letters that occurs in another one still
occurs there when that is put in small letters (`Text.infix_lower`).
-/

namespace GitPractice
namespace Text

/-- A character that is its own small form everywhere. -/
def IsSmall (c : Char) : Prop := ∀ before after, lowerChar before c after = [c]

theorem isSmall_of_code {c : Char} (hcode : lowerCode caseRuns c.toNat = c.toNat)
    (hsigma : c ≠ capitalSigma) (hdotted : c ≠ 'İ') : IsSmall c := by
  intro before after
  rw [lowerChar, if_neg hsigma, if_neg hdotted, hcode, Char.ofNat_toNat]

/-! ## The table -/

theorem lowerCode_cases (runs : List CaseRun) (n : Nat) :
    lowerCode runs n = n ∨
      ∃ run ∈ runs, run.first ≤ n ∧ n ≤ run.last ∧ (n - run.first) % run.step = 0 ∧
        lowerCode runs n = ((n : Int) + run.offset).toNat := by
  induction runs with
  | nil => exact Or.inl rfl
  | cons run runs ih =>
    rw [lowerCode]
    split
    · next hlast =>
      split
      · next hrun => exact Or.inr ⟨run, List.mem_cons_self, hrun.1, hlast, hrun.2, rfl⟩
      · exact Or.inl rfl
    · rcases ih with hsame | ⟨other, hmem, hother⟩
      · exact Or.inl hsame
      · exact Or.inr ⟨other, List.mem_cons_of_mem _ hmem, hother⟩

/-- A code that lies in no run, or between the letters of one, stays. -/
theorem lowerCode_of_missed {runs : List CaseRun} {n : Nat}
    (h : ∀ run ∈ runs, n < run.first ∨ run.last < n ∨ (n - run.first) % run.step ≠ 0) :
    lowerCode runs n = n := by
  rcases lowerCode_cases runs n with hsame | ⟨run, hrun, hfirst, hlast, hstep, -⟩
  · exact hsame
  · have := h run hrun
    omega

/-- The code that the first letter of a run leads to. -/
def CaseRun.image (run : CaseRun) : Nat := ((run.first : Int) + run.offset).toNat

/-- Whether all letters that a run leads to are outside of another one, or between its letters. -/
def CaseRun.misses (run other : CaseRun) : Bool :=
  Nat.blt (run.image + (run.last - run.first)) other.first || Nat.blt other.last run.image ||
    (Nat.beq other.step 2 && (Nat.beq run.step 2 || Nat.beq run.first run.last) &&
      Nat.beq ((run.image + other.first) % 2) 1)

/-- Whether a run leads to characters, and not to the capitals that stand outside the runs. -/
def CaseRun.leadsToLetters (run : CaseRun) : Bool :=
  decide (0 ≤ (run.first : Int) + run.offset) &&
    [0x3a3, 0x130].all (fun n => Nat.blt (run.image + (run.last - run.first)) n || Nat.blt n run.image) &&
    (Nat.blt (run.image + (run.last - run.first)) 0xd800 ||
      Nat.blt 0xdfff run.image && Nat.blt (run.image + (run.last - run.first)) 0x110000)

theorem misses_caseRuns : (caseRuns.all fun run => caseRuns.all run.misses) = true := by
  decide +kernel

theorem leadsToLetters_caseRuns : (caseRuns.all CaseRun.leadsToLetters) = true := by
  decide +kernel

/-- What a capital leads to is no capital. -/
theorem lowerCode_lowerCode {n : Nat} (h : lowerCode caseRuns n ≠ n) :
    lowerCode caseRuns (lowerCode caseRuns n) = lowerCode caseRuns n ∧ (lowerCode caseRuns n).isValidChar ∧
      lowerCode caseRuns n ≠ 0x3a3 ∧ lowerCode caseRuns n ≠ 0x130 := by
  obtain ⟨run, hrun, hfirst, hlast, hstep, hcode⟩ := (lowerCode_cases caseRuns n).resolve_left h
  have hletters := List.all_eq_true.mp leadsToLetters_caseRuns run hrun
  simp only [CaseRun.leadsToLetters, List.all_cons, List.all_nil, Bool.and_true, Bool.and_eq_true,
    Bool.or_eq_true, decide_eq_true_eq, Nat.blt_eq] at hletters
  obtain ⟨⟨hpositive, hsigma, hdotted⟩, hvalid⟩ := hletters
  have himage : lowerCode caseRuns n = run.image + (n - run.first) := by
    rw [hcode, CaseRun.image]
    omega
  rw [himage]
  refine ⟨lowerCode_of_missed fun other hother => ?_, ?_, by omega, by omega⟩
  · have hmisses := List.all_eq_true.mp (List.all_eq_true.mp misses_caseRuns run hrun) other hother
    simp only [CaseRun.misses, Bool.or_eq_true, Bool.and_eq_true, Nat.blt_eq, Nat.beq_eq] at hmisses
    rcases hmisses with (hbelow | habove) | ⟨⟨htwo, hwidth⟩, hodd⟩
    · omega
    · omega
    · have heven : (n - run.first) % 2 = 0 := by
        rcases hwidth with hrun2 | hsingle
        · rwa [hrun2] at hstep
        · omega
      rw [htwo]
      omega
  · rw [Nat.isValidChar]
    omega

theorem isSmall_of_mem_lowerChar {before after : List Char} {c d : Char}
    (h : c ∈ lowerChar before d after) : IsSmall c := by
  rw [lowerChar] at h
  split at h
  · have hsigma : c = 'ς' ∨ c = 'σ' := by
      split at h
      · exact Or.inl (List.mem_singleton.mp h)
      · exact Or.inr (List.mem_singleton.mp h)
    rcases hsigma with rfl | rfl
    · exact isSmall_of_code (by decide +kernel) (by decide) (by decide)
    · exact isSmall_of_code (by decide +kernel) (by decide) (by decide)
  next hsigma =>
    split at h
    · simp only [List.mem_cons, List.not_mem_nil, or_false] at h
      rcases h with rfl | rfl
      · exact isSmall_of_code (by decide +kernel) (by decide) (by decide)
      · exact isSmall_of_code (by decide +kernel) (by decide) (by decide)
    next hdotted =>
      rw [List.mem_singleton] at h
      by_cases hsame : lowerCode caseRuns d.toNat = d.toNat
      · rw [hsame, Char.ofNat_toNat] at h
        rw [h]
        exact isSmall_of_code hsame hsigma hdotted
      · obtain ⟨hcode, hvalid, hnotSigma, hnotDotted⟩ := lowerCode_lowerCode hsame
        have hc : c.toNat = lowerCode caseRuns d.toNat := by
          rw [h, Char.ofNat, dif_pos hvalid]
          rfl
        rw [← hc] at hcode hnotSigma hnotDotted
        refine isSmall_of_code hcode ?_ ?_
        · rintro rfl
          exact hnotSigma rfl
        · rintro rfl
          exact hnotDotted rfl

theorem isSmall_of_mem_lower {s : String} {c : Char} (h : c ∈ (lower s).toList) : IsSmall c := by
  have hfrom (before cs : List Char) (h : c ∈ lowerFrom before cs) : IsSmall c := by
    induction cs generalizing before with
    | nil => cases h
    | cons d cs ih =>
      rw [lowerFrom, List.mem_append] at h
      exact h.elim isSmall_of_mem_lowerChar (ih _)
  rw [lower, String.toList_ofList] at h
  exact hfrom [] s.toList h

/-! ## Parts of a text -/

theorem lowerFrom_of_small {cs : List Char} (h : ∀ c ∈ cs, IsSmall c) (before more : List Char) :
    lowerFrom before (cs ++ more) = cs ++ lowerFrom (cs.reverse ++ before) more := by
  induction cs generalizing before with
  | nil => rfl
  | cons c cs ih =>
    obtain ⟨hc, hcs⟩ := List.forall_mem_cons.mp h
    rw [List.cons_append, lowerFrom, hc, ih hcs, List.reverse_cons, List.append_assoc]
    rfl

theorem exists_lowerFrom_append (before cs more : List Char) :
    ∃ front, lowerFrom before (cs ++ more) = front ++ lowerFrom (cs.reverse ++ before) more := by
  induction cs generalizing before with
  | nil => exact ⟨[], rfl⟩
  | cons c cs ih =>
    obtain ⟨front, hfront⟩ := ih (c :: before)
    refine ⟨lowerChar before c (cs ++ more) ++ front, ?_⟩
    rw [List.cons_append, lowerFrom, hfront, List.reverse_cons, List.append_assoc, List.append_assoc]
    rfl

/-- Small letters in a text are still there in its small form. -/
theorem infix_lower {cs : List Char} {s : String} (h : ∀ c ∈ cs, IsSmall c) (hs : cs <:+: s.toList) :
    cs <:+: (lower s).toList := by
  obtain ⟨front, back, hs⟩ := hs
  obtain ⟨start, hstart⟩ := exists_lowerFrom_append [] front (cs ++ back)
  rw [lower, String.toList_ofList, ← hs, List.append_assoc, hstart, lowerFrom_of_small h,
    ← List.append_assoc]
  exact List.infix_append _ _ _

end Text
end GitPractice
