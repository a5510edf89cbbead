import GitPractice.Screen.Markup.Codes

/-!
# What codes make of a text

A text in which no code stands for an emoji stays as it is
(`replaceCodes_of_no_code`). In general the characters come from the text or from
an emoji.
-/

namespace GitPractice
namespace Markup

open Screen (EmojiTable)

variable {emoji : EmojiTable}

/-- A code goes up to its second colon. -/
theorem eq_of_upToColon {cs content : List Char} (h : upToColon cs = some content) :
    cs = content ++ ':' :: cs.drop (content.length + 1) := by
  induction cs generalizing content with
  | nil => cases h
  | cons c cs ih =>
    rw [upToColon] at h
    split at h
    · next hc =>
      cases h
      rw [hc]
      rfl
    · split at h
      · cases h
      · obtain ⟨rest, hrest, rfl⟩ := Option.map_eq_some_iff.mp h
        exact congrArg (c :: ·) (ih hrest)

/-- What stands for a code has no blank, and no character that means something in markup. -/
theorem clean_of_codeText? {content text : List Char} (h : codeText? emoji content = some text) :
    ∀ c ∈ text, Text.isBlank c = false ∧ c ≠ '[' ∧ c ≠ '\\' ∧ c ≠ ':' := by
  obtain ⟨sign, hsign, rfl⟩ := Option.map_eq_some_iff.mp h
  rw [List.forall_mem_append]
  refine ⟨emoji.clean hsign, ?_⟩
  split
  · next ending selector hlook =>
    have hall : ∀ look ∈ looks, Text.isBlank look.2 = false ∧ look.2 ≠ '[' ∧ look.2 ≠ '\\' ∧ look.2 ≠ ':' := by
      decide
    exact List.forall_mem_singleton.mpr (hall (ending, selector) (List.mem_of_find?_eq_some hlook))
  · exact fun _ hmem => by cases hmem

/-- Whether a code in the text stands for an emoji, read as `replaceCodes` does. -/
def hasCode (emoji : EmojiTable) (skip : Nat) : List Char → Bool
  | [] => false
  | c :: cs =>
    if 0 < skip then hasCode emoji (skip - 1) cs
    else if c = ':' then
      match upToColon cs with
      | some content => (codeText? emoji content).isSome || hasCode emoji (content.length + 1) cs
      | none => hasCode emoji 0 cs
    else hasCode emoji 0 cs

theorem replaceCodes_of_no_code {skip : Nat} {cs : List Char} (h : hasCode emoji skip cs = false) :
    replaceCodes emoji skip cs = cs.drop skip := by
  induction cs generalizing skip with
  | nil => rw [replaceCodes, List.drop_nil]
  | cons c cs ih =>
    rw [hasCode] at h
    rw [replaceCodes]
    split at h
    · next hskip =>
      obtain ⟨n, rfl⟩ := Nat.exists_eq_add_of_lt hskip
      rw [if_pos hskip, ih h]
      simp
    · next hskip =>
      rw [Nat.eq_zero_of_not_pos hskip, if_neg (Nat.lt_irrefl 0), List.drop_zero]
      split at h
      · next hc =>
        rw [if_pos hc]
        cases hcontent : upToColon cs with
        | some content =>
          simp only [hcontent] at h ⊢
          obtain ⟨hcode, hrest⟩ := Bool.or_eq_false_iff.mp h
          have hnone : codeText? emoji content = none := by simpa using hcode
          have hsplit := eq_of_upToColon hcontent
          simp only [hnone, Option.getD_none, ih hrest, List.cons_append, List.append_assoc, List.nil_append]
          rw [← hsplit, hc]
        | none =>
          simp only [hcontent] at h ⊢
          rw [ih h, List.drop_zero]
      · next hc => rw [if_neg hc, ih h, List.drop_zero]

/-- There is no code without a colon. -/
theorem hasCode_of_no_colon {cs : List Char} (h : ':' ∉ cs) (skip : Nat) : hasCode emoji skip cs = false := by
  induction cs generalizing skip with
  | nil => rfl
  | cons c cs ih =>
    obtain ⟨hc, hcs⟩ := not_or.mp (mt List.mem_cons.mpr h)
    rw [hasCode, if_neg (Ne.symm hc), ih hcs, ih hcs, ite_self]

/-- What is true of the characters of a text and of emoji is true of the text with its codes replaced. -/
theorem forall_mem_replaceCodes {P : Char → Prop}
    (hemoji : ∀ {content text}, codeText? emoji content = some text → ∀ c ∈ text, P c) {cs : List Char}
    (hcs : ∀ c ∈ cs, P c) (skip : Nat) : ∀ c ∈ replaceCodes emoji skip cs, P c := by
  induction cs generalizing skip with
  | nil => exact hcs
  | cons c cs ih =>
    obtain ⟨hc, hrest⟩ := List.forall_mem_cons.mp hcs
    rw [replaceCodes]
    split
    · exact ih hrest _
    · split
      · next hcolon =>
        split
        · next content hcontent =>
          refine List.forall_mem_append.mpr ⟨?_, ih hrest _⟩
          cases htext : codeText? emoji content with
          | some text => exact hemoji htext
          | none =>
            rw [hcolon] at hc
            rw [eq_of_upToColon hcontent, List.forall_mem_append] at hrest
            simp only [Option.getD_none, List.forall_mem_append, List.forall_mem_cons]
            exact ⟨⟨hc, hrest.1⟩, hc, fun _ hmem => by cases hmem⟩
        · exact List.forall_mem_cons.mpr ⟨hc, ih hrest 0⟩
      · exact List.forall_mem_cons.mpr ⟨hc, ih hrest 0⟩

end Markup
end GitPractice
