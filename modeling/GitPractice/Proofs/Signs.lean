import GitPractice.Proofs.Markup

/-!
# Signs that markup loses

A tag loses its opening bracket, where a backslash before a bracket vanishes it is
gone too, and an emoji takes the place of two colons. So a text that is read as
markup never has more of these signs than were written, and it has fewer unless
it is plain (`signs_lt_of_render`).
-/

namespace GitPractice
namespace Markup

variable {emoji : Screen.EmojiTable}

/-- Opening brackets, backslashes and colons. -/
def isSign (c : Char) : Bool := c = '[' || c = '\\' || c = ':'

def signs (cs : List Char) : Nat := cs.countP isSign

theorem signs_append (cs ds : List Char) : signs (cs ++ ds) = signs cs + signs ds :=
  List.countP_append

theorem signs_cons (c : Char) (cs : List Char) :
    signs (c :: cs) = signs cs + if isSign c then 1 else 0 := List.countP_cons

theorem signs_reverse (cs : List Char) : signs cs.reverse = signs cs := List.countP_reverse

theorem signs_replicate_slash (n : Nat) : signs (List.replicate n '\\') = n := by
  simp [signs, List.countP_replicate, isSign]

theorem signs_le_of_sublist {cs ds : List Char} (h : cs.Sublist ds) : signs cs ≤ signs ds :=
  h.countP_le

theorem signs_flatMap_le {α : Type} {f g : α → List Char} {xs : List α}
    (h : ∀ x ∈ xs, signs (f x) ≤ signs (g x)) : signs (xs.flatMap f) ≤ signs (xs.flatMap g) := by
  induction xs with
  | nil => exact Nat.le_refl _
  | cons x xs ih =>
    obtain ⟨hx, hxs⟩ := List.forall_mem_cons.mp h
    rw [List.flatMap_cons, List.flatMap_cons, signs_append, signs_append]
    exact Nat.add_le_add hx (ih hxs)

/-- A sign that is missing in one place is missing altogether. -/
theorem signs_flatMap_lt {α : Type} {f g : α → List Char} {xs : List α}
    (h : ∀ x ∈ xs, signs (f x) ≤ signs (g x)) {x : α} (hmem : x ∈ xs)
    (hlt : signs (f x) < signs (g x)) : signs (xs.flatMap f) < signs (xs.flatMap g) := by
  obtain ⟨front, back, rfl⟩ := List.append_of_mem hmem
  have hfront := signs_flatMap_le fun y hy => h y (List.mem_append_left _ hy)
  have hback := signs_flatMap_le fun y hy =>
    h y (List.mem_append_right _ (List.mem_cons_of_mem x hy))
  simp only [List.flatMap_append, List.flatMap_cons, signs_append]
  omega

theorem signs_flatMap_append {α : Type} (f g : α → List Char) (xs : List α) :
    signs (xs.flatMap fun x => f x ++ g x) = signs (xs.flatMap f) + signs (xs.flatMap g) := by
  induction xs with
  | nil => rfl
  | cons x xs ih =>
    simp only [List.flatMap_cons, signs_append, ih]
    omega

theorem signs_unescape_lt {cs : List Char} (h : hasEscape cs = true) :
    signs (unescape cs) < signs cs := by
  induction cs using unescape.induct with
  | case1 cs ih =>
    have hle := signs_le_of_sublist (unescape_sublist cs)
    rw [unescape, signs_cons, signs_cons, signs_cons, show isSign '\\' = true from rfl, if_pos rfl]
    omega
  | case2 c cs hne ih =>
    rw [hasEscape] at h
    · have hlt := ih h
      rw [unescape, signs_cons, signs_cons]
      · omega
      · exact hne
    · exact hne
  | case3 => cases h

theorem signs_colon (cs : List Char) : signs (':' :: cs) = signs cs + 1 :=
  signs_cons ':' cs

theorem signs_of_upToColon {cs content : List Char} (h : upToColon cs = some content) :
    signs cs = signs content + 1 + signs (cs.drop (content.length + 1)) := by
  have hsplit := congrArg signs (eq_of_upToColon h)
  rw [signs_append, signs_colon] at hsplit
  omega

theorem signs_codeText? {content text : List Char} (h : codeText? emoji content = some text) : signs text = 0 := by
  rw [signs, List.countP_eq_zero]
  intro c hc
  obtain ⟨-, hopen, hslash, hcolon⟩ := clean_of_codeText? h c hc
  simp [isSign, hopen, hslash, hcolon]

/-- A code that stands for an emoji loses its colons. -/
theorem signs_replaceCodes (emoji : Screen.EmojiTable) (skip : Nat) (cs : List Char) :
    signs (replaceCodes emoji skip cs) + (hasCode emoji skip cs).toNat ≤ signs (cs.drop skip) := by
  -- Along the text; the characters that are skipped belong to the code just read.
  induction cs generalizing skip with
  | nil => exact Nat.zero_le _
  | cons c cs ih =>
    rw [replaceCodes, hasCode]
    split
    · next hskip =>
      obtain ⟨n, rfl⟩ := Nat.exists_eq_add_of_lt hskip
      simpa using ih n
    · next hskip =>
      rw [Nat.eq_zero_of_not_pos hskip, List.drop_zero]
      have hrest := ih 0
      rw [List.drop_zero] at hrest
      split
      · next hc =>
        rw [hc, signs_colon]
        cases hcontent : upToColon cs with
        | none =>
          simp only [signs_colon]
          omega
        | some content =>
          have hbehind := ih (content.length + 1)
          have hcs := signs_of_upToColon hcontent
          simp only [signs_append]
          cases htext : codeText? emoji content with
          | some text =>
            rw [Option.getD_some, signs_codeText? htext, Option.isSome_some, Bool.true_or, Bool.toNat_true]
            omega
          | none =>
            have hcode : signs (':' :: content ++ [':']) = signs content + 2 := by
              rw [List.cons_append, signs_colon, signs_append]
              rfl
            rw [Option.getD_none, hcode, Option.isSome_none, Bool.false_or]
            omega
      · rw [signs_cons, signs_cons]
        omega

/-! ## Between the tags -/

/-- What the pieces say, one after the other. -/
def said (ps : List Piece) : List Char :=
  ps.flatMap fun
    | .text content => unescape content
    | .tag _ _ => []

theorem said_append (ps qs : List Piece) : said (ps ++ qs) = said ps ++ said qs :=
  List.flatMap_append

theorem said_flush (plain : List Char) : said (flush plain) = unescape plain.reverse := by
  rw [flush]
  split
  · next hempty =>
    rw [List.isEmpty_iff.mp hempty, List.reverse_nil, unescape, said, List.flatMap_nil]
  · simp [said]

theorem signs_said_flush (plain : List Char) : signs (said (flush plain)) ≤ signs plain := by
  rw [said_flush, ← signs_reverse plain]
  exact signs_le_of_sublist (unescape_sublist _)

/-- A tag loses its bracket, or the backslash that makes it none. -/
theorem signs_said_of_tag {cs content : List Char} (htag : tagContent? cs = some content)
    {more : List Piece} (hmore : signs (said more) ≤ signs (cs.drop (content.length + 1)))
    (position slashes : Nat) (plain : List Char) :
    signs (said (flush plain ++ flush (List.replicate (slashes / 2) '\\') ++
      (if slashes % 2 = 1 then Piece.text ('[' :: content ++ [']']) else .tag position content) ::
        more)) ≤ signs cs + slashes + signs plain := by
  have hplain := signs_said_flush plain
  have hslashes := signs_said_flush (List.replicate (slashes / 2) '\\')
  have hcs : signs cs = signs content + signs (cs.drop (content.length + 1)) := by
    have hsplit := congrArg signs (eq_of_tagContent? htag)
    rw [signs_append, signs_cons] at hsplit
    exact hsplit
  rw [signs_replicate_slash] at hslashes
  rw [said_append, said_append, signs_append, signs_append]
  split
  · have hshown := signs_le_of_sublist (unescape_sublist ('[' :: content ++ [']']))
    have hcontent : signs ('[' :: content ++ [']']) = signs content + 1 := by
      rw [List.cons_append, signs_cons, signs_append]
      rfl
    change _ + signs (unescape ('[' :: content ++ [']']) ++ said more) ≤ _
    rw [signs_append]
    omega
  · change _ + signs (said more) ≤ _
    omega

/-- The sign that a text with a tag loses at least. -/
def lost (cs : List Char) : Nat := (hasTag cs).toNat

theorem lost_le (cs : List Char) : lost cs ≤ 1 := Bool.toNat_le _

theorem lost_of_no_tag {c : Char} {cs : List Char} (h : c = '[' → tagContent? cs = none) :
    lost (c :: cs) = lost cs := by
  have hc : (decide (c = '[') && (tagContent? cs).isSome) = false := by
    rw [Bool.and_eq_false_imp]
    intro hc
    rw [h (of_decide_eq_true hc)]
    rfl
  rw [lost, hasTag, hc, Bool.false_or]
  rfl

theorem signs_said_pieces (position skip slashes : Nat) (plain cs : List Char) :
    signs (said (pieces position skip slashes plain cs)) + lost (cs.drop skip) ≤
      signs (cs.drop skip) + slashes + signs plain := by
  -- Along the text; the characters that are skipped belong to the tag just read.
  induction cs generalizing position skip slashes plain with
  | nil =>
    have hflush := signs_said_flush (List.replicate slashes '\\' ++ plain)
    rw [signs_append, signs_replicate_slash] at hflush
    have hnil : lost [] = 0 := rfl
    rw [pieces, List.drop_nil, hnil]
    omega
  | cons c cs ih =>
    rw [pieces]
    split
    · next hskip =>
      obtain ⟨n, rfl⟩ := Nat.exists_eq_add_of_lt hskip
      have hrest := ih (position + 1) n 0 []
      have hnil : signs [] = 0 := rfl
      simp only [Nat.zero_add, Nat.add_sub_cancel, List.drop_succ_cons]
      omega
    · next hskip =>
      rw [Nat.eq_zero_of_not_pos hskip, List.drop_zero, signs_cons]
      have hsign (h : c = '\\' ∨ c = '[') : isSign c = true := by
        rcases h with rfl | rfl <;> rfl
      -- A character that makes no tag joins the text before it, and so do the backslashes.
      have hjoin (htag : c = '[' → tagContent? cs = none) :
          signs (said (pieces (position + 1) 0 0 (c :: List.replicate slashes '\\' ++ plain) cs)) +
              lost (c :: cs) ≤
            signs cs + (if isSign c then 1 else 0) + slashes + signs plain := by
        have hrest := ih (position + 1) 0 0 (c :: List.replicate slashes '\\' ++ plain)
        rw [List.drop_zero, List.cons_append, signs_cons, signs_append, signs_replicate_slash]
          at hrest
        rw [lost_of_no_tag htag, List.cons_append]
        omega
      split
      · next hslash =>
        have hrest := ih (position + 1) 0 (slashes + 1) plain
        rw [List.drop_zero] at hrest
        rw [lost_of_no_tag (by simp [hslash]), hsign (Or.inl hslash), if_pos rfl]
        omega
      · split
        · next hbracket =>
          split
          · next content htag =>
            have hmore : signs (said (pieces (position + 1) (content.length + 1) 0 [] cs)) ≤
                signs (cs.drop (content.length + 1)) :=
              Nat.le_trans (Nat.le_add_right _ _) (ih (position + 1) (content.length + 1) 0 [])
            have htotal := signs_said_of_tag htag hmore position slashes plain
            have hlost := lost_le (c :: cs)
            rw [hsign (Or.inr hbracket), if_pos rfl]
            omega
          · next htag =>
            rw [← hbracket]
            exact hjoin fun _ => htag
        · next hbracket => exact hjoin fun hc => absurd hc hbracket

/-! ## What is shown -/

theorem signs_addPieces {ps : List Piece} {text : List Char} {spans : List Screen.Span}
    {opened : List OpenTag} {s : Screen.Styled} (h : addPieces emoji text spans opened ps = .ok s) :
    signs s.text ≤ signs text + signs (said ps) := by
  induction ps generalizing text spans opened with
  | nil =>
    cases h
    exact Nat.le_add_right _ _
  | cons p ps ih =>
    cases p with
    | text content =>
      rw [addPieces] at h
      have hrest := ih h
      have hshown : signs (Screen.withoutControls (replaceCodes emoji 0 (unescape content))) ≤
          signs (replaceCodes emoji 0 (unescape content)) := signs_le_of_sublist List.filter_sublist
      have hcodes := signs_replaceCodes emoji 0 (unescape content)
      change _ ≤ signs text + signs (unescape content ++ said ps)
      rw [signs_append] at hrest ⊢
      rw [List.drop_zero] at hcodes
      omega
    | tag position content =>
      obtain ⟨spans', opened', h⟩ := addPieces_of_tag h
      exact ih h

/-- Text that is not plain is not shown with all its signs. -/
theorem signs_lt_of_render {s : String} {t : Screen.Styled} (h : render emoji s = .ok t)
    (hs : ¬ IsPlain emoji s.toList) : signs t.text < signs s.toList := by
  cases htag : hasTag s.toList with
  | true =>
    have hshown := signs_addPieces h
    have hpieces := signs_said_pieces 0 0 0 [] s.toList
    have hlost : lost s.toList = 1 := by rw [lost, htag, Bool.toNat_true]
    have hnil : signs [] = 0 := rfl
    rw [List.drop_zero] at hpieces
    omega
  | false =>
    have htext : t.text = Screen.withoutControls (replaceCodes emoji 0 (unescape s.toList)) := by
      rw [render_of_no_tag htag] at h
      cases h
      rfl
    have hshown : signs t.text ≤ signs (replaceCodes emoji 0 (unescape s.toList)) := by
      rw [htext]
      exact signs_le_of_sublist List.filter_sublist
    have hcodes := signs_replaceCodes emoji 0 (unescape s.toList)
    rw [List.drop_zero] at hcodes
    cases hescape : hasEscape s.toList with
    | true =>
      have hlt := signs_unescape_lt hescape
      omega
    | false =>
      rw [unescape_of_no_escape hescape] at hshown hcodes
      cases hcode : hasCode emoji 0 s.toList with
      | true =>
        rw [hcode, Bool.toNat_true] at hcodes
        omega
      | false => exact absurd ⟨htag, hescape, hcode⟩ hs

/-- A text is never shown with more signs than it has. -/
theorem signs_le_of_render {s : String} {t : Screen.Styled} (h : render emoji s = .ok t) :
    signs t.text ≤ signs s.toList := by
  by_cases hs : IsPlain emoji s.toList
  · rw [render_of_isPlain hs] at h
    cases h
    exact signs_le_of_sublist List.filter_sublist
  · exact Nat.le_of_lt (signs_lt_of_render h hs)

end Markup
end GitPractice
