import GitPractice.Proofs.Codes
import GitPractice.Screen.Markup.Basic

/-!
# What markup makes of a text

A text in which no bracket starts a tag or follows a backslash, and no code
stands for an emoji, is shown as it stands (`render_of_isPlain`). In general the
characters that are shown come from the markup or from an emoji.
-/

namespace GitPractice
namespace Markup

variable {emoji : Screen.EmojiTable}

/-! ## Plain text -/

/-- Whether a bracket of the text starts a tag. -/
def hasTag : List Char → Bool
  | [] => false
  | c :: cs => (c = '[' && (tagContent? cs).isSome) || hasTag cs

/-- Whether a bracket of the text follows a backslash. -/
def hasEscape : List Char → Bool
  | '\\' :: '[' :: _ => true
  | _ :: cs => hasEscape cs
  | [] => false

/-- No bracket of the text starts a tag, none follows a backslash, and no code stands for an emoji. -/
structure IsPlain (emoji : Screen.EmojiTable) (cs : List Char) : Prop where
  no_tag : hasTag cs = false
  no_escape : hasEscape cs = false
  no_code : hasCode emoji 0 cs = false

instance (cs : List Char) : Decidable (IsPlain emoji cs) :=
  decidable_of_iff (hasTag cs = false ∧ hasEscape cs = false ∧ hasCode emoji 0 cs = false)
    ⟨fun h => ⟨h.1, h.2.1, h.2.2⟩, fun h => ⟨h.1, h.2, h.3⟩⟩

theorem hasTag_of_no_bracket {cs : List Char} (h : '[' ∉ cs) : hasTag cs = false := by
  induction cs with
  | nil => rfl
  | cons c cs ih =>
    obtain ⟨hc, hcs⟩ := not_or.mp (mt List.mem_cons.mpr h)
    rw [hasTag, ih hcs]
    simp [Ne.symm hc]

theorem hasEscape_of_no_bracket {cs : List Char} (h : '[' ∉ cs) : hasEscape cs = false := by
  induction cs with
  | nil => rfl
  | cons c cs ih =>
    rw [hasEscape]
    · exact ih fun hmem => h (List.mem_cons_of_mem c hmem)
    · rintro rest rfl rfl
      simp at h

theorem isPlain_of_no_sign {cs : List Char} (hbracket : '[' ∉ cs) (hcolon : ':' ∉ cs) : IsPlain emoji cs :=
  ⟨hasTag_of_no_bracket hbracket, hasEscape_of_no_bracket hbracket, hasCode_of_no_colon hcolon 0⟩

/-- The backslashes before the text that is left are given back with it. -/
theorem pieces_of_no_tag {cs : List Char} (h : hasTag cs = false) (position slashes : Nat)
    (plain : List Char) :
    pieces position 0 slashes plain cs =
      flush (cs.reverse ++ (List.replicate slashes '\\' ++ plain)) := by
  induction cs generalizing position slashes plain with
  | nil => rfl
  | cons c cs ih =>
    obtain ⟨hc, hcs⟩ := Bool.or_eq_false_iff.mp h
    rw [pieces, if_neg (Nat.lt_irrefl 0), List.reverse_cons, List.append_assoc]
    split
    · next hslash =>
      rw [ih hcs, hslash, List.replicate_succ]
      rfl
    · split
      · next hbracket =>
        have htag : tagContent? cs = none := by simpa [hbracket] using hc
        rw [htag, hbracket]
        simp only
        rw [ih hcs]
        rfl
      · rw [ih hcs]
        rfl

theorem unescape_of_no_escape {cs : List Char} (h : hasEscape cs = false) : unescape cs = cs := by
  induction cs using unescape.induct with
  | case1 cs ih => cases h
  | case2 c cs hne ih =>
    rw [hasEscape] at h
    · rw [unescape, ih h]
      exact hne
    · exact hne
  | case3 => rfl

/-- Text without tags has no styles. -/
theorem render_of_no_tag {s : String} (h : hasTag s.toList = false) :
    render emoji s = .ok { text := Screen.withoutControls (replaceCodes emoji 0 (unescape s.toList)) } := by
  have hstyled (text : List Char) : styled text [] = { text } := by
    rw [styled, List.reverse_nil, List.mergeSort_nil]
  rw [render, pieces_of_no_tag h, List.replicate_zero, List.nil_append, List.append_nil, flush]
  split
  · next hempty =>
    have hnil : s.toList = [] := by simpa using hempty
    rw [addPieces, List.map_nil, List.append_nil, hstyled, hnil]
    rfl
  · rw [addPieces, addPieces, List.reverse_reverse, List.map_nil, List.append_nil, hstyled]
    rfl

/-- Plain text is shown as it stands. -/
theorem render_of_isPlain {s : String} (h : IsPlain emoji s.toList) :
    render emoji s = .ok (Screen.Styled.plain s) := by
  rw [render_of_no_tag h.no_tag, unescape_of_no_escape h.no_escape, replaceCodes_of_no_code h.no_code]
  rfl

/-! ## Where the characters come from -/

variable {P : Char → Prop}

/-- What stands in a tag goes up to its closing bracket. -/
theorem eq_of_upToBracket {cs content : List Char} (h : upToBracket cs = some content) :
    cs = content ++ ']' :: cs.drop (content.length + 1) := by
  induction cs generalizing content with
  | nil => cases h
  | cons c cs ih =>
    rw [upToBracket] at h
    split at h
    · next hc =>
      cases h
      rw [hc]
      rfl
    · split at h
      · cases h
      · obtain ⟨rest, hrest, rfl⟩ := Option.map_eq_some_iff.mp h
        exact congrArg (c :: ·) (ih hrest)

theorem eq_of_tagContent? {cs content : List Char} (h : tagContent? cs = some content) :
    cs = content ++ ']' :: cs.drop (content.length + 1) := by
  cases cs with
  | nil => cases h
  | cons c cs =>
    rw [tagContent?] at h
    split at h
    · obtain ⟨rest, hrest, rfl⟩ := Option.map_eq_some_iff.mp h
      exact congrArg (c :: ·) (eq_of_upToBracket hrest)
    · cases h

theorem unescape_sublist (cs : List Char) : (unescape cs).Sublist cs := by
  induction cs using unescape.induct with
  | case1 cs ih =>
    rw [unescape]
    exact (ih.cons_cons _).cons _
  | case2 c cs hne ih =>
    rw [unescape]
    · exact ih.cons_cons c
    · exact hne
  | case3 => exact List.Sublist.refl _

theorem forall_mem_flush {plain content : List Char} (hplain : ∀ c ∈ plain, P c)
    (h : Piece.text content ∈ flush plain) : ∀ c ∈ content, P c := by
  rw [flush] at h
  split at h
  · cases h
  · cases List.mem_singleton.mp h
    exact fun c hc => hplain c (List.mem_reverse.mp hc)

/-- The texts between the tags hold characters of the markup, among them brackets and backslashes
that make no tag. -/
theorem forall_mem_pieces (hslash : P '\\') (hopen : P '[') (hclose : P ']') {cs : List Char}
    (hcs : ∀ c ∈ cs, P c) {position skip slashes : Nat} {plain : List Char}
    (hplain : ∀ c ∈ plain, P c) {content : List Char}
    (h : Piece.text content ∈ pieces position skip slashes plain cs) : ∀ c ∈ content, P c := by
  have hslashes (n : Nat) : ∀ c ∈ List.replicate n '\\', P c := by
    intro c hc
    rwa [List.eq_of_mem_replicate hc]
  have hall {xs ys : List Char} (hxs : ∀ c ∈ xs, P c) (hys : ∀ c ∈ ys, P c) :
      ∀ c ∈ xs ++ ys, P c := by
    intro c hc
    rcases List.mem_append.mp hc with hc | hc
    · exact hxs c hc
    · exact hys c hc
  -- Along the markup, for any text that waits to be given out before it.
  induction cs generalizing position skip slashes plain with
  | nil => exact forall_mem_flush (hall (hslashes slashes) hplain) h
  | cons c cs ih =>
    obtain ⟨hc, hcs⟩ := List.forall_mem_cons.mp hcs
    rw [pieces] at h
    split at h
    · exact ih hcs (fun _ hmem => by cases hmem) h
    · split at h
      · exact ih hcs hplain h
      · split at h
        · split at h
          · next tag htag =>
            rw [List.append_assoc, List.mem_append, List.mem_append, List.mem_cons] at h
            rcases h with h | h | h | h
            · exact forall_mem_flush hplain h
            · exact forall_mem_flush (hslashes _) h
            · split at h
              · cases h
                have htag : ∀ c ∈ tag, P c := by
                  intro c hmem
                  apply hcs
                  rw [eq_of_tagContent? htag]
                  exact List.mem_append_left _ hmem
                exact hall (List.forall_mem_cons.mpr ⟨hopen, htag⟩)
                  (List.forall_mem_singleton.mpr hclose)
              · cases h
            · exact ih hcs (fun _ hmem => by cases hmem) h
          · exact ih hcs (List.forall_mem_cons.mpr ⟨hopen, hall (hslashes slashes) hplain⟩) h
        · exact ih hcs (List.forall_mem_cons.mpr ⟨hc, hall (hslashes slashes) hplain⟩) h

/-- A tag adds no text: it opens a part of it or ends one. -/
theorem addPieces_of_tag {ps : List Piece} {text content : List Char} {position : Nat}
    {spans : List Screen.Span} {opened : List OpenTag} {s : Screen.Styled}
    (h : addPieces emoji text spans opened (.tag position content :: ps) = .ok s) :
    ∃ spans' opened', addPieces emoji text spans' opened' ps = .ok s := by
  rw [addPieces.eq_def] at h
  simp only [bind, Except.bind] at h
  split at h
  · split at h
    · cases h
    · split at h
      · split at h
        · cases h
        · exact ⟨_, _, h⟩
      · exact ⟨_, _, h⟩
  · split at h
    · cases h
    · exact ⟨_, _, h⟩

theorem forall_mem_addPieces
    (hemoji : ∀ {content text}, codeText? emoji content = some text → ∀ c ∈ text, P c)
    {ps : List Piece} {text : List Char} (htext : ∀ c ∈ text, P c)
    (hps : ∀ content, Piece.text content ∈ ps → ∀ c ∈ content, P c) {spans : List Screen.Span}
    {opened : List OpenTag} {s : Screen.Styled} (h : addPieces emoji text spans opened ps = .ok s) :
    ∀ c ∈ s.text, P c := by
  induction ps generalizing text spans opened with
  | nil =>
    cases h
    exact htext
  | cons p ps ih =>
    have hrest : ∀ content, Piece.text content ∈ ps → ∀ c ∈ content, P c :=
      fun content hmem => hps content (List.mem_cons_of_mem p hmem)
    cases p with
    | text content =>
      rw [addPieces] at h
      refine ih (List.forall_mem_append.mpr ⟨htext, fun c hc => ?_⟩) hrest h
      have hcontent : ∀ c ∈ unescape content, P c :=
        fun c hc => hps content List.mem_cons_self c ((unescape_sublist content).subset hc)
      exact forall_mem_replaceCodes hemoji hcontent 0 c (List.mem_filter.mp hc).1
    | tag position content =>
      obtain ⟨spans', opened', h⟩ := addPieces_of_tag h
      exact ih htext hrest h

/-- What is shown of a markup has its characters, the signs of tags that were none, and emoji. -/
theorem forall_mem_render (hslash : P '\\') (hopen : P '[') (hclose : P ']')
    (hemoji : ∀ {content text}, codeText? emoji content = some text → ∀ c ∈ text, P c) {s : String}
    (hs : ∀ c ∈ s.toList, P c) {t : Screen.Styled} (h : render emoji s = .ok t) : ∀ c ∈ t.text, P c :=
  forall_mem_addPieces hemoji (fun _ hmem => by cases hmem)
    (fun _ hmem => forall_mem_pieces hslash hopen hclose hs (fun _ hmem => by cases hmem) hmem) h

/-- What is shown of a markup without blanks has none either. -/
theorem no_blank_of_render {s : String} (hs : ∀ c ∈ s.toList, Text.isBlank c = false)
    {t : Screen.Styled} (h : render emoji s = .ok t) : ∀ c ∈ t.text, Text.isBlank c = false :=
  forall_mem_render (by decide) (by decide) (by decide)
    (fun htext c hc => (clean_of_codeText? htext c hc).1) hs h

end Markup
end GitPractice
