import GitPractice.Value.Json.Parse
import GitPractice.Value.Json.Print

/-!
# Texts and integers in JSON

What is escaped inside a text comes out again when the text is read, and the digits
of an integer give its value. A text ends at its own closing quote, so anything may
stand behind it. Behind an integer no digit, point or exponent may stand, and none
does where values are followed by a comma or a bracket (`Json.Closed`).

No control character is written, be it in a text or outside of one.
-/

namespace GitPractice
namespace Json

/-! ## Texts -/

theorem hexDigit_mod (n : Nat) : hexDigit n = hexDigit (n % 16) := by
  simp only [hexDigit, Nat.mod_mod]

theorem hexValue?_hexDigit (n : Nat) : hexValue? (hexDigit n) = some (n % 16) := by
  have hsmall : ∀ k < 16, hexValue? (hexDigit k) = some k := by decide
  rw [hexDigit_mod, hsmall (n % 16) (Nat.mod_lt n (by decide))]

theorem readUnits_escapeUnit {n : Nat} (hn : n < 65536) (acc : List Nat) (rest : List Char) :
    readUnits acc (escapeUnit n ++ rest) = readUnits (n :: acc) rest := by
  have hplaces : 4096 * (n / 4096 % 16) + 256 * (n / 256 % 16) + 16 * (n / 16 % 16) + n % 16 = n := by
    omega
  have hunit : hexUnit? (hexDigit (n / 4096)) (hexDigit (n / 256)) (hexDigit (n / 16)) (hexDigit n) =
      some n := by
    simp only [hexUnit?, hexValue?_hexDigit, Option.bind_eq_bind, Option.bind_some, Option.pure_def, hplaces]
  simp only [escapeUnit, List.cons_append, List.nil_append, readUnits, hunit]

/-- What is no control character and has no meaning of its own stands for itself. -/
theorem readUnits_cons {c : Char} (hquote : c ≠ '"') (hslash : c ≠ '\\') (hc : 32 ≤ c.toNat) (acc : List Nat)
    (rest : List Char) : readUnits acc (c :: rest) = readUnits (c.toNat :: acc) rest := by
  rw [readUnits]
  · simp only [hslash, Nat.not_lt.mpr hc, decide_false, Bool.or_self, Bool.false_eq_true, if_false]
  · exact hquote
  · exact fun _ _ _ _ _ h => absurd h hslash
  · exact fun _ _ h => absurd h hslash

theorem readUnits_encodeChar (c : Char) (acc : List Nat) (rest : List Char) :
    readUnits acc (encodeChar false c ++ rest) = readUnits (c.toNat :: acc) rest := by
  rw [encodeChar]
  iterate 7
    split
    · next hc =>
      subst hc
      rfl
  split
  · exact readUnits_escapeUnit (by omega) acc rest
  · next hquote hslash _ _ _ _ _ hc =>
    exact readUnits_cons hquote hslash (Nat.not_lt.mp hc) acc rest

theorem readUnits_body (cs : List Char) (acc : List Nat) (rest : List Char) :
    readUnits acc (cs.flatMap (encodeChar false) ++ '"' :: rest) =
      some (acc.reverse ++ cs.map Char.toNat, rest) := by
  induction cs generalizing acc with
  | nil => simp [readUnits]
  | cons c cs ih =>
    rw [List.flatMap_cons, List.append_assoc, readUnits_encodeChar, ih]
    simp

/-- No character is half of a pair. -/
theorem isHalf_toNat (c : Char) : Text.isHalf c.toNat = false := by
  have hvalid : c.toNat < 0xd800 ∨ 0xdfff < c.toNat ∧ c.toNat < 0x110000 := c.valid
  simp only [Text.isHalf, Bool.and_eq_false_iff, decide_eq_false_iff_not]
  omega

theorem joinUnits_of_no_half {units : List Nat} (h : ∀ n ∈ units, Text.isHalf n = false) :
    joinUnits units = units := by
  induction units using joinUnits.induct with
  | case1 => rfl
  | case2 n => rfl
  | case3 n m rest hpair =>
    have hn := h n List.mem_cons_self
    simp only [Text.isHalf, Bool.and_eq_false_iff, decide_eq_false_iff_not] at hn
    omega
  | case4 n m rest hpair ih =>
    rw [joinUnits, if_neg hpair, ih fun k hk => h k (List.mem_cons_of_mem _ hk)]

theorem textOfPoints_toNat (cs : List Char) : textOfPoints (cs.map Char.toNat) = .text (String.ofList cs) := by
  rw [textOfPoints, if_neg]
  · rw [List.map_map]
    have hback : Char.ofNat ∘ Char.toNat = id := funext Char.ofNat_toNat
    rw [hback, List.map_id]
  · simp only [List.any_map, List.any_eq_true, not_exists, not_and]
    intro c _ h
    exact Bool.false_ne_true ((isHalf_toNat c).symm.trans h)

/-- A text is read up to its own closing quote. -/
theorem readText_body (s : String) (rest : List Char) :
    readText (s.toList.flatMap (encodeChar false) ++ '"' :: rest) = some (.text s, rest) := by
  have hunits : joinUnits (s.toList.map Char.toNat) = s.toList.map Char.toNat :=
    joinUnits_of_no_half (List.forall_mem_map.mpr fun c _ => isHalf_toNat c)
  rw [readText, readUnits_body, Option.map_some, List.reverse_nil, List.nil_append]
  dsimp only
  rw [hunits, textOfPoints_toNat, String.ofList_toList]

/-! ## Integers -/

/-- What may stand behind a value: nothing, or the comma or bracket that goes on from there. -/
def Closed (rest : List Char) : Prop := ∀ c ∈ rest.head?, c = ',' ∨ c = ']' ∨ c = '\x7d'

theorem closed_nil : Closed [] := nofun

theorem closed_comma (rest : List Char) : Closed (',' :: rest) := by
  rintro c ⟨⟩
  exact .inl rfl

theorem closed_bracket (rest : List Char) : Closed (']' :: rest) := by
  rintro c ⟨⟩
  exact .inr (.inl rfl)

theorem closed_brace (rest : List Char) : Closed ('\x7d' :: rest) := by
  rintro c ⟨⟩
  exact .inr (.inr rfl)

theorem digitValue?_of_isDigit {c : Char} (hc : c.isDigit = true) :
    Text.digitValue? c = some (c.toNat - '0'.toNat) := by
  have hrange : '0' ≤ c ∧ c ≤ '9' := by
    simpa [Char.isDigit, Char.le_def] using hc
  simp only [Text.digitValue?, hrange.1, hrange.2, decide_true, Bool.and_self, if_true]

theorem readDigits_of_closed {rest : List Char} (hrest : Closed rest) (acc count : Nat) :
    Text.readDigits acc count rest = (acc, count, rest) := by
  cases rest with
  | nil => rfl
  | cons c cs => rcases hrest c rfl with rfl | rfl | rfl <;> rfl

theorem readFraction_of_closed {rest : List Char} (hrest : Closed rest) (acc : Nat) :
    readFraction acc rest = none := by
  cases rest with
  | nil => rfl
  | cons c cs => rcases hrest c rfl with rfl | rfl | rfl <;> rfl

theorem readExponent_of_closed {rest : List Char} (hrest : Closed rest) : readExponent rest = none := by
  cases rest with
  | nil => rfl
  | cons c cs => rcases hrest c rfl with rfl | rfl | rfl <;> rfl

theorem readDigits_append {digits rest : List Char} (hdigits : ∀ c ∈ digits, c.isDigit = true)
    (hrest : Closed rest) (acc count : Nat) :
    Text.readDigits acc count (digits ++ rest) =
      (Nat.ofDigitChars 10 digits acc, count + digits.length, rest) := by
  induction digits generalizing acc count with
  | nil => exact readDigits_of_closed hrest acc count
  | cons c cs ih =>
    rw [List.cons_append, Text.readDigits, digitValue?_of_isDigit (hdigits c List.mem_cons_self)]
    dsimp only
    rw [ih fun d hd => hdigits d (List.mem_cons_of_mem c hd), Nat.ofDigitChars_cons, List.length_cons,
      Nat.add_assoc, Nat.add_comm 1]

/-- Only zero itself begins with a zero. -/
theorem toDigits_eq_zero_cons {n : Nat} {cs : List Char} (h : Nat.toDigits 10 n = '0' :: cs) :
    n = 0 ∧ cs = [] := by
  induction n using Nat.strongRecOn generalizing cs with
  | ind n ih =>
    rw [Nat.toDigits_eq_if (by decide)] at h
    split at h
    · obtain ⟨hzero, rfl⟩ := List.cons_eq_cons.mp h
      exact ⟨Nat.digitChar_eq_zero.mp hzero, rfl⟩
    · next hn =>
      cases hdigits : Nat.toDigits 10 (n / 10) with
      | nil => exact absurd hdigits Nat.toDigits_ne_nil
      | cons d ds =>
        rw [hdigits, List.cons_append] at h
        obtain ⟨rfl, -⟩ := List.cons_eq_cons.mp h
        have hzero := (ih (n / 10) (by omega) hdigits).1
        omega

theorem readNumber_toDigits {limit n : Nat} (hlimit : (Nat.toDigits 10 n).length ≤ limit) {rest : List Char}
    (hrest : Closed rest) (negative : Bool) :
    readNumber limit negative (Nat.toDigits 10 n ++ rest) =
      some (.int (if negative then -(n : Int) else n), rest) := by
  have hfraction := readFraction_of_closed hrest
  have hexponent := readExponent_of_closed hrest
  have hdigits : ∀ c ∈ Nat.toDigits 10 n, c.isDigit = true := fun c hc =>
    Nat.isDigit_of_mem_toDigits (by decide) (by decide) hc
  have hread := readDigits_append hdigits hrest 0 0
  rw [Nat.ofDigitChars_ten_toDigits, Nat.zero_add] at hread
  have hcount : (Nat.toDigits 10 n).length ≠ 0 := Nat.ne_of_gt Nat.length_toDigits_pos
  rw [readNumber.eq_def]
  dsimp only
  split
  · next after hzero =>
    -- the reader stops behind a leading zero, which is right as nothing but zero begins with one
    obtain ⟨hn, hafter⟩ : n = 0 ∧ rest = after := by
      cases hdigits : Nat.toDigits 10 n with
      | nil => exact absurd hdigits Nat.toDigits_ne_nil
      | cons d ds =>
        rw [hdigits, List.cons_append] at hzero
        obtain ⟨rfl, htail⟩ := List.cons_eq_cons.mp hzero
        obtain ⟨hn, rfl⟩ := toDigits_eq_zero_cons hdigits
        exact ⟨hn, htail⟩
    subst hn hafter
    have hone : ¬ limit < 1 := Nat.not_lt.mpr hlimit
    simp only [Option.bind_some, hfraction, hexponent, hone, if_false]
  · simp only [hread, hcount, if_false, Option.bind_some, hfraction, hexponent, Nat.not_lt.mpr hlimit]

theorem readAtom_of_isDigit {c : Char} (hc : c.isDigit = true) (limit : Nat) (cs : List Char) :
    readAtom limit (c :: cs) = readNumber limit false (c :: cs) ∧
      readAtom limit ('-' :: c :: cs) = readNumber limit true (c :: cs) := by
  constructor
  · rw [readAtom.eq_def]
    split
    case h_8 => rfl
    all_goals
      next h =>
        obtain ⟨rfl, -⟩ := List.cons_eq_cons.mp h
        exact absurd hc (by decide)
  · rw [readAtom.eq_def]
    split
    case h_7 h => rw [(List.cons_eq_cons.mp h).2]
    case h_6 h =>
      obtain ⟨rfl, -⟩ := List.cons_eq_cons.mp (List.cons_eq_cons.mp h).2
      exact absurd hc (by decide)
    case h_8 hother => exact absurd rfl (hother _)
    all_goals
      next h => exact absurd (List.cons_eq_cons.mp h).1 (by decide)

theorem toString_natCast_toList (k : Nat) : (toString (k : Int)).toList = Nat.toDigits 10 k := by
  rw [Int.toString_eq_repr, Int.repr_eq_if, if_pos (Int.natCast_nonneg k), Int.toNat_natCast, Nat.toList_repr]

theorem toString_negSucc_toList (k : Nat) :
    (toString (Int.negSucc k)).toList = '-' :: Nat.toDigits 10 (k + 1) := by
  rw [Int.toString_eq_repr, Int.repr_eq_if, if_neg (by omega), String.toList_append, Nat.toList_repr]
  rfl

/-- An integer begins with a digit, behind a sign if it is negative. -/
theorem exists_digit (n : Nat) : ∃ c cs, Nat.toDigits 10 n = c :: cs ∧ c.isDigit = true := by
  cases hdigits : Nat.toDigits 10 n with
  | nil => exact absurd hdigits Nat.toDigits_ne_nil
  | cons c cs =>
    exact ⟨c, cs, rfl, Nat.isDigit_of_mem_toDigits (by decide) (by decide) (hdigits ▸ List.mem_cons_self)⟩

/-- An integer is read up to where its digits end. -/
theorem readAtom_int {limit : Nat} {n : Int} (hlimit : (Nat.toDigits 10 n.natAbs).length ≤ limit)
    {rest : List Char} (hrest : Closed rest) :
    readAtom limit ((toString n).toList ++ rest) = some (.int n, rest) := by
  obtain ⟨c, cs, hdigits, hc⟩ := exists_digit n.natAbs
  have hread := readNumber_toDigits hlimit hrest
  rw [hdigits, List.cons_append] at hread
  cases n with
  | ofNat k =>
    rw [Int.ofNat_eq_natCast, toString_natCast_toList]
    rw [Int.ofNat_eq_natCast, Int.natAbs_natCast] at hdigits hread
    rw [hdigits, List.cons_append, (readAtom_of_isDigit hc limit _).1, hread]
    rfl
  | negSucc k =>
    rw [toString_negSucc_toList]
    rw [Int.natAbs_negSucc] at hdigits hread
    rw [hdigits, List.cons_append, List.cons_append, (readAtom_of_isDigit hc limit _).2, hread]
    rfl

/-! ## No control characters -/

/-- There is no control character. -/
def Printable (cs : List Char) : Prop := ∀ c ∈ cs, 32 ≤ c.toNat

instance (cs : List Char) : Decidable (Printable cs) := List.decidableBAll _ cs

theorem printable_append {cs more : List Char} : Printable (cs ++ more) ↔ Printable cs ∧ Printable more :=
  List.forall_mem_append

theorem printable_cons {c : Char} {cs : List Char} : Printable (c :: cs) ↔ 32 ≤ c.toNat ∧ Printable cs :=
  List.forall_mem_cons

theorem printable_nil : Printable [] := nofun

theorem printable_hexDigit (n : Nat) : 32 ≤ (hexDigit n).toNat := by
  have hsmall : ∀ k < 16, 32 ≤ (hexDigit k).toNat := by decide
  rw [hexDigit_mod]
  exact hsmall (n % 16) (Nat.mod_lt n (by decide))

theorem printable_encodeChar (c : Char) : Printable (encodeChar false c) := by
  rw [encodeChar]
  iterate 7
    split
    · decide
  split
  · simp only [escapeUnit, printable_cons, printable_hexDigit, printable_nil, and_true]
    decide
  · next hc => exact printable_cons.mpr ⟨Nat.not_lt.mp hc, printable_nil⟩

theorem printable_quote (s : String) : Printable (quote false s) := by
  have hbody : Printable (s.toList.flatMap (encodeChar false)) := fun d hd => by
    obtain ⟨c, -, hc⟩ := List.mem_flatMap.mp hd
    exact printable_encodeChar c d hc
  simp only [quote, List.cons_append, printable_cons, printable_append, hbody, printable_nil, and_true, true_and]
  decide

theorem printable_toDigits (n : Nat) : Printable (Nat.toDigits 10 n) := by
  intro c hc
  have hdigit := Nat.isDigit_of_mem_toDigits (by decide) (by decide) hc
  simp only [Char.isDigit, Bool.and_eq_true, decide_eq_true_eq, ge_iff_le, UInt32.le_iff_toNat_le] at hdigit
  exact Nat.le_trans (by decide) hdigit.1

theorem printable_int (n : Int) : Printable (toString n).toList := by
  cases n with
  | ofNat k =>
    rw [Int.ofNat_eq_natCast, toString_natCast_toList]
    exact printable_toDigits k
  | negSucc k =>
    rw [toString_negSucc_toList]
    exact printable_cons.mpr ⟨by decide, printable_toDigits (k + 1)⟩

end Json
end GitPractice
