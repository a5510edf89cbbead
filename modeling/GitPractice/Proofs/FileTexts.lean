import GitPractice.Settings.File

/-!
# The size of a written file

A file of two bytes or less does not count as filled. What is saved in YAML always
has more, and what is saved in JSON has more unless it is the empty record
(`Settings.two_lt_size`). For YAML this is shown along the writing: a sheet never
becomes shorter, and the first key with its colon already is two characters, after
which the line has still to be ended.
-/

namespace GitPractice

theorem Text.length_le_size (cs : List Char) : cs.length ≤ (String.ofList cs).utf8ByteSize := by
  induction cs with
  | nil => exact Nat.zero_le _
  | cons c cs ih =>
    rw [String.ofList_cons, String.utf8ByteSize_append, String.utf8ByteSize_singleton, List.length_cons]
    have hpos := Char.utf8Size_pos c
    omega

theorem Json.two_lt_length (entry : Scalar × Value) (rest : Fields) (depth : Nat) :
    2 < (Json.indented true depth (.record (entry :: rest))).length := by
  rw [Json.indented]
  · simp only [List.length_append, List.length_cons, List.length_nil, Json.newLine, List.length_replicate]
    omega
  · nofun

namespace Yaml

namespace Sheet

/-- How much is written once the line that has begun is ended. -/
def extent (s : Sheet) : Nat := s.written.length + min s.column 1

variable (s : Sheet)

theorem extent_le (s : Sheet) : s.extent ≤ s.written.length + 1 := by
  rw [extent]
  omega

theorem extent_write (cs : List Char) : s.extent ≤ (s.write cs).extent := by
  simp only [extent, write, List.length_append, List.length_reverse]
  omega

theorem extent_write_of_ne_nil {cs : List Char} (h : cs ≠ []) :
    (s.write cs).extent = s.written.length + cs.length + 1 := by
  have hpos : 0 < cs.length := List.length_pos_iff.mpr h
  simp only [extent, write, List.length_append, List.length_reverse]
  omega

theorem extent_lt_write (cs : List Char) (h : cs ≠ []) : s.extent + 1 ≤ (s.write cs).extent := by
  have hpos : 0 < cs.length := List.length_pos_iff.mpr h
  have hle := s.extent_le
  rw [s.extent_write_of_ne_nil h]
  omega

theorem extent_breakLineWith (c : Char) : s.extent ≤ (s.breakLineWith c).extent := by
  have hle := s.extent_le
  simp only [extent, breakLineWith, List.length_cons] at hle ⊢
  omega

theorem extent_breakLine : s.extent ≤ s.breakLine.extent := s.extent_breakLineWith '\n'

theorem extent_goTo (indent : Nat) : s.extent ≤ (s.goTo indent).extent := by
  have hline (b : Bool) : s.extent ≤ (if b = true then s.breakLine else s).extent := by
    cases b with
    | true => exact s.extent_breakLine
    | false => exact Nat.le_refl _
  have hfill (t : Sheet) : t.extent ≤ (if t.column < indent then
      { t.write (List.replicate (indent - t.column) ' ') with isAfterBlank := true } else t).extent := by
    split
    · exact t.extent_write _
    · exact Nat.le_refl _
  exact Nat.le_trans (hline _) (hfill _)

theorem extent_writeSign (sign : Char) : s.extent + 1 ≤ (s.writeSign sign).extent :=
  s.extent_lt_write (if s.isAfterBlank then [sign] else [' ', sign]) (by split <;> nofun)

theorem extent_sign (indent : Nat) (sign : Char) : s.extent ≤ ((s.goTo indent).writeSign sign).extent :=
  Nat.le_trans (s.extent_goTo indent) (Nat.le_of_succ_le ((s.goTo indent).extent_writeSign sign))

theorem extent_writeMark (isApart : Bool) (cs : List Char) (h : cs ≠ []) :
    s.extent + 1 ≤ (s.writeMark isApart cs).extent := by
  refine s.extent_lt_write (if isApart && !s.isAfterBlank then ' ' :: cs else cs) ?_
  split
  · nofun
  · exact h

/-- To end the line is to write all that counts. -/
theorem extent_le_length_goTo : s.extent ≤ (s.goTo 0).written.length := by
  have hfill (t : Sheet) : (if t.column < 0 then
      { t.write (List.replicate (0 - t.column) ' ') with isAfterBlank := true } else t) = t :=
    if_neg (Nat.not_lt_zero _)
  rw [goTo, hfill]
  split
  · exact s.extent_le
  next hstays =>
    simp only [Bool.or_eq_true, decide_eq_true_eq, not_or, Nat.not_lt, Nat.le_zero] at hstays
    rw [extent, hstays.1.2]
    exact Nat.le_refl _

end Sheet

/-! ## No sheet becomes shorter -/

section

variable (s : Sheet) (mayBreak : Bool) (indent : Nat)

theorem extent_writePlainRuns (isFirst : Bool) (parts : List (List Nat)) :
    s.extent ≤ (writePlainRuns mayBreak indent isFirst s parts).extent := by
  induction parts generalizing s isFirst with
  | nil => exact Nat.le_refl _
  | cons run rest ih =>
    rw [writePlainRuns]
    split
    · exact Nat.le_trans (s.extent_goTo indent) (ih { s.goTo indent with isAfterBlank := false, isIndented := false } _)
    · exact Nat.le_trans (s.extent_write _) (ih _ _)

theorem extent_writePlain (points : List Nat) : s.extent ≤ (writePlain s mayBreak indent points).extent := by
  have hruns (t : Sheet) : t.extent ≤ (writePlainRuns mayBreak indent true
      { t with isAfterBlank := false, isIndented := false } (runs points)).extent :=
    extent_writePlainRuns { t with isAfterBlank := false, isIndented := false } mayBreak indent true (runs points)
  rw [writePlain]
  split
  · exact Nat.le_refl _
  · refine Nat.le_trans ?_ (hruns _)
    split
    · exact Nat.le_refl _
    · exact s.extent_write _

theorem extent_writeBreaks (run : List Nat) : s.extent ≤ (writeBreaks s run).extent := by
  have hbreaks : ∀ (points : List Nat) (t : Sheet),
      t.extent ≤ (points.foldl (fun t n => t.breakLineWith (Char.ofNat n)) t).extent := by
    intro points
    induction points with
    | nil => exact fun t => Nat.le_refl _
    | cons n rest ih => exact fun t => Nat.le_trans (t.extent_breakLineWith _) (ih _)
  refine Nat.le_trans ?_ (hbreaks run _)
  split
  · exact s.extent_breakLine
  · exact Nat.le_refl _

theorem extent_writeSingleRuns (isFirst : Bool) (parts : List (List Nat)) :
    s.extent ≤ (writeSingleRuns mayBreak indent isFirst s parts).extent := by
  induction parts generalizing s isFirst with
  | nil => exact Nat.le_refl _
  | cons run rest ih =>
    rw [writeSingleRuns]
    refine Nat.le_trans ?_ (ih _ _)
    split
    · split
      · exact s.extent_goTo indent
      · exact s.extent_write _
    · split
      · exact Nat.le_trans (extent_writeBreaks s run) (Sheet.extent_goTo _ indent)
      · exact s.extent_write _

theorem extent_continueLine (rest : List Nat) : s.extent ≤ (continueLine s indent rest).extent := by
  have hline : s.extent ≤ ((s.write ['\\']).goTo indent).extent :=
    Nat.le_trans (s.extent_write _) (Sheet.extent_goTo _ indent)
  rw [continueLine]
  dsimp only
  split
  · exact Nat.le_trans hline
      (Sheet.extent_write { (s.write ['\\']).goTo indent with isAfterBlank := false, isIndented := false } _)
  · exact hline

theorem extent_writeDoubleInside (isFirst : Bool) (pending points : List Nat) :
    s.extent ≤ (writeDoubleInside mayBreak indent isFirst s pending points).extent := by
  induction points generalizing s isFirst pending with
  | nil => exact s.extent_write _
  | cons n rest ih =>
    rw [writeDoubleInside]
    dsimp only
    split
    next escape _ =>
      have hescape := Nat.le_trans (s.extent_write (charsOfPoints pending.reverse)) (Sheet.extent_write _ escape)
      refine Nat.le_trans ?_ (ih _ _ _)
      split
      · exact Nat.le_trans hescape (extent_continueLine _ indent rest)
      · exact hescape
    next =>
      split
      · refine Nat.le_trans ?_ (ih _ _ _)
        exact Nat.le_trans (s.extent_write _) (extent_continueLine _ indent (n :: rest))
      · exact ih _ _ _

/-- Both quotes are written. -/
theorem extent_writeSingle (points : List Nat) : s.extent + 2 ≤ (writeSingle s mayBreak indent points).extent := by
  have hopen := s.extent_writeMark true ['\''] nofun
  have hinside := extent_writeSingleRuns (s.writeMark true ['\'']) mayBreak indent true (runs points)
  have hclose := Sheet.extent_writeMark
    (writeSingleRuns mayBreak indent true (s.writeMark true ['\'']) (runs points)) false ['\''] nofun
  rw [writeSingle]
  omega

theorem extent_writeDouble (points : List Nat) : s.extent + 2 ≤ (writeDouble s mayBreak indent points).extent := by
  have hopen := s.extent_writeMark true ['"'] nofun
  have hinside := extent_writeDoubleInside (s.writeMark true ['"']) mayBreak indent true [] points
  have hclose := Sheet.extent_writeMark
    (writeDoubleInside mayBreak indent true (s.writeMark true ['"']) [] points) false ['"'] nofun
  rw [writeDouble]
  omega

theorem extent_writeScalar (isKey : Bool) (a : Scalar) : s.extent ≤ (writeScalar s isKey indent a).extent := by
  rw [writeScalar]
  dsimp only
  split
  · exact extent_writePlain s _ indent _
  · exact Nat.le_trans (Nat.le_add_right _ 2) (extent_writeSingle s _ indent _)
  · exact Nat.le_trans (Nat.le_add_right _ 2) (extent_writeDouble s _ indent _)

end

theorem runs_ne_nil {points : List Nat} (h : points ≠ []) :
    ∃ run rest, runs points = run :: rest ∧ run ≠ [] := by
  cases points with
  | nil => exact absurd rfl h
  | cons n rest =>
    rw [runs]
    split
    · split
      · exact ⟨_, _, rfl, nofun⟩
      · exact ⟨_, _, rfl, nofun⟩
    · exact ⟨_, _, rfl, nofun⟩

theorem two_le_extent_writePlain (mayBreak : Bool) (indent : Nat) {points : List Nat} (h : points ≠ []) :
    2 ≤ (writePlain {} mayBreak indent points).extent := by
  obtain ⟨run, rest, hruns, hrun⟩ := runs_ne_nil h
  have hfirst : 2 ≤ (Sheet.write { isAfterBlank := false, isIndented := false } (charsOfPoints run)).extent := by
    rw [Sheet.extent_write_of_ne_nil _ (by simpa [charsOfPoints] using hrun)]
    have hpos : 0 < (charsOfPoints run).length := by simpa [charsOfPoints, List.length_pos_iff] using hrun
    omega
  have hinside : breaksAt { isAfterBlank := false, isIndented := false } mayBreak false run = false := by
    rw [breaksAt, Bool.and_false]
  rw [writePlain, if_neg (by simpa using h), hruns]
  show 2 ≤ (writePlainRuns mayBreak indent true { isAfterBlank := false, isIndented := false } (run :: rest)).extent
  rw [writePlainRuns, Bool.not_true, Bool.false_and, hinside, Bool.and_false, if_neg (by decide)]
  exact Nat.le_trans hfirst (extent_writePlainRuns _ mayBreak indent false rest)

/-- A key that needs no mark is not empty. -/
theorem two_le_extent_writeScalar {a : Scalar} (h : isSimpleKey a = true) (indent : Nat) :
    2 ≤ (writeScalar {} true indent a).extent := by
  have hpoints : (scalarText a).1 ≠ [] := by
    simp only [isSimpleKey, Bool.and_eq_true, Bool.not_eq_true', List.isEmpty_eq_false_iff] at h
    exact h.1.2
  rw [writeScalar]
  dsimp only
  split
  · exact two_le_extent_writePlain _ indent hpoints
  · exact Nat.le_trans (Nat.le_add_left 2 _) (extent_writeSingle {} _ indent _)
  · exact Nat.le_trans (Nat.le_add_left 2 _) (extent_writeDouble {} _ indent _)

/-- The key of an entry with the sign behind it, as an entry is written. -/
def writeKey (column : Nat) (s : Sheet) (key : Scalar) : Sheet :=
  if isSimpleKey key then (writeScalar s true (column + 2) key).writeMark false [':']
  else ((writeScalar (s.writeSign '?') false (column + 2) key).goTo column).writeSign ':'

theorem extent_writeKey (column : Nat) (s : Sheet) (key : Scalar) : s.extent ≤ (writeKey column s key).extent := by
  rw [writeKey]
  split
  · have hscalar := extent_writeScalar s (column + 2) true key
    have hmark := Sheet.extent_writeMark (writeScalar s true (column + 2) key) false [':'] nofun
    omega
  · have hsign := s.extent_writeSign '?'
    have hscalar := extent_writeScalar (s.writeSign '?') (column + 2) false key
    have hline := Sheet.extent_goTo (writeScalar (s.writeSign '?') false (column + 2) key) column
    have hcolon := Sheet.extent_writeSign ((writeScalar (s.writeSign '?') false (column + 2) key).goTo column) ':'
    omega

theorem three_le_extent_writeKey (column : Nat) (key : Scalar) : 3 ≤ (writeKey column {} key).extent := by
  rw [writeKey]
  split
  next hsimple =>
    have hscalar := two_le_extent_writeScalar hsimple (column + 2)
    have hmark := Sheet.extent_writeMark (writeScalar {} true (column + 2) key) false [':'] nofun
    omega
  next =>
    have hsign : 2 ≤ (Sheet.writeSign {} '?').extent := by decide
    have hscalar := extent_writeScalar (Sheet.writeSign {} '?') (column + 2) false key
    have hline := Sheet.extent_goTo (writeScalar (Sheet.writeSign {} '?') false (column + 2) key) column
    have hcolon := Sheet.extent_writeSign
      ((writeScalar (Sheet.writeSign {} '?') false (column + 2) key).goTo column) ':'
    omega

mutual

theorem extent_writeValue (indent : Option Nat) (inEntry : Bool) (s : Sheet) :
    ∀ v : Value, s.extent ≤ (writeValue indent inEntry s v).extent
  | .atom a => by
    rw [writeValue]
    exact extent_writeScalar s _ false a
  | .list [] => by
    rw [writeValue]
    have hopen := s.extent_writeMark true ['['] nofun
    have hclose := Sheet.extent_writeMark (s.writeMark true ['[']) false [']'] nofun
    omega
  | .list (item :: rest) => by
    rw [writeValue]
    · exact extent_writeItems _ s (item :: rest)
    · nofun
  | .pair first second => by
    rw [writeValue]
    have hfirst := extent_writeValue (some (innerIndent indent)) false ((s.goTo (innerIndent indent)).writeSign '-') first
    refine Nat.le_trans ?_ (extent_writeValue _ false _ second)
    exact Nat.le_trans (s.extent_sign _ '-') (Nat.le_trans hfirst (Sheet.extent_sign _ _ '-'))
  | .record [] => by
    rw [writeValue]
    have hopen := s.extent_writeMark true ['\x7b'] nofun
    have hclose := Sheet.extent_writeMark (s.writeMark true ['\x7b']) false ['\x7d'] nofun
    omega
  | .record (entry :: rest) => by
    rw [writeValue]
    · exact extent_writeEntries _ s (entry :: rest)
    · nofun
  | .set _ => Nat.le_refl _
  | .shared _ => Nat.le_refl _
  | .recurrence _ => Nat.le_refl _

theorem extent_writeItems (column : Nat) (s : Sheet) :
    ∀ items : List Value, s.extent ≤ (writeItems column s items).extent
  | [] => Nat.le_refl _
  | item :: rest => by
    rw [writeItems]
    refine Nat.le_trans ?_ (extent_writeItems column _ rest)
    exact Nat.le_trans (s.extent_sign column '-') (extent_writeValue _ false _ item)

theorem extent_writeEntries (column : Nat) (s : Sheet) :
    ∀ fields : List (Scalar × Value), s.extent ≤ (writeEntries column s fields).extent
  | [] => Nat.le_refl _
  | (key, value) :: rest => by
    rw [writeEntries]
    refine Nat.le_trans ?_ (extent_writeEntries column _ rest)
    refine Nat.le_trans ?_ (extent_writeValue _ true _ value)
    exact Nat.le_trans (s.extent_goTo column) (extent_writeKey column (s.goTo column) key)

end

theorem two_lt_length (fields : Fields) :
    2 < ((writeValue none false {} (sorted (.record fields))).goTo 0).written.reverse.length := by
  rw [List.length_reverse]
  refine Nat.lt_of_lt_of_le ?_ (Sheet.extent_le_length_goTo _)
  rw [sorted]
  cases hsorted : (sortedEntries fields).mergeSort fun f g => decide (keyText f.1 ≤ keyText g.1) with
  | nil => decide
  | cons entry rest =>
    obtain ⟨key, value⟩ := entry
    have hstart : Sheet.goTo {} 0 = {} := rfl
    rw [writeValue, writeEntries]
    · show 2 < (writeEntries 0 (writeValue (some 0) true (writeKey 0 (Sheet.goTo {} 0) key) value) rest).extent
      have hkey := three_le_extent_writeKey 0 key
      have hvalue := extent_writeValue (some 0) true (writeKey 0 {} key) value
      have hrest := extent_writeEntries 0 (writeValue (some 0) true (writeKey 0 {} key) value) rest
      rw [hstart]
      omega
    · nofun

end Yaml

namespace Settings

/-- What is saved counts as filled, except for the empty record in JSON. -/
theorem two_lt_size {format : Format} {fields : Fields} (h : format = .yaml ∨ fields ≠ []) :
    2 < (Content.text (Home.fileText format fields)).size := by
  have hjson (hne : fields ≠ []) : 2 < (String.ofList (Json.indented true 0 (.record fields))).utf8ByteSize := by
    cases fields with
    | nil => exact absurd rfl hne
    | cons entry rest => exact Nat.lt_of_lt_of_le (Json.two_lt_length entry rest 0) (Text.length_le_size _)
  cases format with
  | json => exact hjson (h.resolve_left nofun)
  | toml => exact hjson (h.resolve_left nofun)
  | yaml => exact Nat.lt_of_lt_of_le (Yaml.two_lt_length fields) (Text.length_le_size _)

theorem size_of_empty {format : Format} (h : format ≠ .yaml) : (Content.text (Home.fileText format [])).size = 2 := by
  cases format with
  | json => decide +kernel
  | toml => decide +kernel
  | yaml => exact absurd rfl h

end Settings
end GitPractice
