import GitPractice.Proofs.JsonTexts

/-!
# What is written in JSON is read back

A value on one line, with its characters as they are, is read back as it was, and a
record keeps the order of its keys. That holds at any place where values stand, in
front of the comma or the bracket that follows (`Json.Plain.readsBack`), so it passes
from the values inside of a list or a record to the whole.

A value has no control character in its text (`Json.Plain.printable`). So it never
breaks its line.
-/

namespace GitPractice

namespace Fields

theorem foldl_set_of_distinct {before fields : Fields}
    (h : (before ++ fields).Pairwise fun f g => f.1.same g.1 = false) :
    fields.foldl (fun fields entry => fields.set entry.1 entry.2) before = before ++ fields := by
  induction fields generalizing before with
  | nil => rw [List.foldl_nil, List.append_nil]
  | cons entry rest ih =>
    have hnew : ∀ other ∈ before, other.1.same entry.1 = false := fun other hother =>
      (List.pairwise_append.mp h).2.2 other hother entry List.mem_cons_self
    rw [List.append_cons] at h
    rw [List.foldl_cons, set_of_new hnew, ih h, ← List.append_cons]

/-- Entries with different keys are a record as they stand. -/
theorem ofEntries_of_distinct {fields : Fields} (h : fields.Pairwise fun f g => f.1.same g.1 = false) :
    ofEntries fields = fields := foldl_set_of_distinct h

end Fields

namespace Json

/-! ## Lists and records -/

/-- Where a value or an entry begins there stands no space and no bracket that closes. -/
def Begun (cs : List Char) : Prop := ∃ c tail, cs = c :: tail ∧ isSpace c = false ∧ c ≠ ']' ∧ c ≠ '\x7d'

section Readers

variable {limit fuel : Nat} {cs more rest : List Char} {v : Value}

theorem Begun.append (h : Begun cs) (more : List Char) : Begun (cs ++ more) := by
  obtain ⟨c, tail, rfl, hc⟩ := h
  exact ⟨c, tail ++ more, rfl, hc⟩

theorem Begun.skipSpace (h : Begun cs) : skipSpace cs = cs := by
  obtain ⟨c, tail, rfl, hspace, -⟩ := h
  rw [Json.skipSpace, List.dropWhile_cons, hspace]
  rfl

theorem begun_quote (cs : List Char) : Begun ('"' :: cs) := ⟨'"', cs, rfl, by decide⟩

theorem readValue_list (h : Begun cs) : readValue limit (fuel + 1) ('[' :: cs) = readItems limit fuel [] cs := by
  rw [readValue, h.skipSpace]
  obtain ⟨c, tail, rfl, -, hc, -⟩ := h
  split
  · next heq => exact absurd (List.cons_eq_cons.mp heq).1 hc
  · rfl

theorem readValue_record (h : Begun cs) :
    readValue limit (fuel + 1) ('\x7b' :: cs) = readEntries limit fuel [] cs := by
  rw [readValue, h.skipSpace]
  obtain ⟨c, tail, rfl, -, -, hc⟩ := h
  split
  · next heq => exact absurd (List.cons_eq_cons.mp heq).1 hc
  · rfl

theorem readItems_comma {acc : List Value} (hread : readValue limit fuel cs = some (v, ',' :: ' ' :: more))
    (hmore : Begun more) : readItems limit (fuel + 1) acc cs = readItems limit fuel (v :: acc) more := by
  rw [readItems, hread]
  show readItems limit fuel (v :: acc) (skipSpace more) = _
  rw [hmore.skipSpace]

theorem readItems_bracket {acc : List Value} (hread : readValue limit fuel cs = some (v, ']' :: rest)) :
    readItems limit (fuel + 1) acc cs = some (.list (v :: acc).reverse, rest) := by
  rw [readItems, hread]
  rfl

/-- The key of an entry is read, and then the value behind it. -/
theorem readEntries_key {acc : Fields} (name : String) (h : Begun cs) :
    readEntries limit (fuel + 1) acc (key false (.text name) ++ ':' :: ' ' :: cs) =
      match readValue limit fuel cs with
      | none => none
      | some (v, rest) =>
        match skipSpace rest with
        | ',' :: rest => readEntries limit fuel ((.text name, v) :: acc) (skipSpace rest)
        | '\x7d' :: rest => some (.record (Fields.ofEntries ((.text name, v) :: acc).reverse), rest)
        | _ => none := by
  rw [key, quote, List.cons_append, List.cons_append, List.append_assoc, List.singleton_append, readEntries,
    readText_body]
  show (match readValue limit fuel (skipSpace cs) with | none => none | some (v, rest) => _) = _
  rewrite [h.skipSpace]
  rfl

theorem readEntries_comma {acc : Fields} {name : String} (h : Begun cs)
    (hread : readValue limit fuel cs = some (v, ',' :: ' ' :: more)) (hmore : Begun more) :
    readEntries limit (fuel + 1) acc (key false (.text name) ++ ':' :: ' ' :: cs) =
      readEntries limit fuel ((.text name, v) :: acc) more := by
  rw [readEntries_key name h, hread]
  show readEntries limit fuel _ (skipSpace more) = _
  rw [hmore.skipSpace]

theorem readEntries_brace {acc : Fields} {name : String} (h : Begun cs)
    (hread : readValue limit fuel cs = some (v, '\x7d' :: rest)) :
    readEntries limit (fuel + 1) acc (key false (.text name) ++ ':' :: ' ' :: cs) =
      some (.record (Fields.ofEntries ((.text name, v) :: acc).reverse), rest) := by
  rw [readEntries_key name h, hread]
  rfl

end Readers

/-! ## Values -/

/-- A value of the kinds that JSON has, in which every record is keyed by different texts. The limit is
any that no integer in the value has more digits than, as readers of JSON are given one. -/
inductive Plain (limit : Nat) : Value → Prop
  | null : Plain limit .null
  | bool (b : Bool) : Plain limit (.bool b)
  | text (s : String) : Plain limit (.text s)
  | int {n : Int} (digits : (Nat.toDigits 10 n.natAbs).length ≤ limit) : Plain limit (.int n)
  | list {items : List Value} (values : ∀ v ∈ items, Plain limit v) : Plain limit (.list items)
  | record {fields : Fields} {names : List String} (keys : fields.keys = names.map .text)
      (distinct : names.Nodup) (values : ∀ entry ∈ fields, Plain limit entry.2) :
      Plain limit (.record fields)

/-- The value begins as values do, and it is read back from its text, whatever goes on behind it. -/
structure ReadsBack (limit : Nat) (v : Value) : Prop where
  begun : Begun (compact false v)
  read : ∀ {fuel : Nat} {rest : List Char}, Closed rest → (compact false v).length ≤ fuel →
    readValue limit fuel (compact false v ++ rest) = some (v, rest)

section Kinds

variable {limit : Nat}

/-- As there is something to read, there is a call to spend. -/
theorem readsBack_of_succ {v : Value} (hbegun : Begun (compact false v))
    (hread : ∀ {fuel : Nat} {rest : List Char}, Closed rest → (compact false v).length ≤ fuel + 1 →
      readValue limit (fuel + 1) (compact false v ++ rest) = some (v, rest)) : ReadsBack limit v := by
  refine ⟨hbegun, fun {fuel rest} hrest hfuel => ?_⟩
  cases fuel with
  | zero =>
    obtain ⟨c, tail, htext, -⟩ := hbegun
    rw [htext] at hfuel
    cases hfuel
  | succ fuel => exact hread hrest hfuel

/-- Words and integers are read as what has no parts. -/
theorem readValue_atom {fuel : Nat} {c : Char} (hquote : c ≠ '"') (hbracket : c ≠ '[') (hbrace : c ≠ '\x7b')
    (cs : List Char) : readValue limit (fuel + 1) (c :: cs) = readAtom limit (c :: cs) := by
  rw [readValue.eq_def]
  dsimp only
  split
  · next h => exact absurd (List.cons_eq_cons.mp h).1 hquote
  · next h => exact absurd (List.cons_eq_cons.mp h).1 hbracket
  · next h => exact absurd (List.cons_eq_cons.mp h).1 hbrace
  · rfl

theorem readsBack_null : ReadsBack limit .null :=
  readsBack_of_succ ⟨'n', _, rfl, by decide⟩ fun _ _ => rfl

theorem readsBack_bool (b : Bool) : ReadsBack limit (.bool b) := by
  cases b
  · exact readsBack_of_succ ⟨'f', _, rfl, by decide⟩ fun _ _ => rfl
  · exact readsBack_of_succ ⟨'t', _, rfl, by decide⟩ fun _ _ => rfl

theorem readsBack_text (s : String) : ReadsBack limit (.text s) := by
  refine readsBack_of_succ (begun_quote _) fun {fuel rest} _ _ => ?_
  show readValue limit (fuel + 1) (quote false s ++ rest) = _
  rw [quote, List.cons_append, List.cons_append, List.append_assoc, List.singleton_append, readValue,
    readText_body]
  rfl

theorem readsBack_int {n : Int} (hdigits : (Nat.toDigits 10 n.natAbs).length ≤ limit) :
    ReadsBack limit (.int n) := by
  obtain ⟨c, cs, hcs, hc⟩ : ∃ c cs, (toString n).toList = c :: cs ∧ (c = '-' ∨ c.isDigit = true) := by
    cases n with
    | ofNat k =>
      obtain ⟨c, cs, hk, hc⟩ := exists_digit k
      exact ⟨c, cs, (toString_natCast_toList k).trans hk, .inr hc⟩
    | negSucc k => exact ⟨'-', _, toString_negSucc_toList k, .inl rfl⟩
  have hne {d : Char} (hminus : d ≠ '-') (hdigit : d.isDigit = false) : c ≠ d := by
    rintro rfl
    rcases hc with rfl | hc
    · exact hminus rfl
    · exact Bool.false_ne_true (hdigit.symm.trans hc)
  refine readsBack_of_succ ⟨c, cs, hcs, ?_, hne (by decide) rfl, hne (by decide) rfl⟩
    fun {fuel rest} hrest _ => ?_
  · simp only [isSpace, Bool.or_eq_false_iff, decide_eq_false_iff_not]
    exact ⟨⟨⟨hne (by decide) rfl, hne (by decide) rfl⟩, hne (by decide) rfl⟩, hne (by decide) rfl⟩
  · show readValue limit (fuel + 1) ((toString n).toList ++ rest) = _
    have hread := readAtom_int hdigits hrest
    rw [hcs, List.cons_append] at hread ⊢
    rw [readValue_atom (hne (by decide) rfl) (hne (by decide) rfl) (hne (by decide) rfl), hread]

theorem begun_items {v : Value} (h : ReadsBack limit v) (items : List Value) :
    Begun (compactItems false (v :: items)) := by
  cases items with
  | nil => exact h.begun
  | cons w items => exact h.begun.append _

theorem readItems_items {v : Value} {items : List Value} (h : ∀ w ∈ v :: items, ReadsBack limit w) {fuel : Nat}
    (hfuel : (compactItems false (v :: items)).length < fuel) (acc : List Value) (rest : List Char) :
    readItems limit fuel acc (compactItems false (v :: items) ++ ']' :: rest) =
      some (.list (acc.reverse ++ v :: items), rest) := by
  obtain ⟨hv, hitems⟩ := List.forall_mem_cons.mp h
  -- an item takes one call more, and the comma behind it pays for that
  induction items generalizing v fuel acc with
  | nil =>
    obtain ⟨fuel, rfl⟩ := Nat.exists_eq_add_one.mpr (Nat.zero_lt_of_lt hfuel)
    rw [compactItems] at hfuel ⊢
    rw [readItems_bracket (hv.read (closed_bracket rest) (Nat.le_of_lt_succ hfuel)), List.reverse_cons]
  | cons w items ih =>
    obtain ⟨fuel, rfl⟩ := Nat.exists_eq_add_one.mpr (Nat.zero_lt_of_lt hfuel)
    rw [compactItems, List.length_append, List.length_cons, List.length_cons] at hfuel
    obtain ⟨hw, hothers⟩ := List.forall_mem_cons.mp hitems
    have hread := hv.read (closed_comma (' ' :: (compactItems false (w :: items) ++ ']' :: rest)))
      (show (compact false v).length ≤ fuel by omega)
    rw [compactItems, List.append_assoc, List.cons_append, List.cons_append,
      readItems_comma hread ((begun_items hw items).append _), ih hitems (by omega) _ hw hothers,
      List.reverse_cons, List.append_assoc, List.singleton_append]

theorem readsBack_list {items : List Value} (h : ∀ v ∈ items, ReadsBack limit v) :
    ReadsBack limit (.list items) := by
  refine readsBack_of_succ ⟨'[', _, rfl, by decide⟩ fun {fuel rest} _ hfuel => ?_
  rw [compact, List.cons_append, List.cons_append, List.append_assoc, List.singleton_append]
  rw [compact, List.cons_append, List.length_cons, List.length_append, List.length_singleton] at hfuel
  cases items with
  | nil => rfl
  | cons v items =>
    rw [readValue_list ((begun_items (h v List.mem_cons_self) items).append _), readItems_items h (by omega)]
    rfl

theorem begun_fields (name : String) (v : Value) (fields : Fields) :
    Begun (compactFields false ((.text name, v) :: fields)) := by
  cases fields with
  | nil => exact begun_quote _
  | cons entry fields => exact begun_quote _

theorem readEntries_fields {name : String} {v : Value} {fields : Fields}
    (hkeys : ∀ entry ∈ fields, ∃ other : String, entry.1 = .text other)
    (h : ∀ entry ∈ (.text name, v) :: fields, ReadsBack limit entry.2) {fuel : Nat}
    (hfuel : (compactFields false ((.text name, v) :: fields)).length < fuel) (acc : Fields)
    (rest : List Char) :
    readEntries limit fuel acc (compactFields false ((.text name, v) :: fields) ++ '\x7d' :: rest) =
      some (.record (Fields.ofEntries (acc.reverse ++ (.text name, v) :: fields)), rest) := by
  obtain ⟨hv, hfields⟩ := List.forall_mem_cons.mp h
  induction fields generalizing name v fuel acc with
  | nil =>
    obtain ⟨fuel, rfl⟩ := Nat.exists_eq_add_one.mpr (Nat.zero_lt_of_lt hfuel)
    rw [compactFields, List.length_append, List.length_cons, List.length_cons] at hfuel
    have hread := hv.read (closed_brace rest) (show (compact false v).length ≤ fuel by omega)
    rw [compactFields, List.append_assoc, List.cons_append, List.cons_append,
      readEntries_brace (hv.begun.append _) hread, List.reverse_cons]
  | cons entry fields ih =>
    obtain ⟨fuel, rfl⟩ := Nat.exists_eq_add_one.mpr (Nat.zero_lt_of_lt hfuel)
    obtain ⟨⟨other, hother⟩, hafter⟩ := List.forall_mem_cons.mp hkeys
    obtain ⟨k, w⟩ := entry
    subst hother
    obtain ⟨hw, hothers⟩ := List.forall_mem_cons.mp hfields
    simp only [compactFields, List.length_append, List.length_cons] at hfuel
    have hread := hv.read
      (closed_comma (' ' :: (compactFields false ((.text other, w) :: fields) ++ '\x7d' :: rest)))
      (show (compact false v).length ≤ fuel by omega)
    rw [compactFields, List.append_assoc, List.append_assoc, List.cons_append, List.cons_append,
      List.cons_append, List.cons_append,
      readEntries_comma (hv.begun.append _) hread ((begun_fields other w fields).append _),
      ih hafter hfields (by omega) _ hw hothers, List.reverse_cons, List.append_assoc, List.singleton_append]

theorem readsBack_record {fields : Fields} (hkeys : ∀ entry ∈ fields, ∃ name : String, entry.1 = .text name)
    (hdistinct : Fields.ofEntries fields = fields) (h : ∀ entry ∈ fields, ReadsBack limit entry.2) :
    ReadsBack limit (.record fields) := by
  refine readsBack_of_succ ⟨'\x7b', _, rfl, by decide⟩ fun {fuel rest} _ hfuel => ?_
  rw [compact, List.cons_append, List.cons_append, List.append_assoc, List.singleton_append]
  rw [compact, List.cons_append, List.length_cons, List.length_append, List.length_singleton] at hfuel
  cases fields with
  | nil => rfl
  | cons entry fields =>
    obtain ⟨⟨name, hname⟩, hothers⟩ := List.forall_mem_cons.mp hkeys
    obtain ⟨k, v⟩ := entry
    subst hname
    rw [readValue_record ((begun_fields name v fields).append _), readEntries_fields hothers h (by omega),
      List.reverse_nil, List.nil_append, hdistinct]

end Kinds

namespace Plain

variable {limit : Nat} {v : Value}

theorem exists_text {fields : Fields} {names : List String} (keys : fields.keys = names.map .text) :
    ∀ entry ∈ fields, ∃ name : String, entry.1 = .text name := by
  intro entry hentry
  have hkey : entry.1 ∈ fields.keys := List.mem_map_of_mem hentry
  rw [keys] at hkey
  obtain ⟨name, -, hname⟩ := List.mem_map.mp hkey
  exact ⟨name, hname.symm⟩

theorem pairwise_keys {fields : Fields} {names : List String} (keys : fields.keys = names.map .text)
    (distinct : names.Nodup) : fields.Pairwise fun f g => f.1.same g.1 = false := by
  have hkeys : fields.keys.Pairwise fun k l => k.same l = false := by
    rw [keys, List.pairwise_map]
    refine distinct.imp fun hne => ?_
    rw [Bool.eq_false_iff, Ne, Scalar.same_text_iff, Scalar.text.injEq]
    exact hne
  exact List.pairwise_map.mp hkeys

theorem readsBack (h : Plain limit v) : ReadsBack limit v := by
  induction h with
  | null => exact readsBack_null
  | bool b => exact readsBack_bool b
  | text s => exact readsBack_text s
  | int digits => exact readsBack_int digits
  | list values ih => exact readsBack_list ih
  | record keys distinct values ih =>
    exact readsBack_record (exists_text keys) (Fields.ofEntries_of_distinct (pairwise_keys keys distinct)) ih

/-- What is written as a whole text is read as one. -/
theorem parseWithin_print (h : Plain limit v) : parseWithin limit (print v) = some v := by
  have hread := h.readsBack.read closed_nil
    (show (compact false v).length ≤ 2 * (compact false v).length + 2 by omega)
  rw [List.append_nil] at hread
  simp only [parseWithin, print, String.toList_ofList, h.readsBack.begun.skipSpace, hread]
  rfl

end Plain

/-! ## No value breaks its line -/

theorem printable_items {items : List Value} (h : ∀ v ∈ items, Printable (compact false v)) :
    Printable (compactItems false items) := by
  induction items with
  | nil => exact printable_nil
  | cons v items ih =>
    obtain ⟨hv, hitems⟩ := List.forall_mem_cons.mp h
    cases items with
    | nil => exact hv
    | cons w items =>
      simp only [compactItems, printable_append, printable_cons, hv, ih hitems, and_true, true_and]
      decide

theorem printable_fields {fields : Fields} (hkeys : ∀ entry ∈ fields, ∃ name : String, entry.1 = .text name)
    (h : ∀ entry ∈ fields, Printable (compact false entry.2)) : Printable (compactFields false fields) := by
  induction fields with
  | nil => exact printable_nil
  | cons entry fields ih =>
    obtain ⟨k, v⟩ := entry
    obtain ⟨⟨name, hname⟩, hothers⟩ := List.forall_mem_cons.mp hkeys
    obtain ⟨hv, hfields⟩ := List.forall_mem_cons.mp h
    subst hname
    have hkey : Printable (key false (.text name)) := printable_quote name
    cases fields with
    | nil =>
      simp only [compactFields, printable_append, printable_cons, hkey, hv, and_true, true_and]
      decide
    | cons other fields =>
      simp only [compactFields, printable_append, printable_cons, hkey, hv, ih hothers hfields, and_true, true_and]
      decide

theorem Plain.printable {limit : Nat} {v : Value} (h : Plain limit v) : Printable (compact false v) := by
  induction h with
  | null => decide
  | bool b => cases b <;> decide
  | text s => exact printable_quote s
  | int => exact printable_int _
  | list values ih =>
    simp only [compact, List.cons_append, printable_cons, printable_append, printable_items ih, printable_nil,
      and_true, true_and]
    decide
  | record keys distinct values ih =>
    simp only [compact, List.cons_append, printable_cons, printable_append, printable_fields (exists_text keys) ih,
      printable_nil, and_true, true_and]
    decide

end Json
end GitPractice
