import GitPractice.Repo.Source
import Mathlib.Data.List.Nodup
import Mathlib.Data.List.Perm.Subperm

/-!
# The search for a new id

An id that a search finds comes from the source and is new. A search finds one
whenever the ids of the source are different from some point on, for then the
ids it looks at cannot all be taken: there are more of them than commits.
-/

namespace GitPractice

namespace Text

theorem digitChar_mod (n : Nat) : digitChar (n % 10) = digitChar n := by
  rw [digitChar, digitChar, Nat.mod_mod]

theorem isDigit_of_mem_fixedDigits {width n : Nat} {c : Char} (hc : c ∈ fixedDigits width n) :
    c.isDigit = true := by
  induction width generalizing n with
  | zero => cases hc
  | succ width ih =>
    rw [fixedDigits, List.mem_append, List.mem_singleton] at hc
    rcases hc with hc | rfl
    · exact ih hc
    · have hsmall : ∀ k < 10, (digitChar k).isDigit = true := by decide
      rw [← digitChar_mod]
      exact hsmall (n % 10) (Nat.mod_lt n (by decide))

/-- A number in places has nothing but digits. -/
theorem not_mem_padded (width n : Nat) {c : Char} (hc : c.isDigit = false) : c ∉ (padded width n).toList := by
  intro hmem
  rw [padded, String.toList_ofList] at hmem
  rw [isDigit_of_mem_fixedDigits hmem] at hc
  cases hc

/-- The digits in places are read back, but for those that did not fit. -/
theorem ofDigitChars_fixedDigits (width n : Nat) :
    Nat.ofDigitChars 10 (fixedDigits width n) 0 = n % tenTo width := by
  have hdigit (n : Nat) : digitChar n = Nat.digitChar (n % 10) := by
    have hsmall : ∀ k < 10, digitChar k = Nat.digitChar k := by decide
    rw [← hsmall (n % 10) (Nat.mod_lt n (by decide)), digitChar_mod]
  induction width generalizing n with
  | zero => exact (Nat.mod_one n).symm
  | succ width ih =>
    have hten : tenTo (width + 1) = 10 * tenTo width := Nat.mul_comm _ _
    rw [fixedDigits, Nat.ofDigitChars_append, ih, hdigit,
      Nat.ofDigitChars_cons_digitChar_of_lt_ten (Nat.mod_lt n (by decide)), Nat.ofDigitChars_nil,
      hten, Nat.mod_mul, Nat.add_comm]

end Text

namespace IdSource

/-- Whether the id comes up in the source at all. -/
def Shows (ids : IdSource) (id : String) : Prop := ∃ n, ids.nth n = id

/-- The source shows the given ids first, in this order. -/
def BeginsWith (ids : IdSource) (given : List String) : Prop :=
  ∀ n (h : n < given.length), ids.nth n = given[n]

/-- Past the repeats that the search has patience for, no id comes up twice. -/
def Settles (ids : IdSource) : Prop :=
  ∀ i j, ids.patience ≤ i → ids.patience ≤ j → ids.nth i = ids.nth j → i = j

variable {ids : IdSource} {given used : List String} {id : String} {count start : Nat}

/-! ## What a search finds -/

theorem shows_of_search {stop : Nat} (h : search ids.nth used count start = some (id, stop)) :
    ids.Shows id := by
  induction count generalizing start with
  | zero => simp [search] at h
  | succ count ih =>
    rw [search] at h
    split at h
    · exact ih h
    · cases h
      exact ⟨start, rfl⟩

/-- A new id is taken at once. -/
theorem unused?_of_not_mem (h : ids.nth start ∉ used) :
    ids.unused? used start = some (ids.nth start, start + 1) := by
  rw [unused?, search, if_neg (by simpa using h)]

/-! ## Whether a search finds something -/

theorem mem_of_search_eq_none (h : search ids.nth used count start = none) {i : Nat}
    (hi : i < count) : ids.nth (start + i) ∈ used := by
  induction count generalizing start i with
  | zero => exact absurd hi (Nat.not_lt_zero i)
  | succ count ih =>
    rw [search] at h
    split at h
    · next hused =>
      cases i with
      | zero => simpa using hused
      | succ i =>
        have hlater := ih h (Nat.lt_of_succ_lt_succ hi)
        rwa [Nat.add_assoc, Nat.add_comm 1 i] at hlater
    · cases h

/-- Of the ids from some position past the repeats on, there is a new one among the first, as many as are used and
one more. -/
theorem Settles.exists_new (h : ids.Settles) (used : List String) (hstart : ids.patience ≤ start) :
    ∃ i ≤ used.length, ids.nth (start + i) ∉ used := by
  by_contra hnone
  let candidates := (List.range (used.length + 1)).map fun i => ids.nth (start + i)
  have hnodup : candidates.Nodup := by
    refine List.Nodup.map_on (fun i _ j _ he => ?_) List.nodup_range
    have hsame := h _ _ (by omega) (by omega) he
    omega
  have hused : candidates ⊆ used := by
    intro id hid
    obtain ⟨i, hi, rfl⟩ := List.mem_map.mp hid
    rw [List.mem_range] at hi
    exact Classical.not_not.mp fun hnew => hnone ⟨i, Nat.le_of_lt_succ hi, hnew⟩
  have hlength : candidates.length ≤ used.length := (hnodup.subperm hused).length_le
  rw [List.length_map, List.length_range] at hlength
  omega

/-- The search has patience for the repeats and looks at one id more than are used. -/
theorem Settles.unused?_isSome (h : ids.Settles) (used : List String) (start : Nat) :
    (ids.unused? used start).isSome := by
  rw [Option.isSome_iff_ne_none]
  intro hnone
  obtain ⟨i, hi, hnew⟩ := h.exists_new used (Nat.le_add_left ids.patience start)
  rw [Nat.add_assoc] at hnew
  exact hnew (mem_of_search_eq_none hnone (by omega))

/-! ## Sources that begin with a list -/

theorem BeginsWith.of_append {more : List String} (h : ids.BeginsWith (given ++ more)) :
    ids.BeginsWith given := by
  intro n hn
  rw [h n (by rw [List.length_append]; omega), List.getElem_append_left hn]

theorem BeginsWith.nth_length (h : ids.BeginsWith (given ++ [id])) :
    ids.nth given.length = id := by
  rw [h given.length (by simp), List.getElem_concat_length rfl]

theorem beginsWith_ofList (given : List String) (later : Nat → String) :
    (ofList given later).BeginsWith given :=
  fun _ h => dif_pos h

/-- The given ids may repeat each other and those that come later. -/
theorem settles_ofList (given : List String) {later : Nat → String}
    (h : Function.Injective later) : (ofList given later).Settles := by
  intro i j hi hj he
  replace hi : given.length ≤ i := hi
  replace hj : given.length ≤ j := hj
  have hlater : later (i - given.length) = later (j - given.length) := by
    simpa [ofList, Nat.not_lt.mpr hi, Nat.not_lt.mpr hj] using he
  have hsame := h hlater
  omega

/-! ## Numbered ids -/

theorem ofDigitChars_counter (n : Nat) :
    Nat.ofDigitChars 10 (numbered.counter n).toList 0 = n := by
  rw [numbered.counter]
  split
  · next hn =>
    rw [Text.padded, String.toList_ofList, Text.ofDigitChars_fixedDigits]
    exact Nat.mod_eq_of_lt hn
  · rw [Nat.toString_eq_ofList_toDigits, String.toList_ofList, Nat.ofDigitChars_ten_toDigits]

theorem isDigit_of_mem_counter {n : Nat} {c : Char} (hc : c ∈ (numbered.counter n).toList) :
    c.isDigit = true := by
  rw [numbered.counter] at hc
  split at hc
  · rw [Text.padded, String.toList_ofList] at hc
    exact Text.isDigit_of_mem_fixedDigits hc
  · rw [Nat.toString_eq_ofList_toDigits, String.toList_ofList] at hc
    exact Nat.isDigit_of_mem_toDigits (by decide) (by decide) hc

/-- A numbered id has digits behind its letter. -/
theorem mem_numbered {n : Nat} {c : Char} (hc : c ∈ (numbered n).toList) :
    c = 'c' ∨ c.isDigit = true := by
  rw [numbered, String.toList_append, List.mem_append] at hc
  exact hc.imp List.mem_singleton.mp isDigit_of_mem_counter

theorem numbered_ne_empty (n : Nat) : numbered n ≠ "" := by
  intro he
  have hchars := congrArg String.toList he
  rw [numbered, String.toList_append] at hchars
  cases hchars

/-- The number can be read off the id, also when six places are not enough for it. -/
theorem numbered_injective : Function.Injective numbered := by
  intro n m he
  have hcounter : (numbered.counter (n + 1)).toList = (numbered.counter (m + 1)).toList := by
    have hchars := congrArg String.toList he
    rwa [numbered, numbered, String.toList_append, String.toList_append,
      List.append_cancel_left_eq] at hchars
  have hvalue := congrArg (Nat.ofDigitChars 10 · 0) hcounter
  simp only [ofDigitChars_counter] at hvalue
  exact Nat.succ.inj hvalue

end IdSource
end GitPractice
