import GitPractice.Proofs.Overrides

/-!
# Setting the entry that is spelled out

The parts of a name set one entry or none, and no key comes or goes at any level
(`Settings.assignEntry_exact`). The entry that is set is one whose names, taken apart,
are the parts. The longest name is taken at every level and never given back, so an
entry may be missed although its names are spelled out. That cannot happen where
no name on the way begins like another one beside it, or is how that one begins.
-/

namespace GitPractice

namespace Fields

/-- The entry that is found, between those before it and those behind it. -/
theorem exists_split {fields : Fields} {name : String} {v : Value} (h : fields.get? name = some v) :
    ∃ before after : Fields, .text name ∉ before.keys ∧ fields = before ++ (.text name, v) :: after ∧
      ∀ w, fields.set name w = before ++ (.text name, w) :: after := by
  induction fields with
  | nil => cases h
  | cons entry rest ih =>
    obtain ⟨k, old⟩ := entry
    rw [get?] at h
    by_cases hk : k.same (.text name) = true
    · rw [if_pos hk] at h
      obtain rfl : old = v := Option.some.inj h
      obtain rfl : k = .text name := (Scalar.same_text_iff k name).mp hk
      exact ⟨[], rest, List.not_mem_nil, rfl, fun w => by rw [set, if_pos hk]; rfl⟩
    · rw [if_neg hk] at h
      obtain ⟨before, after, hbefore, rfl, hset⟩ := ih h
      have hne : .text name ≠ k := fun heq => hk ((Scalar.same_text_iff k name).mpr heq.symm)
      refine ⟨(k, old) :: before, after, ?_, rfl, fun w => ?_⟩
      · exact fun hmem => (List.mem_cons.mp hmem).elim hne hbefore
      · rw [set, if_neg hk, hset]
        rfl

end Fields

namespace Settings

variable {s : Settings} {fields inner changed : Fields} {name : String} {names path parts : List String}
  {value : Value}

/-! ## One entry that is set -/

/-- Of the entries at all levels, only the one that the names lead to is another one, and it has the
value. -/
inductive SetAt (value : Value) : List String → Fields → Fields → Prop
  | here {name : String} {before after : Fields} {old : Value} (first : .text name ∉ before.keys) :
      SetAt value [name] (before ++ (.text name, old) :: after) (before ++ (.text name, value) :: after)
  | inside {name : String} {names : List String} {before after inner changed : Fields}
      (first : .text name ∉ before.keys) (rest : SetAt value names inner changed) :
      SetAt value (name :: names) (before ++ (.text name, .record inner) :: after)
        (before ++ (.text name, .record changed) :: after)

theorem setAt_set (h : (fields.get? name).isSome = true) (value : Value) :
    SetAt value [name] fields (fields.set name value) := by
  obtain ⟨old, hold⟩ := Option.isSome_iff_exists.mp h
  obtain ⟨before, after, hfirst, hfields, hset⟩ := Fields.exists_split hold
  rw [hset, hfields]
  exact .here hfirst

theorem SetAt.set_inside (h : SetAt value names inner changed) (hget : fields.get? name = some (.record inner)) :
    SetAt value (name :: names) fields (fields.set name (.record changed)) := by
  obtain ⟨before, after, hfirst, hfields, hset⟩ := Fields.exists_split hget
  rw [hset, hfields]
  exact .inside hfirst h

/-- What is set is an entry that is spelled out by the parts, or nothing is. -/
theorem assign_setAt (h : Named (.record fields)) (parts : List String) (value : Value) :
    ∃ changed, assign fields parts value = .ok changed ∧
      (changed = fields ∨ ∃ path, SetAt value path fields changed ∧ path.flatMap nameParts = parts) := by
  -- on the number of parts, as every level takes at least one of them
  induction hlength : parts.length using Nat.strongRecOn generalizing fields parts with
  | ind n ih =>
    by_cases hparts : parts = []
    · exact ⟨fields, assign_of_nowhere (hparts ▸ target_nil fields) value, Or.inl rfl⟩
    · rcases assign_cases h hparts value with hsame | ⟨name, hname, heq, hset⟩ | ⟨name, inner, rest, hget, -, heq, hset⟩
      · exact ⟨fields, hsame, Or.inl rfl⟩
      · exact ⟨_, hset, Or.inr ⟨[name], setAt_set hname value, by simpa using heq⟩⟩
      · have hname := List.length_pos_iff.mpr (nameParts_ne_nil name)
        have hshorter : rest.length < n := by
          rw [← hlength, ← heq, List.length_append]
          omega
        obtain ⟨changed, hchanged, hcases⟩ := ih rest.length hshorter (h.get? hget) rest rfl
        refine ⟨fields.set name (.record changed), by rw [hset, hchanged]; rfl, ?_⟩
        rcases hcases with rfl | ⟨path, hpath, hspelled⟩
        · exact Or.inl (Fields.set_eq_self hget)
        · refine Or.inr ⟨name :: path, hpath.set_inside hget, ?_⟩
          rw [List.flatMap_cons, hspelled, heq]

/-! ## Entries that cannot be missed -/

/-- No other name of the record begins like this one, part for part, or is how this one begins. -/
def StandsApart (name : String) (fields : Fields) : Prop :=
  ∀ other : String, .text other ∈ fields.keys → other ≠ name →
    ¬ nameParts other <+: nameParts name ∧ ¬ nameParts name <+: nameParts other

/-- The names lead to an entry, through records that have names which stand apart. -/
inductive LeadsApart : List String → Fields → Prop
  | last {name : String} {fields : Fields} (known : .text name ∈ fields.keys) (apart : StandsApart name fields) :
      LeadsApart [name] fields
  | step {name : String} {names : List String} {fields inner : Fields}
      (get : fields.get? name = some (.record inner)) (apart : StandsApart name fields)
      (rest : LeadsApart names inner) : LeadsApart (name :: names) fields

theorem LeadsApart.parts_ne_nil (h : LeadsApart path fields) : path.flatMap nameParts ≠ [] := by
  cases h with
  | last | step =>
    rw [List.flatMap_cons]
    exact fun hnil => nameParts_ne_nil _ (List.append_eq_nil_iff.mp hnil).1

/-- Of two names that the same parts begin with, one begins the other. -/
theorem StandsApart.eq_of_prefix (h : StandsApart name fields) {other : String} {rest : List String}
    (hother : .text other ∈ fields.keys) (hbegins : nameParts other <+: nameParts name ++ rest) : other = name := by
  by_contra hne
  obtain ⟨hshorter, hlonger⟩ := h other hother hne
  rcases List.prefix_or_prefix_of_prefix hbegins (List.prefix_append _ rest) with hbefore | hafter
  · exact hshorter hbefore
  · exact hlonger hafter

/-- An entry is set by its names if they stand apart all the way. -/
theorem LeadsApart.assign_setAt (hpath : LeadsApart path fields) (h : Named (.record fields)) (value : Value) :
    ∃ changed, assign fields (path.flatMap nameParts) value = .ok changed ∧ SetAt value path fields changed := by
  induction hpath with
  | @last name fields known apart =>
    have hname := Fields.isSome_get?_iff.mpr known
    refine ⟨_, ?_, setAt_set hname value⟩
    rw [List.flatMap_singleton]
    exact assign_self h hname value
  | @step name names fields inner hget apart rest ih =>
    obtain ⟨changed, hchanged, hset⟩ := ih (h.get? hget)
    refine ⟨_, ?_, hset.set_inside hget⟩
    rw [List.flatMap_cons, assign_of_alone h hget rest.parts_ne_nil
      (fun other hother hbegins _ => apart.eq_of_prefix hother hbegins), hchanged]
    rfl

/-! ## Settings -/

/-- Whatever the records, the parts and the value: at most one entry is set, its names taken apart are the
parts, and all keys stay. An entry whose names stand apart on the way is set by them. -/
theorem assignEntry_exact (h : Named (.record s.fields)) (parts : List String) (value : Value) :
    ∃ changed, s.assignEntry parts value = .ok { s with fields := changed } ∧
      (changed = s.fields ∨ ∃ path, SetAt value path s.fields changed ∧ path.flatMap nameParts = parts) ∧
      ∀ path, LeadsApart path s.fields → path.flatMap nameParts = parts → SetAt value path s.fields changed := by
  obtain ⟨changed, hchanged, hcases⟩ := assign_setAt h parts value
  refine ⟨changed, by rw [assignEntry_eq h, hchanged]; rfl, hcases, ?_⟩
  rintro path hpath rfl
  obtain ⟨same, hsame, hset⟩ := hpath.assign_setAt h value
  obtain rfl : changed = same := Except.ok.inj (hchanged.symm.trans hsame)
  exact hset

/-- Sections and settings whose names have underscores, at their ends too. -/
def underscored : Fields :=
  [("repo", .record [("host_name", .text "desk")]), ("repo_host", .record [("user", .text "ada")]),
   ("display", .record [("_limit", .int 10), ("limit_", .int 20)])]

theorem assignEntry_exact_underscored :
    Named (.record underscored) ∧ LeadsApart ["display", "_limit"] underscored ∧
      ∃ changed, (underscored : Settings).assignEntry ["display", "", "limit"] (.int 5) =
        .ok { fields := changed } ∧ SetAt (.int 5) ["display", "_limit"] underscored changed := by
  have hnamed : Named (.record underscored) := by
    refine .record (by decide) ?_
    simp only [underscored, List.forall_mem_cons]
    refine ⟨?_, ?_, ?_, nofun⟩ <;> refine .record (by decide) ?_ <;> simp [Named.atom]
  have hpath : LeadsApart ["display", "_limit"] underscored := by
    refine .step rfl ?_ (.last (by decide) ?_)
    · intro other hother hne
      simp only [underscored, Fields.keys, List.map_cons, List.map_nil, List.mem_cons, Scalar.text.injEq,
        List.not_mem_nil, or_false] at hother
      rcases hother with rfl | rfl | rfl
      · decide +kernel
      · decide +kernel
      · exact absurd rfl hne
    · intro other hother hne
      simp only [Fields.keys, List.map_cons, List.map_nil, List.mem_cons, Scalar.text.injEq,
        List.not_mem_nil, or_false] at hother
      rcases hother with rfl | rfl
      · exact absurd rfl hne
      · decide +kernel
  obtain ⟨changed, hchanged, -, hset⟩ := assignEntry_exact (s := underscored) hnamed ["display", "", "limit"] (.int 5)
  exact ⟨hnamed, hpath, changed, hchanged, hset _ hpath (by decide +kernel)⟩

/-- The setting `host_name` of `repo` is missed, as `repo_host` is the longer name. -/
example : assign underscored ["repo", "host", "name"] (.text "lab") = .ok underscored := rfl

end Settings
end GitPractice
