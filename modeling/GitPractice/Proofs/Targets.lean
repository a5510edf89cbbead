import GitPractice.Proofs.Words
import GitPractice.Settings.Layer

/-!
# Where the name of a variable leads

The parts of a name are taken level by level, at each of them by the longest name
that fits. `Settings.target_eq` says so without a bound on the levels. A setting
is found at once if its name is all that is left; on the way to it no other name of
the same record may be taken for the one that is meant. What is found is changed,
and the keys of all records stay the same (`Settings.assign_cases`).
-/

namespace GitPractice

namespace Scalar

/-- Whether the scalar is a text, one that cannot be encoded among them. -/
def isText : Scalar → Bool
  | text _ => true
  | unpaired _ => true
  | _ => false

end Scalar

namespace Fields

theorem mem_of_get? {fields : Fields} {name : String} {v : Value} (h : fields.get? name = some v) :
    (.text name, v) ∈ fields := by
  induction fields with
  | nil => cases h
  | cons entry rest ih =>
    obtain ⟨k, w⟩ := entry
    rw [get?] at h
    split at h
    next hk =>
      cases h
      rw [(Scalar.same_text_iff k name).mp hk]
      exact List.mem_cons_self
    next => exact List.mem_cons_of_mem _ (ih h)

theorem isSome_get?_iff {fields : Fields} {name : String} :
    (fields.get? name).isSome = true ↔ .text name ∈ fields.keys := by
  induction fields with
  | nil => simp [get?, keys]
  | cons entry rest ih =>
    obtain ⟨k, v⟩ := entry
    rw [get?, keys, List.map_cons, List.mem_cons]
    by_cases hk : k.same (.text name) = true
    · rw [if_pos hk]
      exact iff_of_true rfl (Or.inl ((Scalar.same_text_iff k name).mp hk).symm)
    · have hne : Scalar.text name ≠ k := fun heq => hk ((Scalar.same_text_iff k name).mpr heq.symm)
      rw [if_neg hk, ih, or_iff_right hne]
      rfl

theorem mem_set {fields : Fields} {name : String} {v : Value} {entry : Scalar × Value}
    (h : entry ∈ fields.set name v) : entry ∈ fields ∨ entry.2 = v := by
  induction fields with
  | nil =>
    rw [set, List.mem_singleton] at h
    exact Or.inr (by rw [h])
  | cons first rest ih =>
    obtain ⟨k, w⟩ := first
    rw [set] at h
    split at h
    · rcases List.mem_cons.mp h with rfl | hrest
      · exact Or.inr rfl
      · exact Or.inl (List.mem_cons_of_mem _ hrest)
    · rcases List.mem_cons.mp h with rfl | hrest
      · exact Or.inl List.mem_cons_self
      · exact (ih hrest).imp_left (List.mem_cons_of_mem _)

end Fields

namespace Settings

/-! ## The parts of a name -/

theorem splitUnderscores_eq (cs : List Char) : splitUnderscores cs = cs.splitOn '_' :=
  Text.eq_splitOn rfl (fun _ _ => rfl) cs

theorem nameParts_ne_nil (name : String) : nameParts name ≠ [] := by
  rw [nameParts, splitUnderscores_eq, Ne, List.map_eq_nil_iff]
  exact List.splitOn_ne_nil _ _

theorem nameParts_injective : Function.Injective nameParts := by
  intro a b h
  have hsplit : a.toList.splitOn '_' = b.toList.splitOn '_' := by
    rw [← splitUnderscores_eq, ← splitUnderscores_eq]
    exact (List.map_inj_right fun _ _ heq => String.ofList_injective heq).mp h
  have hjoined := congrArg (List.intercalate ['_']) hsplit
  rw [List.intercalate_splitOn, List.intercalate_splitOn] at hjoined
  exact String.toList_inj.mp hjoined

/-! ## The longest name that fits -/

theorem bestName_eq_none {parts names : List String} (h : bestName parts names = none) :
    ∀ name ∈ names, ¬ nameParts name <+: parts := by
  induction names with
  | nil => exact fun name hname => nomatch hname
  | cons first names ih =>
    rw [bestName] at h
    split at h
    next => split at h <;> (try split at h) <;> cases h
    next hfirst =>
      rw [List.forall_mem_cons]
      exact ⟨fun hbegins => hfirst (List.isPrefixOf_iff_prefix.mpr hbegins), ih h⟩

/-- The name fits, and none that fits is longer. -/
theorem bestName_eq_some {parts names : List String} {name : String} (h : bestName parts names = some name) :
    name ∈ names ∧ nameParts name <+: parts ∧
      ∀ other ∈ names, nameParts other <+: parts → (nameParts other).length ≤ (nameParts name).length := by
  induction names generalizing name with
  | nil => cases h
  | cons first names ih =>
    rw [bestName] at h
    split at h
    next hfirst =>
      have hfirst : nameParts first <+: parts := List.isPrefixOf_iff_prefix.mp hfirst
      cases hrest : bestName parts names with
      | none =>
        rw [hrest] at h
        obtain rfl : first = name := Option.some.inj h
        refine ⟨List.mem_cons_self, hfirst, List.forall_mem_cons.mpr ⟨fun _ => Nat.le_refl _, ?_⟩⟩
        exact fun other hother hbegins => absurd hbegins (bestName_eq_none hrest other hother)
      | some longest =>
        obtain ⟨hmem, hbegins, hmax⟩ := ih hrest
        simp only [hrest] at h
        split at h
        next hlonger =>
          obtain rfl : longest = name := Option.some.inj h
          exact ⟨List.mem_cons_of_mem _ hmem, hbegins, List.forall_mem_cons.mpr ⟨fun _ => Nat.le_of_lt hlonger, hmax⟩⟩
        next hshorter =>
          obtain rfl : first = name := Option.some.inj h
          refine ⟨List.mem_cons_self, hfirst, List.forall_mem_cons.mpr ⟨fun _ => Nat.le_refl _, ?_⟩⟩
          exact fun other hother hbegins => Nat.le_trans (hmax other hother hbegins) (Nat.not_lt.mp hshorter)
    next hfirst =>
      obtain ⟨hmem, hbegins, hmax⟩ := ih h
      refine ⟨List.mem_cons_of_mem _ hmem, hbegins, List.forall_mem_cons.mpr ⟨fun hp => ?_, hmax⟩⟩
      exact absurd (List.isPrefixOf_iff_prefix.mpr hp) hfirst

/-- A name is found if no other one that begins like it is there. -/
theorem bestName_of_alone {names : List String} {name : String} (rest : List String) (hmem : name ∈ names)
    (halone : ∀ other ∈ names, nameParts other <+: nameParts name ++ rest →
      (nameParts name).length ≤ (nameParts other).length → other = name) :
    bestName (nameParts name ++ rest) names = some name := by
  have hbegins : nameParts name <+: nameParts name ++ rest := List.prefix_append _ _
  cases hbest : bestName (nameParts name ++ rest) names with
  | none => exact absurd hbegins (bestName_eq_none hbest name hmem)
  | some best =>
    obtain ⟨hbestMem, hbestPrefix, hmax⟩ := bestName_eq_some hbest
    rw [halone best hbestMem hbestPrefix (hmax name hmem hbegins)]

theorem bestName_self {names : List String} {name : String} (hmem : name ∈ names) :
    bestName (nameParts name) names = some name := by
  have hbest := bestName_of_alone [] hmem fun other _ hbegins hlength => by
    rw [List.append_nil] at hbegins
    exact nameParts_injective (hbegins.eq_of_length (Nat.le_antisymm hbegins.length_le hlength))
  rwa [List.append_nil] at hbest

/-! ## Records that can be searched -/

/-- All keys are texts, at every level, and nothing is kept apart. -/
inductive Named : Value → Prop
  | leaf {v : Value} (hrecord : ∀ fields, v ≠ .record fields) (hshared : ∀ n, v ≠ .shared n) : Named v
  | record {fields : Fields} (keys : ∀ key ∈ fields.keys, key.isText = true)
      (values : ∀ entry ∈ fields, Named entry.2) : Named (.record fields)

variable {fields inner : Fields} {name : String} {parts rest : List String} {value : Value}

theorem Named.atom (a : Scalar) : Named (.atom a) := .leaf (fun _ => nofun) fun _ => nofun

theorem Named.ne_shared {v : Value} (h : Named v) (n : Nat) : v ≠ .shared n := by
  cases h with
  | leaf hrecord hshared => exact hshared n
  | record => exact nofun

theorem Named.keys (h : Named (.record fields)) : ∀ key ∈ fields.keys, key.isText = true := by
  cases h with
  | leaf hrecord hshared => exact absurd rfl (hrecord fields)
  | record keys values => exact keys

theorem Named.values (h : Named (.record fields)) : ∀ entry ∈ fields, Named entry.2 := by
  cases h with
  | leaf hrecord hshared => exact absurd rfl (hrecord fields)
  | record keys values => exact values

theorem Named.get? (h : Named (.record fields)) {v : Value} (hget : fields.get? name = some v) : Named v :=
  h.values _ (Fields.mem_of_get? hget)

theorem Named.set (h : Named (.record fields)) (hname : (fields.get? name).isSome = true)
    (hvalue : Named value) : Named (.record (fields.set name value)) := by
  refine .record ?_ fun entry hentry => ?_
  · rw [Fields.keys_set hname]
    exact h.keys
  · rcases Fields.mem_set hentry with hold | hnew
    · exact h.values entry hold
    · rwa [hnew]

theorem names_eq {keys : List Scalar} (h : ∀ key ∈ keys, key.isText = true) :
    names keys = .ok (keys.filterMap Scalar.text?) := by
  induction keys with
  | nil => rfl
  | cons key keys ih =>
    obtain ⟨hkey, hkeys⟩ := List.forall_mem_cons.mp h
    cases key with
    | text name =>
      rw [names, ih hkeys]
      rfl
    | unpaired points =>
      rw [names, ih hkeys]
      rfl
    | _ => cases hkey

theorem mem_filterMap_text?_iff {keys : List Scalar} :
    name ∈ keys.filterMap Scalar.text? ↔ .text name ∈ keys := by
  rw [List.mem_filterMap]
  constructor
  · rintro ⟨key, hkey, htext⟩
    cases key with
    | text other =>
      cases htext
      exact hkey
    | _ => cases htext
  · exact fun h => ⟨_, h, rfl⟩

/-! ## One level after the other -/

theorem targetWithin_congr {levels others : Nat} (h : parts.length ≤ levels) (hothers : parts.length ≤ others)
    (hparts : parts ≠ []) (fields : Fields) :
    targetWithin levels fields parts = targetWithin others fields parts := by
  have hpos : 0 < parts.length := List.length_pos_iff.mpr hparts
  induction levels generalizing others parts fields with
  | zero => omega
  | succ levels ih =>
    obtain ⟨others, rfl⟩ : ∃ n, others = n + 1 := ⟨others - 1, by omega⟩
    rw [targetWithin, targetWithin]
    congr 1
    funext ns
    cases bestName parts ns with
    | none => rfl
    | some name =>
      have hname : 0 < (nameParts name).length := List.length_pos_iff.mpr (nameParts_ne_nil name)
      have hlength : (parts.drop (nameParts name).length).length < parts.length := by
        rw [List.length_drop]
        omega
      cases hrest : parts.drop (nameParts name).length with
      | nil => simp only [hrest]
      | cons part rest =>
        rw [hrest] at hlength
        have hne : part :: rest ≠ [] := List.cons_ne_nil part rest
        have hinner (inner : Fields) :
            targetWithin levels inner (part :: rest) = targetWithin others inner (part :: rest) :=
          ih (by omega) (by omega) hne inner (List.length_pos_iff.mpr hne)
        cases hget : fields.get? name with
        | none => simp only [hrest, hget]
        | some v => cases v <;> simp only [hrest, hget, hinner]

/-- One level of the search: no name fits, or all parts are taken, or the search goes on in the record
that has the name. -/
theorem target_eq (h : Named (.record fields)) (hparts : parts ≠ []) :
    target fields parts =
      match bestName parts (fields.keys.filterMap Scalar.text?) with
      | none => .ok .nowhere
      | some name =>
        match parts.drop (nameParts name).length, fields.get? name with
        | [], _ => .ok (.entry [] name)
        | rest, some (.record inner) => (target inner rest).map (·.below name)
        | _, _ => .ok .nowhere := by
  obtain ⟨levels, hlevels⟩ : ∃ n, parts.length = n + 1 :=
    ⟨parts.length - 1, by have := List.length_pos_iff.mpr hparts; omega⟩
  rw [target, hlevels, targetWithin, names_eq h.keys]
  show (match bestName parts (fields.keys.filterMap Scalar.text?) with | none => _ | some name => _) = _
  cases bestName parts (fields.keys.filterMap Scalar.text?) with
  | none => rfl
  | some name =>
    have hname : 0 < (nameParts name).length := List.length_pos_iff.mpr (nameParts_ne_nil name)
    cases hrest : parts.drop (nameParts name).length with
    | nil =>
      simp only [hrest]
      rfl
    | cons part rest =>
      have hlength := congrArg List.length hrest
      rw [List.length_drop] at hlength
      cases hget : fields.get? name with
      | none =>
        simp only [hrest, hget]
        rfl
      | some v =>
        cases v with
        | record inner =>
          have hinner : targetWithin levels inner (part :: rest) = target inner (part :: rest) :=
            targetWithin_congr (by omega) (Nat.le_refl _) (List.cons_ne_nil part rest) inner
          simp only [hrest, hget, hinner]
          cases target inner (part :: rest) with
          | error fault => rfl
          | ok t => rfl
        | shared n => exact absurd rfl ((h.get? hget).ne_shared n)
        | _ =>
          simp only [hrest, hget]
          rfl

theorem target_cases (h : Named (.record fields)) (hparts : parts ≠ []) :
    target fields parts = .ok .nowhere ∨
      (∃ name : String, (fields.get? name).isSome = true ∧ nameParts name = parts ∧
        target fields parts = .ok (.entry [] name)) ∨
      ∃ (name : String) (inner : Fields) (rest : List String), fields.get? name = some (.record inner) ∧
        rest ≠ [] ∧ nameParts name ++ rest = parts ∧
        target fields parts = (target inner rest).map (·.below name) := by
  rw [target_eq h hparts]
  cases hbest : bestName parts (fields.keys.filterMap Scalar.text?) with
  | none => exact Or.inl rfl
  | some name =>
    obtain ⟨hmem, ⟨rest, rfl⟩, -⟩ := bestName_eq_some hbest
    have hsome := Fields.isSome_get?_iff.mpr (mem_filterMap_text?_iff.mp hmem)
    simp only [List.drop_left]
    cases rest with
    | nil => exact Or.inr (Or.inl ⟨name, hsome, (List.append_nil _).symm, rfl⟩)
    | cons part rest =>
      cases hget : fields.get? name with
      | none =>
        rw [hget] at hsome
        cases hsome
      | some v =>
        cases v with
        | record inner =>
          exact Or.inr (Or.inr ⟨name, inner, part :: rest, hget, List.cons_ne_nil part rest, rfl, rfl⟩)
        | _ => exact Or.inl rfl

theorem target_nil (fields : Fields) : target fields [] = .ok .nowhere := rfl

/-- The search never fails, and it does not end in a part. -/
theorem target_ok (h : Named (.record fields)) (parts : List String) :
    target fields parts = .ok .nowhere ∨ ∃ place name, target fields parts = .ok (.entry place name) := by
  induction hlength : parts.length using Nat.strongRecOn generalizing fields parts with
  | ind n ih =>
    by_cases hparts : parts = []
    · exact Or.inl (hparts ▸ target_nil fields)
    · rcases target_cases h hparts with hnone | ⟨name, -, -, heq⟩ | ⟨name, inner, rest, hget, -, hrest, heq⟩
      · exact Or.inl hnone
      · exact Or.inr ⟨[], name, heq⟩
      · have hname := List.length_pos_iff.mpr (nameParts_ne_nil name)
        have hshorter : rest.length < n := by
          rw [← hlength, ← hrest, List.length_append]
          omega
        rw [heq]
        rcases ih rest.length hshorter (h.get? hget) rest rfl with hnone | ⟨place, last, hentry⟩
        · exact Or.inl (by rw [hnone]; rfl)
        · exact Or.inr ⟨name :: place, last, by rw [hentry]; rfl⟩

/-! ## Setting what is found -/

theorem assign_of_nowhere (h : target fields parts = .ok .nowhere) (value : Value) :
    assign fields parts value = .ok fields := by
  rw [assign, h]
  rfl

/-- What is set below a name is set in the record that has it. -/
theorem assign_of_below (h : Named (.record inner)) (hget : fields.get? name = some (.record inner))
    (htarget : target fields parts = (target inner rest).map (·.below name)) (value : Value) :
    assign fields parts value = (assign inner rest value).map fun changed => fields.set name (.record changed) := by
  rw [assign, assign, htarget]
  rcases target_ok h rest with hnone | ⟨place, last, hentry⟩
  · rw [hnone]
    show Except.ok fields = Except.ok (fields.set name (.record inner))
    rw [Fields.set_eq_self hget]
  · rw [hentry]
    show Except.ok (setAt (name :: place) last value fields) = _
    rw [setAt, hget]
    rfl

/-- One level of setting: nothing is set, or the entry that is all that is left is, or one in the record
that has a name the parts begin with. -/
theorem assign_cases (h : Named (.record fields)) (hparts : parts ≠ []) (value : Value) :
    assign fields parts value = .ok fields ∨
      (∃ name : String, (fields.get? name).isSome = true ∧ nameParts name = parts ∧
        assign fields parts value = .ok (fields.set name value)) ∨
      ∃ (name : String) (inner : Fields) (rest : List String), fields.get? name = some (.record inner) ∧
        rest ≠ [] ∧ nameParts name ++ rest = parts ∧
        assign fields parts value =
          (assign inner rest value).map fun changed => fields.set name (.record changed) := by
  rcases target_cases h hparts with hnone | ⟨name, hname, heq, htarget⟩ | ⟨name, inner, rest, hget, hne, heq, htarget⟩
  · exact Or.inl (assign_of_nowhere hnone value)
  · refine Or.inr (Or.inl ⟨name, hname, heq, ?_⟩)
    rw [assign, htarget]
    rfl
  · exact Or.inr (Or.inr ⟨name, inner, rest, hget, hne, heq, assign_of_below (h.get? hget) hget htarget value⟩)

/-- Setting never fails, and what can be searched stays so. -/
theorem exists_assign (h : Named (.record fields)) (hvalue : Named value) (parts : List String) :
    ∃ changed, assign fields parts value = .ok changed ∧ Named (.record changed) ∧
      changed.keys = fields.keys := by
  induction hlength : parts.length using Nat.strongRecOn generalizing fields parts with
  | ind n ih =>
    by_cases hparts : parts = []
    · exact ⟨fields, assign_of_nowhere (hparts ▸ target_nil fields) value, h, rfl⟩
    · rcases assign_cases h hparts value with hsame | ⟨name, hname, -, heq⟩ | ⟨name, inner, rest, hget, -, hrest, heq⟩
      · exact ⟨fields, hsame, h, rfl⟩
      · exact ⟨_, heq, h.set hname hvalue, Fields.keys_set hname value⟩
      · have hname := List.length_pos_iff.mpr (nameParts_ne_nil name)
        have hshorter : rest.length < n := by
          rw [← hlength, ← hrest, List.length_append]
          omega
        obtain ⟨changed, hchanged, hnamed, -⟩ := ih rest.length hshorter (h.get? hget) rest rfl
        have hsome : (fields.get? name).isSome = true := by rw [hget]; rfl
        rw [heq, hchanged]
        exact ⟨_, rfl, h.set hsome hnamed, Fields.keys_set hsome _⟩

/-- A setting whose name is all that is left is set. -/
theorem assign_self (h : Named (.record fields)) (hname : (fields.get? name).isSome = true) (value : Value) :
    assign fields (nameParts name) value = .ok (fields.set name value) := by
  have hmem := mem_filterMap_text?_iff.mpr (Fields.isSome_get?_iff.mp hname)
  rw [assign, target_eq h (nameParts_ne_nil name), bestName_self hmem]
  simp only [List.drop_length]
  rfl

/-- The search goes on in a record if no other name can be taken for the one it has. -/
theorem assign_of_alone (h : Named (.record fields)) (hget : fields.get? name = some (.record inner))
    (hrest : rest ≠ [])
    (halone : ∀ other : String, .text other ∈ fields.keys → nameParts other <+: nameParts name ++ rest →
      (nameParts name).length ≤ (nameParts other).length → other = name) (value : Value) :
    assign fields (nameParts name ++ rest) value =
      (assign inner rest value).map fun changed => fields.set name (.record changed) := by
  have hsome : (fields.get? name).isSome = true := by rw [hget]; rfl
  have hmem := mem_filterMap_text?_iff.mpr (Fields.isSome_get?_iff.mp hsome)
  have hbest := bestName_of_alone rest hmem fun other hother =>
    halone other (mem_filterMap_text?_iff.mp hother)
  refine assign_of_below (h.get? hget) hget ?_ value
  rw [target_eq h (by simp [hrest]), hbest]
  obtain ⟨part, others, rfl⟩ := List.exists_cons_of_ne_nil hrest
  simp only [List.drop_left, hget]

end Settings
end GitPractice
