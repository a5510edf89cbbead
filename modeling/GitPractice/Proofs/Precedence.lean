import GitPractice.Proofs.Layers

/-!
# Which layer a setting comes from

A path of keys leads through records to a value. What stands at the end of it after a
merge comes from the layer, or else from what the layer was merged into, the base. The
layer may have something there, or it may have a record on the way that lacks the next
key, or something on the way that is no record (`Settings.walk_mergeValue_cases`). In the
last case nothing is left at the path, whatever the base had there.

From this follow the laws of merging as they are seen at the paths
(`Settings.merge_combines`). None of them asks anything of the values that are no records.
-/

namespace GitPractice

namespace Fields

variable {fields : Fields} {key : Scalar}

theorem get?_eq_none_iff : fields.get? key = none ↔ ∀ entry ∈ fields, entry.1.same key = false := by
  induction fields with
  | nil => simp [get?]
  | cons entry rest ih =>
    obtain ⟨k, v⟩ := entry
    rw [get?, List.forall_mem_cons, ← ih]
    by_cases hk : k.same key = true
    · simp [hk]
    · rw [if_neg hk, and_iff_right (Bool.eq_false_iff.mpr hk)]

theorem pairwise_iff_keys :
    (fields.Pairwise fun f g => f.1.same g.1 = false) ↔ fields.keys.Pairwise fun a b => a.same b = false := by
  rw [keys, List.pairwise_map]

theorem get?_of_mem (h : fields.Pairwise fun f g => f.1.same g.1 = false) {entry : Scalar × Value}
    (hmem : entry ∈ fields) : fields.get? entry.1 = some entry.2 := by
  induction fields with
  | nil => cases hmem
  | cons first rest ih =>
    obtain ⟨hfirst, hrest⟩ := List.pairwise_cons.mp h
    rw [get?]
    rcases List.mem_cons.mp hmem with rfl | hmem
    · rw [if_pos (Scalar.same_self _)]
    · rw [hfirst entry hmem, if_neg Bool.false_ne_true, ih hrest hmem]

end Fields

namespace Value

/-- The value that these keys lead to through records. -/
def walk : Value → List Scalar → Option Value
  | v, [] => some v
  | .record fields, key :: path => (Fields.get? key fields).bind fun v => walk v path
  | _, _ :: _ => none

/-- On the way along the path there is a record that lacks the next key. -/
inductive Lacks : Value → List Scalar → Prop
  | here {fields : Fields} {key : Scalar} {path : List Scalar} (h : fields.get? key = none) :
      Lacks (.record fields) (key :: path)
  | inside {fields : Fields} {key : Scalar} {path : List Scalar} {v : Value} (h : fields.get? key = some v)
      (rest : Lacks v path) : Lacks (.record fields) (key :: path)

/-- A value that is no record, and so is replaced as a whole. -/
def IsLeaf (v : Value) : Prop := ∀ fields, v ≠ .record fields

/-- No record has a key twice, at any level. -/
inductive WellKeyed : Value → Prop
  | leaf {v : Value} (h : v.IsLeaf) : WellKeyed v
  | record {fields : Fields} (keys : fields.Pairwise fun f g => f.1.same g.1 = false)
      (values : ∀ entry ∈ fields, WellKeyed entry.2) : WellKeyed (.record fields)

variable {fields : Fields} {key : Scalar} {path : List Scalar} {v w : Value}

theorem walk_nil (v : Value) : v.walk [] = some v := by
  cases v <;> rfl

theorem walk_record (fields : Fields) (key : Scalar) (path : List Scalar) :
    (record fields).walk (key :: path) = (fields.get? key).bind fun v => v.walk path := by
  rw [walk]

theorem IsLeaf.walk_cons (h : v.IsLeaf) (key : Scalar) (path : List Scalar) : v.walk (key :: path) = none := by
  cases v with
  | record fields => exact absurd rfl (h fields)
  | _ => rfl

theorem isLeaf_or_record (v : Value) : v.IsLeaf ∨ ∃ fields : Fields, v = .record fields := by
  cases v with
  | record fields => exact Or.inr ⟨fields, rfl⟩
  | _ => exact Or.inl fun fields heq => by cases heq

theorem walk_cons (v : Value) (key : Scalar) (path : List Scalar) :
    v.walk (key :: path) = (v.walk [key]).bind (·.walk path) := by
  rcases isLeaf_or_record v with hleaf | ⟨fields, rfl⟩
  · rw [hleaf.walk_cons, hleaf.walk_cons, Option.bind_none]
  · rw [walk_record, walk_record, Option.bind_assoc]
    simp only [walk_nil, Option.bind_some]

theorem IsLeaf.not_lacks (h : v.IsLeaf) (path : List Scalar) : ¬ v.Lacks path := by
  intro hlacks
  cases hlacks <;> exact h _ rfl

/-- Where the record has the key, what is lacking is lacking further on. -/
theorem lacks_of_get? (h : fields.get? key = some v) : Lacks (.record fields) (key :: path) ↔ v.Lacks path := by
  constructor
  · intro hlacks
    cases hlacks with
    | here hnone =>
      rw [h] at hnone
      cases hnone
    | inside hother hrest =>
      rw [h] at hother
      cases hother
      exact hrest
  · exact Lacks.inside h

/-- A path ends before it comes to the key that is lacking. -/
theorem Lacks.walk_eq_none (h : Lacks v path) : v.walk path = none := by
  induction h with
  | here h => rw [walk_record, h, Option.bind_none]
  | inside h _ ih => rw [walk_record, h, Option.bind_some, ih]

namespace WellKeyed

theorem keys (h : WellKeyed (.record fields)) : fields.Pairwise fun f g => f.1.same g.1 = false := by
  cases h with
  | leaf h => exact absurd rfl (h fields)
  | record keys values => exact keys

theorem get? (h : WellKeyed (.record fields)) (hv : fields.get? key = some v) : WellKeyed v := by
  obtain ⟨entry, hmem, -, rfl⟩ := Fields.exists_of_get? hv
  cases h with
  | leaf h => exact absurd rfl (h fields)
  | record keys values => exact values entry hmem

theorem walk (h : WellKeyed v) (hw : v.walk path = some w) : WellKeyed w := by
  induction path generalizing v with
  | nil =>
    rw [walk_nil] at hw
    rwa [← Option.some.inj hw]
  | cons key path ih =>
    rcases isLeaf_or_record v with hleaf | ⟨fields, rfl⟩
    · rw [hleaf.walk_cons] at hw
      cases hw
    · rw [walk_record, Option.bind_eq_some_iff] at hw
      obtain ⟨inner, hget, hw⟩ := hw
      exact ih (h.get? hget) hw

end WellKeyed
end Value

namespace Settings

open Value

variable {base layer : Fields} {before : Option Value} {path : List Scalar} {v w : Value}

/-! ## One level -/

theorem mergeValue_of_leaf (h : v.IsLeaf) (before : Option Value) : mergeValue before v = v := by
  rw [mergeValue]
  exact fun _ fields _ hrecord => h fields hrecord

theorem mergeValue_none (v : Value) : mergeValue none v = v :=
  mergeValue_of_other (fun _ hbefore => by cases hbefore) v

theorem not_isLeaf_mergeValue (before : Option Value) (layer : Fields) :
    ¬ (mergeValue before (.record layer)).IsLeaf := by
  intro hleaf
  by_cases hbefore : ∃ base, before = some (.record base)
  · obtain ⟨base, rfl⟩ := hbefore
    exact hleaf (merge base layer) (by rw [mergeValue])
  · exact hleaf layer (mergeValue_of_other (fun base h => hbefore ⟨base, h⟩) _)

/-- The keys of the base stay in their order, and those that are new follow in theirs. -/
theorem keys_merge (h : layer.Pairwise fun f g => f.1.same g.1 = false) (base : Fields) :
    (merge base layer).keys = base.keys ++ layer.keys.filter fun key => (base.get? key).isNone := by
  induction layer generalizing base with
  | nil =>
    rw [merge]
    exact (List.append_nil _).symm
  | cons entry rest ih =>
    obtain ⟨key, value⟩ := entry
    obtain ⟨hfirst, hrest⟩ := List.pairwise_cons.mp h
    -- Setting this key does not make any of the later ones known, as they are others.
    have hlater : (Fields.keys rest).filter
          (fun k => ((base.set key (mergeValue (base.get? key) value)).get? k).isNone) =
        (Fields.keys rest).filter fun k => (base.get? k).isNone := by
      refine List.filter_congr fun k hk => ?_
      obtain ⟨later, hmem, rfl⟩ := List.mem_map.mp hk
      rw [Fields.get?_set_of_not_same base _ (hfirst later hmem)]
    have hkeys : Fields.keys ((key, value) :: rest) = key :: Fields.keys rest := rfl
    rw [merge, ih hrest, hlater, hkeys]
    cases hget : base.get? key with
    | some v =>
      have hknown : (base.get? key).isSome = true := by simp [hget]
      rw [Fields.keys_set hknown, List.filter_cons_of_neg (by simp [hget])]
    | none =>
      have hnew := Fields.get?_eq_none_iff.mp hget
      rw [Fields.set_of_new hnew, List.filter_cons_of_pos (by simp [hget]), Fields.keys, List.map_append,
        List.append_assoc]
      rfl

theorem isSome_get?_merge (h : layer.Pairwise fun f g => f.1.same g.1 = false) (base : Fields) (key : Scalar) :
    ((merge base layer).get? key).isSome = true ↔
      (base.get? key).isSome = true ∨ (layer.get? key).isSome = true := by
  rw [get?_merge h]
  cases layer.get? key <;> simp

/-- Merged records have no key twice if the two had none. -/
theorem pairwise_merge (hbase : base.Pairwise fun f g => f.1.same g.1 = false)
    (h : layer.Pairwise fun f g => f.1.same g.1 = false) :
    (merge base layer).Pairwise fun f g => f.1.same g.1 = false := by
  rw [Fields.pairwise_iff_keys] at hbase ⊢
  rw [keys_merge h, List.pairwise_append]
  refine ⟨hbase, (Fields.pairwise_iff_keys.mp h).filter _, fun a ha b hb => ?_⟩
  obtain ⟨entry, hmem, rfl⟩ := List.mem_map.mp ha
  have hnone : base.get? b = none := by simpa using (List.mem_filter.mp hb).2
  exact Fields.get?_eq_none_iff.mp hnone entry hmem

/-! ## Merging with nothing, and merging twice -/

theorem merge_append (h : (base ++ layer).Pairwise fun f g => f.1.same g.1 = false) :
    merge base layer = base ++ layer := by
  induction layer generalizing base with
  | nil => rw [merge, List.append_nil]
  | cons entry rest ih =>
    obtain ⟨key, value⟩ := entry
    have hnew : ∀ other ∈ base, other.1.same key = false := fun other hother =>
      (List.pairwise_append.mp h).2.2 other hother (key, value) List.mem_cons_self
    rw [List.append_cons] at h
    rw [merge, Fields.get?_eq_none_iff.mpr hnew, mergeValue_none, Fields.set_of_new hnew, ih h, ← List.append_cons]

/-- A layer is merged without effect if each of its entries is. -/
theorem merge_eq_self
    (h : ∀ entry ∈ layer, ∃ v, base.get? entry.1 = some v ∧ mergeValue (some v) entry.2 = v) :
    merge base layer = base := by
  induction layer with
  | nil => rw [merge]
  | cons entry rest ih =>
    obtain ⟨⟨v, hget, hv⟩, hrest⟩ := List.forall_mem_cons.mp h
    rw [merge, hget, hv, Fields.set_eq_self hget, ih hrest]

theorem mergeValue_twice (h : v.WellKeyed) (before : Option Value) :
    mergeValue (some (mergeValue before v)) v = mergeValue before v := by
  induction h generalizing before with
  | leaf h => rw [mergeValue_of_leaf h, mergeValue_of_leaf h]
  | @record layer keys values ih =>
    -- What the layer has at a key stands there already, so it is merged to the same once more.
    have hsame (base : Fields) (hbase : ∀ entry ∈ layer, ∃ before,
        base.get? entry.1 = some (mergeValue before entry.2)) : merge base layer = base := by
      refine merge_eq_self fun entry hmem => ?_
      obtain ⟨before, hget⟩ := hbase entry hmem
      exact ⟨_, hget, ih entry hmem before⟩
    by_cases hbefore : ∃ base, before = some (.record base)
    · obtain ⟨base, rfl⟩ := hbefore
      rw [mergeValue, mergeValue, hsame]
      intro entry hmem
      exact ⟨Fields.get? entry.1 base, by rw [get?_merge keys, Fields.get?_of_mem keys hmem]⟩
    · rw [mergeValue_of_other fun base h => hbefore ⟨base, h⟩, mergeValue, hsame]
      intro entry hmem
      refine ⟨none, ?_⟩
      rw [Fields.get?_of_mem keys hmem, mergeValue_none]

/-! ## Along a path -/

theorem walk_mergeValue_record (h : layer.Pairwise fun f g => f.1.same g.1 = false) (before : Option Value)
    (key : Scalar) (path : List Scalar) :
    (mergeValue before (.record layer)).walk (key :: path) =
      match layer.get? key with
      | some v => (mergeValue (before.bind (·.walk [key])) v).walk path
      | none => before.bind (·.walk (key :: path)) := by
  by_cases hbefore : ∃ base, before = some (.record base)
  · obtain ⟨base, rfl⟩ := hbefore
    have hkey : (some (record base)).bind (·.walk [key]) = Fields.get? key base := by
      rw [Option.bind_some, walk_record]
      simp only [walk_nil, Option.bind_fun_some]
    rw [mergeValue, walk_record, get?_merge h, hkey]
    cases layer.get? key with
    | none => rfl
    | some v => rfl
  · have hnone (rest : List Scalar) : before.bind (·.walk (key :: rest)) = none := by
      cases before with
      | none => rfl
      | some b =>
        rcases isLeaf_or_record b with hleaf | ⟨base, rfl⟩
        · exact hleaf.walk_cons key rest
        · exact absurd ⟨base, rfl⟩ hbefore
    rw [mergeValue_of_other fun base h => hbefore ⟨base, h⟩, walk_record, hnone, hnone]
    cases layer.get? key with
    | none => rfl
    | some v =>
      show v.walk path = (mergeValue none v).walk path
      rw [mergeValue_none]

/-- What the layer has at the end of a path is merged into what was there before. Where a record of
the layer lacks the next key, what was there before stays. Otherwise nothing is left at the path. -/
theorem walk_mergeValue_cases (h : v.WellKeyed) (before : Option Value) (path : List Scalar) :
    (∃ w, v.walk path = some w ∧
        (mergeValue before v).walk path = some (mergeValue (before.bind (·.walk path)) w)) ∨
      (v.Lacks path ∧ (mergeValue before v).walk path = before.bind (·.walk path)) ∨
      (v.walk path = none ∧ ¬ v.Lacks path ∧ (mergeValue before v).walk path = none) := by
  induction path generalizing before v with
  | nil =>
    have hbefore : before.bind (·.walk []) = before := by
      simp only [walk_nil, Option.bind_fun_some]
    exact Or.inl ⟨v, walk_nil v, by rw [walk_nil, hbefore]⟩
  | cons key path ih =>
    rcases isLeaf_or_record v with hleaf | ⟨layer, rfl⟩
    · refine Or.inr (Or.inr ⟨hleaf.walk_cons key path, hleaf.not_lacks _, ?_⟩)
      rw [mergeValue_of_leaf hleaf, hleaf.walk_cons]
    · rw [walk_mergeValue_record h.keys, walk_record]
      cases hget : layer.get? key with
      | none => exact Or.inr (Or.inl ⟨.here hget, rfl⟩)
      | some w =>
        have hbefore : (before.bind (·.walk [key])).bind (·.walk path) = before.bind (·.walk (key :: path)) := by
          rw [Option.bind_assoc]
          exact congrArg before.bind (funext fun b => (walk_cons b key path).symm)
        have hrest := ih (h.get? hget) (before.bind (·.walk [key]))
        rw [hbefore] at hrest
        rcases hrest with hreached | ⟨hlacks, hmerged⟩ | ⟨hnone, hlacks, hmerged⟩
        · exact Or.inl hreached
        · exact Or.inr (Or.inl ⟨.inside hget hlacks, hmerged⟩)
        · exact Or.inr (Or.inr ⟨hnone, mt (lacks_of_get? hget).mp hlacks, hmerged⟩)

/-! ## The laws of merging -/

/-- How two records and what they are merged to compare at every path. -/
structure Combines (base layer merged : Value) : Prop where
  /-- Where both have a record, it gets the keys of both and no others, those of the base first. -/
  keys : ∀ (path : List Scalar) (b l : Fields), base.walk path = some (.record b) →
    layer.walk path = some (.record l) → ∃ m : Fields, merged.walk path = some (.record m) ∧
      (∀ key, (m.get? key).isSome = true ↔ (b.get? key).isSome = true ∨ (l.get? key).isSome = true) ∧
      m.keys = b.keys ++ l.keys.filter fun key => (b.get? key).isNone
  replaced : ∀ path v, layer.walk path = some v → v.IsLeaf → merged.walk path = some v
  /-- Whatever counts as equal. -/
  kept : ∀ Equal : Value → Value → Prop, (∀ v, Equal v v) →
    ∀ path v, base.walk path = some v → v.IsLeaf →
      ((∃ w, merged.walk path = some w ∧ Equal w v) ↔
        layer.Lacks path ∨ ∃ w, layer.walk path = some w ∧ Equal w v)
  origin : ∀ path v, merged.walk path = some v → v.IsLeaf →
    layer.walk path = some v ∨ base.walk path = some v ∧ layer.Lacks path

theorem combines_merge (base : Fields) (h : WellKeyed (.record layer)) :
    Combines (.record base) (.record layer) (.record (merge base layer)) := by
  have hcases := walk_mergeValue_cases h (some (.record base))
  rw [mergeValue] at hcases
  simp only [Option.bind_some] at hcases
  constructor
  case keys =>
    intro path b l hb hl
    rcases hcases path with ⟨w, hw, hmerged⟩ | ⟨hlacks, -⟩ | ⟨hnone, -, -⟩
    · obtain rfl : w = .record l := Option.some.inj (hw.symm.trans hl)
      have hkeys := (h.walk hl).keys
      rw [hb, mergeValue] at hmerged
      exact ⟨merge b l, hmerged, isSome_get?_merge hkeys b, keys_merge hkeys b⟩
    · simp [hlacks.walk_eq_none] at hl
    · simp [hnone] at hl
  case replaced =>
    intro path v hv hleaf
    rcases hcases path with ⟨w, hw, hmerged⟩ | ⟨hlacks, -⟩ | ⟨hnone, -, -⟩
    · obtain rfl : w = v := Option.some.inj (hw.symm.trans hv)
      rw [hmerged, mergeValue_of_leaf hleaf]
    · simp [hlacks.walk_eq_none] at hv
    · simp [hnone] at hv
  case kept =>
    intro Equal hrefl path v hv hleaf
    rcases hcases path with ⟨w, hw, hmerged⟩ | ⟨hlacks, hmerged⟩ | ⟨hnone, hlacks, hmerged⟩
    · have hnot : ¬ Lacks (.record layer) path := by
        intro hlacks
        simp [hlacks.walk_eq_none] at hw
      rw [hv, mergeValue_of_other fun b hb => hleaf b (Option.some.inj hb)] at hmerged
      rw [hmerged, hw, or_iff_right hnot]
    · rw [hmerged, hv]
      exact iff_of_true ⟨v, rfl, hrefl v⟩ (Or.inl hlacks)
    · simp [hmerged, hnone, hlacks]
  case origin =>
    intro path v hv hleaf
    rcases hcases path with ⟨w, hw, hmerged⟩ | ⟨hlacks, hmerged⟩ | ⟨-, -, hmerged⟩
    · rw [hmerged] at hv
      rcases isLeaf_or_record w with hw' | ⟨l, rfl⟩
      · rw [mergeValue_of_leaf hw'] at hv
        exact Or.inl (hw.trans hv)
      · rw [← Option.some.inj hv] at hleaf
        exact absurd hleaf (not_isLeaf_mergeValue _ l)
    · exact Or.inr ⟨hmerged.symm.trans hv, hlacks⟩
    · simp [hmerged] at hv

/-- For all records that have no key twice at any level: the laws at every path, and that merging
once more or with an empty record changes nothing, the order of the keys included. -/
theorem merge_combines (hbase : WellKeyed (.record base)) (hlayer : WellKeyed (.record layer)) :
    Combines (.record base) (.record layer) (.record (merge base layer)) ∧
      merge (merge base layer) layer = merge base layer ∧
      ∀ fields ∈ [base, layer, merge base layer], merge fields [] = fields ∧ merge [] fields = fields := by
  have htwice := mergeValue_twice hlayer (some (.record base))
  rw [mergeValue, mergeValue, Value.record.injEq] at htwice
  refine ⟨combines_merge base hlayer, htwice, fun fields hmem => ⟨by rw [merge], ?_⟩⟩
  have hkeys : fields.Pairwise fun f g => f.1.same g.1 = false := by
    rcases List.mem_cons.mp hmem with rfl | hmem
    · exact hbase.keys
    · rcases List.mem_cons.mp hmem with rfl | hmem
      · exact hlayer.keys
      · rw [List.mem_singleton.mp hmem]
        exact pairwise_merge hbase.keys hlayer.keys
  have hnil : ([] ++ fields : Fields).Pairwise fun f g => f.1.same g.1 = false := hkeys
  rw [merge_append hnil, List.nil_append]

/-- A section that is also in `overlaidLayer`, one that is a text there, and a number that is a section there. -/
def overlaidBase : Fields :=
  [("prompt", .record [("user", .text "ada"), ("host", .null)]), ("theme", .record [("dark", .bool true)]),
    ("level", .int 1)]

def overlaidLayer : Fields :=
  [("level", .record [("root", .int 2)]), ("theme", .text "plain"),
    ("prompt", .record [("shell", .record []), ("host", .text "sea")])]

theorem merge_combines_of_overlaid :
    WellKeyed (.record overlaidBase) ∧ WellKeyed (.record overlaidLayer) ∧
      merge overlaidBase overlaidLayer =
        ([("prompt", .record [("user", .text "ada"), ("host", .text "sea"), ("shell", .record [])]),
          ("theme", .text "plain"), ("level", .record [("root", .int 2)])] : Fields) ∧
      Combines (.record overlaidBase) (.record overlaidLayer) (.record (merge overlaidBase overlaidLayer)) := by
  have hatom (a : Scalar) : WellKeyed (.atom a) := .leaf fun _ => nofun
  have hempty : WellKeyed (.record []) := .record .nil (by simp)
  have hbase : WellKeyed (.record overlaidBase) := by
    have hprompt : WellKeyed (.record [("user", .text "ada"), ("host", .null)]) :=
      .record (by decide) (by simp [hatom])
    have htheme : WellKeyed (.record [("dark", .bool true)]) := .record (by decide) (by simp [hatom])
    exact .record (by decide) (by simp [overlaidBase, hatom, hprompt, htheme])
  have hlayer : WellKeyed (.record overlaidLayer) := by
    have hlevel : WellKeyed (.record [("root", .int 2)]) := .record (by decide) (by simp [hatom])
    have hprompt : WellKeyed (.record [("shell", .record []), ("host", .text "sea")]) :=
      .record (by decide) (by simp [hatom, hempty])
    exact .record (by decide) (by simp [overlaidLayer, hatom, hlevel, hprompt])
  exact ⟨hbase, hlayer, by rfl, (merge_combines hbase hlayer).1⟩

end Settings
end GitPractice
