import GitPractice.Settings.Basic
import GitPractice.Settings.Layer

/-!
# Merging layers

Settings are the same for all that uses them if they differ in the order of entries
only. The order in which a layer comes makes no other difference to what it is merged
to (`Settings.alike_ofLayers`): what stands at a key afterwards depends on what the
two layers have at that key.
-/

namespace GitPractice

namespace Value

/-- Values that differ in the order of entries only. -/
inductive Alike : Value → Value → Prop
  | refl (v : Value) : Alike v v
  | list {items others : List Value} (length : items.length = others.length)
    (values : ∀ (n : Nat) v w, items[n]? = some v → others[n]? = some w → Alike v w) : Alike (.list items) (.list others)
  | record {fields others : Fields} (keys : ∀ key, (fields.get? key).isSome = (others.get? key).isSome)
    (values : ∀ key v w, fields.get? key = some v → others.get? key = some w → Alike v w) :
    Alike (.record fields) (.record others)

/-- A value as JSON has them: scalars, lists, and records in which no key occurs twice. -/
inductive IsTree : Value → Prop
  | atom (a : Scalar) : IsTree (.atom a)
  | list {items : List Value} (values : ∀ item ∈ items, IsTree item) : IsTree (.list items)
  | record {fields : Fields} (keys : fields.Pairwise fun f g => f.1.same g.1 = false)
    (values : ∀ entry ∈ fields, IsTree entry.2) : IsTree (.record fields)

end Value

namespace Fields

variable {fields : Fields} {key other : Scalar} {v : Value}

theorem get?_congr (h : key.same other = true) (fields : Fields) : fields.get? key = fields.get? other := by
  have hnormal : key.normal = other.normal := of_decide_eq_true h
  induction fields with
  | nil => rfl
  | cons entry rest ih =>
    obtain ⟨k, v⟩ := entry
    rw [get?, get?, ih, Scalar.same, Scalar.same, hnormal]

theorem exists_of_get? (h : fields.get? key = some v) : ∃ entry ∈ fields, entry.1.same key = true ∧ entry.2 = v := by
  induction fields with
  | nil => cases h
  | cons entry rest ih =>
    obtain ⟨k, w⟩ := entry
    rw [get?] at h
    split at h
    next hk =>
      cases h
      exact ⟨(k, v), List.mem_cons_self, hk, rfl⟩
    next =>
      obtain ⟨entry, hmem, hentry⟩ := ih h
      exact ⟨entry, List.mem_cons_of_mem _ hmem, hentry⟩

/-- Keys that are the same as one key are the same. -/
theorem get?_eq_none (hkey : key.same other = true) (h : ∀ entry ∈ fields, key.same entry.1 = false) :
    fields.get? other = none := by
  cases hget : fields.get? other with
  | none => rfl
  | some v =>
    obtain ⟨entry, hmem, hsame, -⟩ := exists_of_get? hget
    have hboth : key.same entry.1 = true := by
      rw [Scalar.same, decide_eq_true_eq] at hkey hsame ⊢
      exact hkey.trans hsame.symm
    rw [h entry hmem] at hboth
    cases hboth

end Fields

namespace Value.IsTree

variable {fields : Fields} {key : Scalar} {v : Value}

theorem get? (h : IsTree (.record fields)) (hv : fields.get? key = some v) : IsTree v := by
  obtain ⟨entry, hmem, -, rfl⟩ := Fields.exists_of_get? hv
  cases h with
  | record keys values => exact values entry hmem

end Value.IsTree

namespace Settings

open Value (Alike IsTree)

variable {base layer other : Fields} {key : Scalar} {v w : Value}

theorem get?_merge (h : layer.Pairwise fun f g => f.1.same g.1 = false) (base : Fields) (key : Scalar) :
    (merge base layer).get? key =
      match layer.get? key with
      | some v => some (mergeValue (base.get? key) v)
      | none => base.get? key := by
  induction layer generalizing base with
  | nil => rw [merge]; rfl
  | cons entry rest ih =>
    obtain ⟨k, v⟩ := entry
    obtain ⟨hfirst, hrest⟩ := List.pairwise_cons.mp h
    rw [merge, ih hrest, Fields.get?]
    by_cases hk : k.same key = true
    · rw [if_pos hk, Fields.get?_eq_none hk hfirst]
      dsimp only
      rw [← Fields.get?_congr hk, ← Fields.get?_congr hk, Fields.get?_set_self]
    · rw [if_neg hk, Fields.get?_set_of_not_same base _ (Bool.eq_false_iff.mpr hk)]

theorem mergeValue_of_other {before : Option Value} (h : ∀ base, before ≠ some (.record base)) (v : Value) :
    mergeValue before v = v := by
  rw [mergeValue]
  exact fun base _ hbefore _ => h base hbefore

theorem mergeValue_of_list (before : Option Value) (items : List Value) :
    mergeValue before (.list items) = .list items := by
  rw [mergeValue]
  nofun

theorem both_or_none (keys : ∀ key, (layer.get? key).isSome = (other.get? key).isSome) (key : Scalar) :
    (layer.get? key = none ∧ other.get? key = none) ∨
      ∃ v w, layer.get? key = some v ∧ other.get? key = some w := by
  have hkey := keys key
  cases hl : layer.get? key with
  | none =>
    rw [hl, eq_comm, Option.isSome_none, Option.isSome_eq_false_iff, Option.isNone_iff_eq_none] at hkey
    exact Or.inl ⟨rfl, hkey⟩
  | some v =>
    rw [hl, eq_comm, Option.isSome_some, Option.isSome_iff_exists] at hkey
    obtain ⟨w, hw⟩ := hkey
    exact Or.inr ⟨v, w, rfl, hw⟩

/-- Merged records are compared key by key. -/
theorem alike_merge (keys : ∀ key, (layer.get? key).isSome = (other.get? key).isSome)
    (hlayer : layer.Pairwise fun f g => f.1.same g.1 = false)
    (hother : other.Pairwise fun f g => f.1.same g.1 = false)
    (values : ∀ key v w before, layer.get? key = some v → other.get? key = some w →
      Alike (mergeValue before v) (mergeValue before w)) (base : Fields) :
    Alike (.record (merge base layer)) (.record (merge base other)) := by
  refine .record (fun key => ?_) fun key v w hv hw => ?_
  · rw [get?_merge hlayer, get?_merge hother]
    rcases both_or_none keys key with ⟨hl, ho⟩ | ⟨v, w, hl, ho⟩
    · rw [hl, ho]
    · rw [hl, ho]
      rfl
  · rw [get?_merge hlayer] at hv
    rw [get?_merge hother] at hw
    rcases both_or_none keys key with ⟨hl, ho⟩ | ⟨v', w', hl, ho⟩
    · rw [hl] at hv
      rw [ho] at hw
      cases hv.symm.trans hw
      exact .refl _
    · rw [hl] at hv
      rw [ho] at hw
      cases hv
      cases hw
      exact values key v' w' _ hl ho

theorem alike_mergeValue (h : Alike v w) (hv : IsTree v) (hw : IsTree w) (before : Option Value) :
    Alike (mergeValue before v) (mergeValue before w) := by
  -- on how the values are alike: what is below records is merged with what stood there before
  induction h generalizing before with
  | refl v => exact .refl _
  | list length values ih =>
    rw [mergeValue_of_list, mergeValue_of_list]
    exact .list length values
  | record keys values ih =>
    by_cases hbefore : ∃ base, before = some (.record base)
    · obtain ⟨base, rfl⟩ := hbefore
      cases hv with
      | record hfields hvalues =>
      cases hw with
      | record hothers hvalues' =>
      rw [mergeValue, mergeValue]
      refine alike_merge keys hfields hothers (fun key v w before hget hget' => ?_) base
      exact ih key v w hget hget' ((IsTree.record hfields hvalues).get? hget)
        ((IsTree.record hothers hvalues').get? hget') before
    · have hother : ∀ base, before ≠ some (.record base) := fun base h => hbefore ⟨base, h⟩
      rw [mergeValue_of_other hother, mergeValue_of_other hother]
      exact .record keys values

/-- Where nothing is kept apart, a layer is merged as it is. -/
theorem openFor_of_whole (base layer : Fields) : openFor #[] base layer = layer := by
  induction hsize : sizeOf base using Nat.strongRecOn generalizing base layer with
  | ind size ih =>
    rw [openFor]
    refine (List.map_congr_left fun entry _ => ?_).trans (List.map_id layer)
    obtain ⟨key, value⟩ := entry
    dsimp only
    split
    next inner fields hinner hvalue =>
      have hrecord : value = .record fields := by
        cases value with
        | shared n => simp [Parts.head, Parts.content] at hvalue
        | _ => exact hvalue
      rw [hrecord, ih _ (hsize ▸ sizeOf_lt_of_get? hinner) inner fields rfl]
      rfl
    next => rfl

theorem alike_ofLayers (h : Alike (.record layer) (.record other)) (hlayer : IsTree (.record layer))
    (hother : IsTree (.record other)) (base : Fields) :
    Alike (ofLayers base layer #[]).toValue (.record (merge base other)) := by
  have hmerge := alike_mergeValue h hlayer hother (some (.record base))
  rw [mergeValue, mergeValue] at hmerge
  rw [ofLayers, openFor_of_whole]
  exact hmerge

end Settings
end GitPractice
