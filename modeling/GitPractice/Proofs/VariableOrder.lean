import GitPractice.Proofs.Overrides

/-!
# The order of the variables

Variables that spell out different parts can be applied in any order
(`Settings.applyEnvironment_perm`). Setting an entry changes no key, so it never
changes where other parts lead, with one exception: a section may be replaced by a
value without parts. What is set in the section before is lost then, and what is to be
set in it after finds no record any more, so that comes to the same.

Two variables have the same parts only if their names are the same in small letters
(`Settings.lower_eq_of_variableParts`).
-/

namespace GitPractice

namespace Text

/-! ## Small letters behind a character that ends words -/

section Stop

variable {stop : Char} (hignored : inRanges caseIgnorableRanges stop.toNat = false)
  (hcased : inRanges casedRanges stop.toNat = false)

include hignored hcased

theorem meetsCased_append_stop (before more : List Char) :
    meetsCased (before ++ stop :: more) = meetsCased before := by
  induction before with
  | nil => simp only [List.nil_append, meetsCased, hignored, hcased, Bool.false_eq_true, if_false]
  | cons c before ih => rw [List.cons_append, meetsCased, meetsCased, ih]

/-- What stands before the stop does not matter behind it. -/
theorem lowerFrom_append_stop (before more cs : List Char) :
    lowerFrom (before ++ stop :: more) cs = lowerFrom before cs := by
  induction cs generalizing before with
  | nil => rfl
  | cons c cs ih =>
    rw [lowerFrom, lowerFrom, lowerChar, lowerChar, meetsCased_append_stop hignored hcased, ← List.cons_append, ih]

end Stop

/-- Only a capital sigma looks at what stands around it. -/
theorem lowerFrom_append {cs : List Char} (h : ∀ c ∈ cs, c ≠ capitalSigma) (before more : List Char) :
    lowerFrom before (cs ++ more) = lowerFrom [] cs ++ lowerFrom (cs.reverse ++ before) more := by
  have halone {c : Char} (hc : c ≠ capitalSigma) (before after : List Char) :
      lowerChar before c after = lowerChar [] c [] := by
    rw [lowerChar, if_neg hc, lowerChar, if_neg hc]
  have hstart (cs before : List Char) (h : ∀ c ∈ cs, c ≠ capitalSigma) : lowerFrom before cs = lowerFrom [] cs := by
    induction cs generalizing before with
    | nil => rfl
    | cons c cs ih =>
      obtain ⟨hc, hcs⟩ := List.forall_mem_cons.mp h
      rw [lowerFrom, lowerFrom, halone hc, halone hc [] cs, ih (c :: before) hcs, ih [c] hcs]
  induction cs generalizing before with
  | nil => rfl
  | cons c cs ih =>
    obtain ⟨hc, hcs⟩ := List.forall_mem_cons.mp h
    rw [List.cons_append, lowerFrom, lowerFrom, halone hc, halone hc [] cs, ih hcs, hstart cs [c] hcs,
      List.append_assoc, List.reverse_cons, List.append_assoc, List.singleton_append]

end Text

namespace Fields

variable {fields : Fields}

theorem set_set (fields : Fields) (key : Scalar) (v w : Value) :
    (fields.set key v).set key w = fields.set key w := by
  induction fields with
  | nil => simp only [set, Scalar.same_self, if_true]
  | cons entry rest ih =>
    obtain ⟨k, old⟩ := entry
    by_cases hk : k.same key = true
    · rw [set, if_pos hk, set, if_pos hk, set, if_pos hk]
    · rw [set, if_neg hk, set, if_neg hk, set, if_neg hk, ih]

/-- Entries that are there can be set in any order. -/
theorem set_comm {name other : String} (hname : (fields.get? name).isSome = true)
    (hother : (fields.get? other).isSome = true) (hne : name ≠ other) (v w : Value) :
    (fields.set name v).set other w = (fields.set other w).set name v := by
  have hapart {key : Scalar} (h : key.same (.text name) = true) : key.same (.text other) = false := by
    rw [(Scalar.same_text_iff key name).mp h, ← Bool.not_eq_true, Scalar.same_text_iff]
    exact fun heq => hne (Scalar.text.inj heq)
  induction fields with
  | nil => cases hname
  | cons entry rest ih =>
    obtain ⟨k, old⟩ := entry
    rw [get?] at hname hother
    by_cases hk : k.same (.text name) = true
    · simp only [set, hk, hapart hk, if_true, Bool.false_eq_true, if_false]
    · by_cases ho : k.same (.text other) = true
      · simp only [set, hk, ho, if_true, Bool.false_eq_true, if_false]
      · rw [if_neg hk] at hname
        rw [if_neg ho] at hother
        simp only [set, hk, ho, Bool.false_eq_true, if_false, ih hname hother]

end Fields

namespace Settings

variable {s : Settings} {fields : Fields} {name : String} {parts more rest others : List String}
  {a b : Scalar} {v w : Variable} {env env' : List Variable}

/-! ## One level -/

/-- What becomes of a value when the parts that are left are spelled out in it. -/
def settle (value : Value) (rest : List String) (old : Value) : Except Fault Value :=
  match rest, old with
  | [], _ => .ok value
  | rest, .record inner => (assign inner rest value).map .record
  | _, old => .ok old

theorem settle_record (hrest : rest ≠ []) (value : Value) (inner : Fields) :
    settle value rest (.record inner) = (assign inner rest value).map .record := by
  obtain ⟨part, rest, rfl⟩ := List.exists_cons_of_ne_nil hrest
  rfl

theorem settle_of_leaf (hrest : rest ≠ []) (value : Value) {old : Value} (hold : ∀ inner, old ≠ .record inner) :
    settle value rest old = .ok old := by
  obtain ⟨part, rest, rfl⟩ := List.exists_cons_of_ne_nil hrest
  cases old with
  | record inner => exact absurd rfl (hold inner)
  | _ => rfl

theorem settle_ok {old : Value} (h : Named old) (a : Scalar) (rest : List String) :
    ∃ settled, settle (.atom a) rest old = .ok settled ∧ Named settled := by
  by_cases hrest : rest = []
  · exact ⟨.atom a, hrest ▸ rfl, Named.atom a⟩
  · by_cases hold : ∃ inner, old = .record inner
    · obtain ⟨inner, rfl⟩ := hold
      obtain ⟨changed, hchanged, hnamed, -⟩ := exists_assign h (Named.atom a) rest
      exact ⟨.record changed, by rw [settle_record hrest, hchanged]; rfl, hnamed⟩
    · exact ⟨old, settle_of_leaf hrest _ fun inner hinner => hold ⟨inner, hinner⟩, h⟩

/-- Where the parts lead is a matter of the keys: they lead nowhere in records with these keys, or to the
same entry in all of them. -/
theorem assign_level (fields : Fields) (hparts : parts ≠ []) :
    (∀ {other : Fields}, Named (.record other) → other.keys = fields.keys → ∀ value,
      assign other parts value = .ok other) ∨
    ∃ (name : String) (rest : List String), nameParts name ++ rest = parts ∧ .text name ∈ fields.keys ∧
      ∀ {other : Fields}, Named (.record other) → other.keys = fields.keys → ∀ {old : Value},
        other.get? name = some old → ∀ value,
          assign other parts value = (settle value rest old).map fun settled => other.set name settled := by
  cases hbest : bestName parts (fields.keys.filterMap Scalar.text?) with
  | none =>
    refine Or.inl fun hother hkeys value => assign_of_nowhere ?_ value
    rw [target_eq hother hparts, hkeys, hbest]
  | some name =>
    obtain ⟨hmem, ⟨rest, rfl⟩, -⟩ := bestName_eq_some hbest
    refine Or.inr ⟨name, rest, rfl, mem_filterMap_text?_iff.mp hmem, ?_⟩
    intro other hother hkeys old hold value
    have htarget := target_eq hother hparts
    rw [hkeys, hbest] at htarget
    simp only [List.drop_left, hold] at htarget
    by_cases hrest : rest = []
    · subst hrest
      rw [assign, htarget]
      rfl
    · obtain ⟨part, rest, rfl⟩ := List.exists_cons_of_ne_nil hrest
      by_cases hinner : ∃ inner, old = .record inner
      · obtain ⟨inner, rfl⟩ := hinner
        rw [assign_of_below (hother.get? hold) hold htarget, settle_record hrest]
        cases assign inner (part :: rest) value with
        | error fault => rfl
        | ok changed => rfl
      · have hleaf : ∀ inner, old ≠ .record inner := fun inner h => hinner ⟨inner, h⟩
        rw [settle_of_leaf hrest value hleaf, assign_of_nowhere ?_ value]
        · show _ = Except.ok (other.set name old)
          rw [Fields.set_eq_self hold]
        · rw [htarget]
          cases old with
          | record inner => exact absurd rfl (hleaf inner)
          | _ => rfl

/-! ## Two assignments -/

/-- Both parts can be set in either order, and that comes to the same. -/
def Commute (fields : Fields) (parts more : List String) (v w : Value) : Prop :=
  ∃ both, (assign fields parts v).bind (fun changed => assign changed more w) = .ok both ∧
    (assign fields more w).bind (fun changed => assign changed parts v) = .ok both

theorem Commute.symm {v w : Value} (h : Commute fields parts more v w) : Commute fields more parts w v := by
  obtain ⟨both, hfirst, hsecond⟩ := h
  exact ⟨both, hsecond, hfirst⟩

/-- Parts that lead nowhere lead nowhere afterwards. -/
theorem Commute.of_nowhere (h : Named (.record fields))
    (hnowhere : ∀ {other : Fields}, Named (.record other) → other.keys = fields.keys → ∀ value,
      assign other parts value = .ok other) (more : List String) (a b : Scalar) :
    Commute fields parts more (.atom a) (.atom b) := by
  obtain ⟨changed, hchanged, hnamed, hkeys⟩ := exists_assign h (Named.atom b) more
  refine ⟨changed, ?_, ?_⟩
  · rw [hnowhere h rfl]
    exact hchanged
  · rw [hchanged]
    exact hnowhere hnamed hkeys _

theorem settle_comm {old : Value} (h : Named old) (hne : rest ≠ others)
    (hinner : ∀ inner, old = .record inner → rest ≠ [] → Commute inner rest others (.atom a) (.atom b)) :
    ∃ both, (settle (.atom a) rest old).bind (settle (.atom b) others) = .ok both ∧
      (settle (.atom b) others old).bind (settle (.atom a) rest) = .ok both := by
  have hatom (c : Scalar) : ∀ inner, Value.atom c ≠ .record inner := fun inner => nofun
  by_cases hrest : rest = []
  · -- the whole value is replaced, before or after
    subst hrest
    obtain ⟨settled, hsettled, -⟩ := settle_ok h b others
    refine ⟨.atom a, settle_of_leaf hne.symm _ (hatom a), ?_⟩
    rw [hsettled]
    rfl
  by_cases hothers : others = []
  · subst hothers
    obtain ⟨settled, hsettled, -⟩ := settle_ok h a rest
    refine ⟨.atom b, ?_, settle_of_leaf hrest _ (hatom b)⟩
    rw [hsettled]
    rfl
  by_cases hrecord : ∃ inner, old = .record inner
  · obtain ⟨inner, rfl⟩ := hrecord
    obtain ⟨both, hfirst, hsecond⟩ := hinner inner rfl hrest
    obtain ⟨one, hone, -⟩ := exists_assign h (Named.atom a) rest
    obtain ⟨other, hother, -⟩ := exists_assign h (Named.atom b) others
    rw [hone] at hfirst
    rw [hother] at hsecond
    refine ⟨.record both, ?_, ?_⟩
    · rw [settle_record hrest, hone]
      show settle _ others (.record one) = _
      rw [settle_record hothers]
      exact congrArg (Except.map Value.record) hfirst
    · rw [settle_record hothers, hother]
      show settle _ rest (.record other) = _
      rw [settle_record hrest]
      exact congrArg (Except.map Value.record) hsecond
  · have hleaf : ∀ inner, old ≠ .record inner := fun inner h => hrecord ⟨inner, h⟩
    refine ⟨old, ?_, ?_⟩
    · rw [settle_of_leaf hrest _ hleaf]
      exact settle_of_leaf hothers _ hleaf
    · rw [settle_of_leaf hothers _ hleaf]
      exact settle_of_leaf hrest _ hleaf

/-- Different parts can be set in either order. -/
theorem assign_comm (h : Named (.record fields)) (hne : parts ≠ more) (a b : Scalar) :
    Commute fields parts more (.atom a) (.atom b) := by
  -- on the number of parts: where both go on in the same record, fewer of them are left
  induction hlength : parts.length using Nat.strongRecOn generalizing fields parts more with
  | ind n ih =>
    have hnil (other : Fields) (value : Value) : assign other [] value = .ok other :=
      assign_of_nowhere (target_nil other) value
    by_cases hparts : parts = []
    · exact .of_nowhere h (fun _ _ value => hparts ▸ hnil _ value) more a b
    by_cases hmore : more = []
    · exact (Commute.of_nowhere h (fun _ _ value => hmore ▸ hnil _ value) parts b a).symm
    rcases assign_level fields hparts with hnowhere | ⟨name, rest, hspelled, hname, hlevel⟩
    · exact .of_nowhere h hnowhere more a b
    rcases assign_level fields hmore with hnowhere | ⟨other, others, hspelled', hother, hlevel'⟩
    · exact (Commute.of_nowhere h hnowhere parts b a).symm
    rw [← Fields.isSome_get?_iff] at hname hother
    obtain ⟨old, hold⟩ := Option.isSome_iff_exists.mp hname
    obtain ⟨old', hold'⟩ := Option.isSome_iff_exists.mp hother
    obtain ⟨one, hone, hnamed⟩ := settle_ok (h.get? hold) a rest
    obtain ⟨two, htwo, hnamed'⟩ := settle_ok (h.get? hold') b others
    have hfirst : assign fields parts (.atom a) = .ok (fields.set name one) := by
      rw [hlevel h rfl hold, hone]
      rfl
    have hsecond : assign fields more (.atom b) = .ok (fields.set other two) := by
      rw [hlevel' h rfl hold', htwo]
      rfl
    have hset := h.set hname hnamed
    have hset' := h.set hother hnamed'
    rw [Commute, hfirst, hsecond]
    show ∃ both, assign (fields.set name one) more _ = .ok both ∧ assign (fields.set other two) parts _ = .ok both
    by_cases hsame : name = other
    · subst hsame
      obtain rfl : old = old' := Option.some.inj (hold.symm.trans hold')
      have hshorter : rest.length < n := by
        have hname := List.length_pos_iff.mpr (nameParts_ne_nil name)
        rw [← hlength, ← hspelled, List.length_append]
        omega
      have hrests : rest ≠ others := fun heq => hne (by rw [← hspelled, ← hspelled', heq])
      obtain ⟨both, hboth, hboth'⟩ := settle_comm (a := a) (b := b) (h.get? hold) hrests fun inner hinner _ =>
        ih rest.length hshorter (hinner ▸ h.get? hold) hrests rfl
      rw [hone] at hboth
      rw [htwo] at hboth'
      refine ⟨fields.set name both, ?_, ?_⟩
      · rw [hlevel' hset (Fields.keys_set hname one) (Fields.get?_set_self _ _ _),
          show settle _ others one = _ from hboth]
        exact congrArg Except.ok (Fields.set_set _ _ _ _)
      · rw [hlevel hset' (Fields.keys_set hname two) (Fields.get?_set_self _ _ _),
          show settle _ rest two = _ from hboth']
        exact congrArg Except.ok (Fields.set_set _ _ _ _)
    · refine ⟨(fields.set name one).set other two, ?_, ?_⟩
      · rw [hlevel' hset (Fields.keys_set hname one) ((Fields.get?_set_text_of_ne _ _ hsame).trans hold'), htwo]
        rfl
      · rw [hlevel hset' (Fields.keys_set hother two) ((Fields.get?_set_text_of_ne _ _ (Ne.symm hsame)).trans hold),
          hone]
        exact congrArg Except.ok (Fields.set_comm hname hother hsame one two).symm

/-! ## Two variables -/

theorem toList_of_isOverride (h : isOverride v = true) :
    ∃ rest, v.1.toList = variableStart.toList ++ rest := by
  rw [isOverride, Bool.and_eq_true, Text.startsWith, List.isPrefixOf_iff_prefix] at h
  obtain ⟨⟨rest, hrest⟩, -⟩ := h
  exact ⟨rest, hrest.symm⟩

/-- The small form of a name is that of its start and that of what follows. -/
theorem lower_of_isOverride (h : isOverride v = true) :
    Text.lower v.1 =
      Text.lower variableStart ++ Text.lower (String.ofList (v.1.toList.drop variableStart.length)) := by
  have hsigma : ∀ c ∈ variableStart.toList, c ≠ Text.capitalSigma := by
    have hall : variableStart.toList.all (· ≠ Text.capitalSigma) = true := by decide
    simpa using hall
  have hreverse : variableStart.toList.reverse = [] ++ '_' :: ['M', 'I', 'S', 'T', 'I', 'G'] := by decide
  have hstop : Text.inRanges Text.caseIgnorableRanges '_'.toNat = false := by decide +kernel
  have hcased : Text.inRanges Text.casedRanges '_'.toNat = false := by decide +kernel
  obtain ⟨rest, hrest⟩ := toList_of_isOverride h
  have hdrop : v.1.toList.drop variableStart.length = rest := by
    rw [hrest, ← String.length_toList, List.drop_left]
  rw [hdrop, Text.lower, hrest, Text.lowerFrom_append hsigma, List.append_nil, hreverse,
    Text.lowerFrom_append_stop hstop hcased, String.ofList_append, Text.lower, Text.lower, String.toList_ofList]

/-- Names that spell out the same parts are the same in small letters. -/
theorem lower_eq_of_variableParts (hv : isOverride v = true) (hw : isOverride w = true)
    (h : variableParts v.1 = variableParts w.1) : Text.lower v.1 = Text.lower w.1 := by
  rw [lower_of_isOverride hv, lower_of_isOverride hw, nameParts_injective h]

/-- Variables that can be used can be applied in either order unless they spell out the same parts. -/
theorem applyVariable_comm (hs : Named (.record s.fields))
    (hv : isOverride v = true → ∃ value, coerce v.2 = .ok value)
    (hw : isOverride w = true → ∃ value, coerce w.2 = .ok value)
    (hne : isOverride v = true → isOverride w = true → variableParts v.1 ≠ variableParts w.1) :
    (s.applyVariable v).bind (fun t => t.applyVariable w) = (s.applyVariable w).bind (fun t => t.applyVariable v) := by
  cases hvover : isOverride v with
  | false =>
    rw [applyVariable_of_other hvover]
    show s.applyVariable w = _
    cases s.applyVariable w with
    | error fault => rfl
    | ok t => exact (applyVariable_of_other hvover).symm
  | true =>
    cases hwover : isOverride w with
    | false =>
      rw [applyVariable_of_other hwover]
      show _ = s.applyVariable v
      cases s.applyVariable v with
      | error fault => rfl
      | ok t => exact applyVariable_of_other hwover
    | true =>
      obtain ⟨value, hvalue⟩ := hv hvover
      obtain ⟨other, hother⟩ := hw hwover
      obtain ⟨a, rfl⟩ := atom_of_coerce hvalue
      obtain ⟨b, rfl⟩ := atom_of_coerce hother
      obtain ⟨one, hone, hnamed, -⟩ := exists_assign hs (Named.atom a) (variableParts v.1)
      obtain ⟨two, htwo, hnamed', -⟩ := exists_assign hs (Named.atom b) (variableParts w.1)
      obtain ⟨both, hfirst, hsecond⟩ := assign_comm hs (hne hvover hwover) a b
      rw [hone] at hfirst
      rw [htwo] at hsecond
      rw [applyVariable_of_value hs hvover hvalue, applyVariable_of_value hs hwover hother, hone, htwo]
      simp only [Except.map, Except.bind] at hfirst hsecond ⊢
      rw [applyVariable_of_value hnamed hwover hother, applyVariable_of_value hnamed' hvover hvalue, hfirst, hsecond]

/-! ## All variables -/

/-- No two variables that are meant for the settings have the same name in small letters. -/
def Distinct (env : List Variable) : Prop :=
  env.Pairwise fun v w => isOverride v = true → isOverride w = true → Text.lower v.1 ≠ Text.lower w.1

/-- The values of the variables that are meant for the settings can be used. -/
def Usable (env : List Variable) : Prop :=
  ∀ v ∈ env, isOverride v = true → ∃ value, coerce v.2 = .ok value

theorem not_isNoNumber_of_coerce {text : String} (h : ∃ value, coerce text = .ok value) : ¬ IsNoNumber text := by
  intro hno
  obtain ⟨fault, hfault⟩ := (coerce_fails_iff text).mpr hno
  obtain ⟨value, hvalue⟩ := h
  rw [hvalue] at hfault
  cases hfault

theorem Distinct.perm (h : Distinct env) (hperm : env.Perm env') : Distinct env' :=
  (hperm.pairwise_iff fun hne hw hv => (hne hv hw).symm).mp h

theorem Usable.perm (h : Usable env) (hperm : env.Perm env') : Usable env' :=
  fun v hv => h v (hperm.mem_iff.mpr hv)

theorem Usable.applyEnvironment_ok (h : Usable env) (hs : Named (.record s.fields)) :
    ∃ t, s.applyEnvironment env = .ok t := by
  cases hok : s.applyEnvironment env with
  | ok t => exact ⟨t, rfl⟩
  | error fault =>
    obtain ⟨v, hv, hover, hno⟩ := (fails_iff_of_named hs env).mp ⟨fault, hok⟩
    exact absurd hno (not_isNoNumber_of_coerce (h v hv hover))

theorem applyEnvironment_eq_of_perm (hperm : env.Perm env') (hs : Named (.record s.fields))
    (hdistinct : Distinct env) (husable : Usable env) : s.applyEnvironment env = s.applyEnvironment env' := by
  induction hperm generalizing s with
  | nil => rfl
  | cons v hperm ih =>
    obtain ⟨hv, henv⟩ := List.forall_mem_cons.mp husable
    obtain ⟨t, ht, hnamed⟩ := applyVariable_ok hs fun hover => not_isNoNumber_of_coerce (hv hover)
    rw [applyEnvironment_cons, applyEnvironment_cons, ht]
    exact ih hnamed (List.pairwise_cons.mp hdistinct).2 henv
  | swap v w env =>
    obtain ⟨hw, hv, -⟩ := List.forall_mem_cons.mp husable |>.imp id List.forall_mem_cons.mp
    have hne := (List.pairwise_cons.mp hdistinct).1 v List.mem_cons_self
    have hcomm := applyVariable_comm hs hw hv fun hwover hvover heq =>
      hne hwover hvover (lower_eq_of_variableParts hwover hvover heq)
    have hassoc (x : Except Fault Settings) (u : Variable) :
        x.bind (fun t => (t.applyVariable u).bind fun t => t.applyEnvironment env) =
          (x.bind fun t => t.applyVariable u).bind fun t => t.applyEnvironment env := by
      cases x <;> rfl
    simp only [applyEnvironment_cons, hassoc, hcomm]
  | trans hfirst hsecond ih ih' =>
    exact (ih hs hdistinct husable).trans (ih' hs (hdistinct.perm hfirst) (husable.perm hfirst))

/-- Whatever the records of the settings: variables whose names are different in small letters and whose
values can be used give the same settings in every order. -/
theorem applyEnvironment_perm (hs : Named (.record s.fields)) (hperm : env.Perm env') (hdistinct : Distinct env)
    (husable : Usable env) : ∃ t, s.applyEnvironment env = .ok t ∧ s.applyEnvironment env' = .ok t := by
  obtain ⟨t, ht⟩ := husable.applyEnvironment_ok hs
  exact ⟨t, ht, by rw [← applyEnvironment_eq_of_perm hperm hs hdistinct husable, ht]⟩

/-- A section that is replaced as a whole and a setting in it, which is lost or not found. -/
theorem applyEnvironment_perm_of_replaced :
    let s : Settings := { fields := [("log", .record [("level", .text "INFO"), ("file_name", .null)])] }
    let env := [("GITSIM_LOG", "off"), ("GITSIM_LOG_FILE_NAME", "log.txt"), ("GITSIM_CONFIG", "²")]
    Named (.record s.fields) ∧ env.Perm env.reverse ∧ Distinct env ∧ Usable env ∧
      ∃ t, s.applyEnvironment env = .ok t ∧ s.applyEnvironment env.reverse = .ok t := by
  intro s env
  have hs : Named (.record s.fields) := by
    refine .record (by decide) (List.forall_mem_singleton.mpr (.record (by decide) ?_))
    simp [Named.atom]
  have hperm : env.Perm env.reverse := env.reverse_perm.symm
  have hdistinct : Distinct env := by
    unfold Distinct
    decide +kernel
  have husable : Usable env := by
    rw [Usable, List.forall_mem_cons, List.forall_mem_cons, List.forall_mem_singleton]
    exact ⟨fun _ => ⟨.bool false, rfl⟩, fun _ => ⟨.text "log.txt", rfl⟩, fun h => absurd h (by decide +kernel)⟩
  exact ⟨hs, hperm, hdistinct, husable, applyEnvironment_perm hs hperm hdistinct husable⟩

end Settings
end GitPractice
