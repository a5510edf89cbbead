import GitPractice.Proofs.Coercion
import GitPractice.Proofs.Targets

/-!
# Settings from the environment

The variables are applied one after the other to the default settings. The
application fails exactly if a variable looks like a number and is none, also one
that names no setting at all (`Settings.applyEnvironment_fails_iff`).

A variable decides alone what kind of value a setting has: whatever the setting
held before, digits make it an integer and other words a text. The records stay as
they are: each setting of a section holds what the last variable says that spells it
out, or its default (`Settings.follows_applyEnvironment`). Only a variable that
spells out a section and nothing more puts something else in its place.
-/

namespace GitPractice
namespace Settings

variable {s t : Settings} {env : List Variable} {v : Variable}

theorem atom_of_coerce {text : String} {value : Value} (h : coerce text = .ok value) :
    ∃ a, value = .atom a := by
  rw [coerce] at h
  split at h
  · cases h
    exact ⟨_, rfl⟩
  · split at h
    · cases h
      exact ⟨_, rfl⟩
    · split at h
      · obtain ⟨n, -, h⟩ := exists_of_bind_ok h
        cases h
        exact ⟨_, rfl⟩
      · cases h
        exact ⟨_, rfl⟩

/-- Nothing is kept apart in settings that can be searched, so that their records are set in place. -/
theorem assignEntry_eq (h : Named (.record s.fields)) (parts : List String) (value : Value) :
    s.assignEntry parts value = (assign s.fields parts value).map fun fields => { s with fields } := by
  rw [assignEntry]
  rcases target_ok h parts with hnone | ⟨place, name, hentry⟩
  · rw [hnone]
    cases assign s.fields parts value with
    | error fault => rfl
    | ok fields => rfl
  · rw [hentry]
    cases assign s.fields parts value with
    | error fault => rfl
    | ok fields => rfl

/-! ## One variable -/

theorem applyVariable_of_other (h : isOverride v = false) : s.applyVariable v = .ok s := by
  rw [applyVariable, h]
  rfl

theorem applyVariable_of_value (hs : Named (.record s.fields)) (h : isOverride v = true) {value : Value}
    (hvalue : coerce v.2 = .ok value) :
    s.applyVariable v = (assign s.fields (variableParts v.1) value).map fun fields => { s with fields } := by
  rw [applyVariable, if_pos h, hvalue, ← assignEntry_eq hs]
  simp only [bind, Except.bind]

theorem applyVariable_of_fault (h : isOverride v = true) {fault : Fault} (hfault : coerce v.2 = .error fault) :
    s.applyVariable v = .error fault := by
  rw [applyVariable, if_pos h, hfault]
  rfl

/-- A variable is applied unless it cannot be used; where it leads makes no difference. -/
theorem applyVariable_ok (hs : Named (.record s.fields)) (h : isOverride v = true → ¬ IsNoNumber v.2) :
    ∃ t, s.applyVariable v = .ok t ∧ Named (.record t.fields) := by
  cases hv : isOverride v with
  | false => exact ⟨s, applyVariable_of_other hv, hs⟩
  | true =>
    cases hvalue : coerce v.2 with
    | error fault => exact absurd ((coerce_fails_iff v.2).mp ⟨fault, hvalue⟩) (h hv)
    | ok value =>
      obtain ⟨a, rfl⟩ := atom_of_coerce hvalue
      obtain ⟨changed, hchanged, hnamed, -⟩ := exists_assign hs (Named.atom a) (variableParts v.1)
      refine ⟨{ s with fields := changed }, ?_, hnamed⟩
      rw [applyVariable_of_value hs hv hvalue, hchanged]
      rfl

theorem applyVariable_fails (h : isOverride v = true)
    (hvalue : IsNoNumber v.2) : ∃ fault, s.applyVariable v = .error fault := by
  obtain ⟨fault, hfault⟩ := (coerce_fails_iff v.2).mpr hvalue
  exact ⟨fault, applyVariable_of_fault h hfault⟩

/-! ## All variables -/

theorem applyEnvironment_cons (s : Settings) (v : Variable) (env : List Variable) :
    s.applyEnvironment (v :: env) = (s.applyVariable v).bind fun t => t.applyEnvironment env := by
  rw [applyEnvironment, List.foldlM_cons]
  rfl

theorem applyEnvironment_concat (s : Settings) (env : List Variable) (v : Variable) :
    s.applyEnvironment (env ++ [v]) = (s.applyEnvironment env).bind fun t => t.applyVariable v := by
  rw [applyEnvironment, List.foldlM_append]
  show (s.applyEnvironment env >>= fun t => t.applyVariable v >>= pure) = _
  simp only [bind_pure]
  rfl

theorem applyEnvironment_of_none (h : ∀ v ∈ env, isOverride v = false) : s.applyEnvironment env = .ok s := by
  induction env with
  | nil => rfl
  | cons v env ih =>
    rw [List.forall_mem_cons] at h
    rw [applyEnvironment_cons, applyVariable_of_other h.1]
    exact ih h.2

/-- Every section holds settings without parts. -/
theorem flat_defaults : ∀ entry ∈ defaults, ∃ fields, entry.2 = .record fields ∧
    (∀ key ∈ Fields.keys fields, key.isText = true) ∧ ∀ setting ∈ fields, ∃ a, setting.2 = .atom a := by
  simp only [defaults, List.forall_mem_cons]
  refine ⟨?_, ?_, ?_, ?_, nofun⟩ <;> refine ⟨_, rfl, by decide, ?_⟩ <;> simp

theorem named_defaults : Named (.record defaults) := by
  refine .record (by decide) fun entry hentry => ?_
  obtain ⟨fields, hfields, hkeys, hatoms⟩ := flat_defaults entry hentry
  rw [hfields]
  refine .record hkeys fun setting hsetting => ?_
  obtain ⟨a, ha⟩ := hatoms setting hsetting
  rw [ha]
  exact Named.atom a

theorem fails_iff_of_named (hs : Named (.record s.fields)) (env : List Variable) :
    (∃ fault, s.applyEnvironment env = .error fault) ↔
      ∃ v ∈ env, isOverride v = true ∧ IsNoNumber v.2 := by
  induction env generalizing s with
  | nil =>
    refine iff_of_false ?_ fun ⟨v, hv, _⟩ => nomatch hv
    rintro ⟨fault, hfault⟩
    cases hfault
  | cons v env ih =>
    rw [applyEnvironment_cons, List.exists_mem_cons_iff]
    by_cases hv : isOverride v = true ∧ IsNoNumber v.2
    · obtain ⟨fault, hfault⟩ := applyVariable_fails hv.1 hv.2
      exact iff_of_true ⟨fault, by rw [hfault]; rfl⟩ (Or.inl hv)
    · obtain ⟨t, ht, hnamed⟩ := applyVariable_ok hs fun hoverride hno => hv ⟨hoverride, hno⟩
      rw [ht, or_iff_right hv, ← ih hnamed]
      rfl

/-- Whatever variables are set, they cannot be applied to the default settings exactly if one of them
that is meant for the settings looks like a number and is none that is read. -/
theorem applyEnvironment_fails_iff (env : List Variable) :
    (∃ fault, (defaults : Settings).applyEnvironment env = .error fault) ↔
      ∃ v ∈ env, isOverride v = true ∧ IsNoNumber v.2 :=
  fails_iff_of_named named_defaults env

theorem applyEnvironment_of_raised :
    (defaults : Settings).applyEnvironment [("GITSIM_PROMPT_USER", "²")] =
      .error (.malformedInteger "²") := by
  rfl

/-! ## What a setting holds afterwards -/

/-- Whether the variable is meant for the settings and its name spells out these parts. -/
def spells (parts : List String) (v : Variable) : Bool := isOverride v && variableParts v.1 = parts

/-- What the last variable says that spells out these parts. -/
def lastSaid? (env : List Variable) (parts : List String) : Option Value :=
  (env.reverse.find? (spells parts)).bind fun v => (coerce v.2).toOption

/-- The section has the settings of its default, and each of them is as the last variable says that spells
it out, or as it was. -/
structure SectionFollows (env : List Variable) (name : String) (before after : Fields) : Prop where
  keys : after.keys = before.keys
  settings : ∀ (key : String) (value : Value), before.get? key = some value →
    after.get? key = some ((lastSaid? env (nameParts name ++ nameParts key)).getD value)

/-- The settings have the sections of the defaults, and those that no variable spells out as a whole are
as the variables say. -/
structure Follows (s : Settings) (env : List Variable) : Prop where
  whole : s.parts = #[]
  sections : s.fields.keys = Fields.keys defaults
  settings : ∀ (name : String) (before : Fields), Fields.get? name defaults = some (.record before) →
    (∀ v ∈ env, spells (nameParts name) v = false) →
      ∃ after : Fields, s.fields.get? name = some (.record after) ∧ SectionFollows env name before after

variable {parts : List String}

theorem spells_iff : spells parts v = true ↔ isOverride v = true ∧ variableParts v.1 = parts := by
  simp [spells]

theorem lastSaid?_concat_of_spells (h : spells parts v = true) {value : Value} (hvalue : coerce v.2 = .ok value) :
    lastSaid? (env ++ [v]) parts = some value := by
  rw [lastSaid?, List.reverse_append, List.reverse_singleton, List.singleton_append, List.find?_cons, h]
  show (coerce v.2).toOption = some value
  rw [hvalue]
  rfl

theorem lastSaid?_concat_of_other (h : spells parts v = false) :
    lastSaid? (env ++ [v]) parts = lastSaid? env parts := by
  rw [lastSaid?, List.reverse_append, List.reverse_singleton, List.singleton_append, List.find?_cons, h]
  rfl

theorem atom_of_lastSaid? {value : Value} (h : lastSaid? env parts = some value) : ∃ a, value = .atom a := by
  obtain ⟨v, -, hv⟩ := Option.bind_eq_some_iff.mp h
  cases hc : coerce v.2 with
  | error fault =>
    rw [hc] at hv
    cases hv
  | ok said =>
    rw [hc] at hv
    obtain rfl : said = value := Option.some.inj hv
    exact atom_of_coerce hc

/-- The sections have names of one part each, so none of them can be taken for another one. -/
theorem nameParts_section {name : String} (h : .text name ∈ Fields.keys defaults) : nameParts name = [name] := by
  have hsections : Fields.keys defaults = ["prompt", "display", "topics", "logging"].map Scalar.text := rfl
  rw [hsections, List.mem_map] at h
  obtain ⟨other, hother, heq⟩ := h
  obtain rfl : other = name := Scalar.text.inj heq
  revert other
  decide +kernel

theorem atom_of_default {name key : String} {before : Fields} {value : Value}
    (h : Fields.get? name defaults = some (.record before)) (hkey : before.get? key = some value) :
    ∃ a, value = .atom a := by
  obtain ⟨fields, hfields, -, hatoms⟩ := flat_defaults _ (Fields.mem_of_get? h)
  obtain rfl : before = fields := Value.record.inj hfields
  exact hatoms _ (Fields.mem_of_get? hkey)

/-- Setting an entry of a section without parts sets the one that is spelled out, if there is one. -/
theorem assign_flat {fields : Fields} (h : Named (.record fields))
    (hflat : ∀ (key : String) (inner : Fields), fields.get? key ≠ some (.record inner))
    (hparts : parts ≠ []) (value : Value) :
    ∃ changed, assign fields parts value = .ok changed ∧ ∀ key : String, (fields.get? key).isSome = true →
      changed.get? key = if nameParts key = parts then some value else fields.get? key := by
  by_cases hspelled : ∃ key : String, (fields.get? key).isSome = true ∧ nameParts key = parts
  · obtain ⟨key, hkey, rfl⟩ := hspelled
    refine ⟨_, assign_self h hkey value, fun other _ => ?_⟩
    by_cases heq : key = other
    · subst heq
      rw [if_pos rfl, Fields.get?_set_self]
    · rw [if_neg fun hparts => heq (nameParts_injective hparts).symm, Fields.get?_set_text_of_ne _ _ heq]
  · have hnone (key : String) (hkey : (fields.get? key).isSome = true) : nameParts key ≠ parts :=
      fun heq => hspelled ⟨key, hkey, heq⟩
    refine ⟨fields, ?_, fun key hkey => by rw [if_neg (hnone key hkey)]⟩
    rcases assign_cases h hparts value with hsame | ⟨key, hkey, heq, -⟩ | ⟨key, inner, -, hget, -⟩
    · exact hsame
    · exact absurd heq (hnone key hkey)
    · exact absurd hget (hflat key inner)

/-- What is set elsewhere leaves a section as it is. -/
theorem get?_of_assign_elsewhere {fields changed : Fields} (h : Named (.record fields)) (hparts : parts ≠ [])
    {name : String} (hself : nameParts name ≠ parts) (hbelow : ∀ rest, rest ≠ [] → nameParts name ++ rest ≠ parts)
    {value : Value} (hassign : assign fields parts value = .ok changed) :
    changed.get? name = fields.get? name := by
  have hother (other : String) (hne : other ≠ name) (v : Value) :
      (fields.set other v).get? name = fields.get? name := Fields.get?_set_text_of_ne fields v hne
  rcases assign_cases h hparts value with hsame | ⟨other, -, heq, hset⟩ | ⟨other, inner, rest, -, hrest, heq, hset⟩
  · rw [hsame] at hassign
    cases hassign
    rfl
  · rw [hset] at hassign
    cases hassign
    exact hother other (fun hname => hself (hname ▸ heq)) value
  · rw [hset] at hassign
    obtain ⟨changed, -, hassign⟩ := exists_of_bind_ok hassign
    cases hassign
    exact hother other (fun hname => hbelow rest hrest (hname ▸ heq)) _

/-- What is set in a section is set there and nowhere else. -/
theorem get?_of_assign_below {fields current : Fields} (h : Named (.record fields))
    (hkeys : fields.keys = Fields.keys defaults) {name : String} (hget : fields.get? name = some (.record current))
    (hflat : ∀ (key : String) (inner : Fields), current.get? key ≠ some (.record inner)) {rest : List String}
    (hrest : rest ≠ []) (a : Scalar) {changed : Fields}
    (hassign : assign fields (nameParts name ++ rest) (.atom a) = .ok changed) :
    ∃ after : Fields, changed.get? name = some (.record after) ∧ after.keys = current.keys ∧
      ∀ key : String, (current.get? key).isSome = true →
        after.get? key = if nameParts key = rest then some (.atom a) else current.get? key := by
  have hname : .text name ∈ Fields.keys defaults := by
    rw [← hkeys, ← Fields.isSome_get?_iff, hget]
    rfl
  have halone (other : String) (hother : .text other ∈ fields.keys)
      (hbegins : nameParts other <+: nameParts name ++ rest) : other = name := by
    rw [nameParts_section (hkeys ▸ hother), nameParts_section hname, List.singleton_append,
      List.cons_prefix_cons] at hbegins
    exact hbegins.1
  obtain ⟨after, hafter, hsettings⟩ := assign_flat (h.get? hget) hflat hrest (.atom a)
  obtain ⟨same, hsame, -, hsameKeys⟩ := exists_assign (h.get? hget) (Named.atom a) rest
  obtain rfl : after = same := Except.ok.inj (hafter.symm.trans hsame)
  rw [assign_of_alone h hget hrest (fun other hother hbegins _ => halone other hother hbegins), hafter] at hassign
  cases hassign
  exact ⟨after, Fields.get?_set_self _ _ _, hsameKeys, hsettings⟩

namespace SectionFollows

variable {name : String} {before after : Fields}

theorem isSome_before (h : SectionFollows env name before after) {key : String}
    (hkey : (after.get? key).isSome = true) : ∃ value, before.get? key = some value := by
  rw [Fields.isSome_get?_iff, h.keys, ← Fields.isSome_get?_iff] at hkey
  exact Option.isSome_iff_exists.mp hkey

/-- There are no records in a section, whatever the variables say. -/
theorem flat (h : SectionFollows env name before after)
    (hbefore : Fields.get? name defaults = some (.record before)) (key : String) (inner : Fields) :
    after.get? key ≠ some (.record inner) := by
  intro hinner
  have hsome : (after.get? key).isSome = true := by rw [hinner]; rfl
  obtain ⟨value, hkey⟩ := h.isSome_before hsome
  rw [h.settings key value hkey] at hinner
  cases hsaid : lastSaid? env (nameParts name ++ nameParts key) with
  | none =>
    rw [hsaid] at hinner
    obtain ⟨a, rfl⟩ := atom_of_default hbefore hkey
    cases hinner
  | some said =>
    rw [hsaid] at hinner
    obtain ⟨a, rfl⟩ := atom_of_lastSaid? hsaid
    cases hinner

/-- A variable that spells out none of the settings says nothing about the section. -/
theorem concat_of_other (h : SectionFollows env name before after)
    (hother : ∀ key : String, spells (nameParts name ++ nameParts key) v = false) :
    SectionFollows (env ++ [v]) name before after := by
  refine ⟨h.keys, fun key value hkey => ?_⟩
  rw [lastSaid?_concat_of_other (hother key), h.settings key value hkey]

/-- A variable that spells out the section and something more sets what the rest spells out. -/
theorem concat_of_below (h : SectionFollows env name before after) (hv : isOverride v = true) {value : Value}
    (hvalue : coerce v.2 = .ok value) {rest : List String} (hrest : nameParts name ++ rest = variableParts v.1)
    {changed : Fields} (hkeys : changed.keys = after.keys)
    (hset : ∀ key : String, (after.get? key).isSome = true →
      changed.get? key = if nameParts key = rest then some value else after.get? key) :
    SectionFollows (env ++ [v]) name before changed := by
  refine ⟨hkeys.trans h.keys, fun key old hkey => ?_⟩
  have hafter := h.settings key old hkey
  rw [hset key (by rw [hafter]; rfl)]
  by_cases hspelled : nameParts key = rest
  · have hspells : spells (nameParts name ++ nameParts key) v = true :=
      spells_iff.mpr ⟨hv, by rw [hspelled, hrest]⟩
    rw [if_pos hspelled, lastSaid?_concat_of_spells hspells hvalue]
    rfl
  · have hother : spells (nameParts name ++ nameParts key) v = false := by
      rw [← Bool.not_eq_true, spells_iff, ← hrest]
      exact fun hboth => hspelled (List.append_cancel_left hboth.2).symm
    rw [if_neg hspelled, lastSaid?_concat_of_other hother, hafter]

end SectionFollows

/-- A section that a variable does not spell out as a whole follows it too. -/
theorem SectionFollows.concat {name : String} {before after changed : Fields} {a : Scalar}
    (hafter : SectionFollows env name before after) (hs : Named (.record s.fields))
    (hsections : s.fields.keys = Fields.keys defaults) (hbefore : Fields.get? name defaults = some (.record before))
    (hget : s.fields.get? name = some (.record after)) (hv : isOverride v = true) (hvalue : coerce v.2 = .ok (.atom a))
    (hself : nameParts name ≠ variableParts v.1) (hassign : assign s.fields (variableParts v.1) (.atom a) = .ok changed) :
    ∃ set, changed.get? name = some (.record set) ∧ SectionFollows (env ++ [v]) name before set := by
  by_cases hbelow : ∃ rest, rest ≠ [] ∧ nameParts name ++ rest = variableParts v.1
  · obtain ⟨rest, hne, hrest⟩ := hbelow
    rw [← hrest] at hassign
    obtain ⟨set, hset, hkeys, hsettings⟩ :=
      get?_of_assign_below hs hsections hget (hafter.flat hbefore) hne a hassign
    exact ⟨set, hset, hafter.concat_of_below hv hvalue hrest hkeys hsettings⟩
  · have hsame : changed.get? name = s.fields.get? name :=
      get?_of_assign_elsewhere hs (nameParts_ne_nil _) hself (fun rest hne hrest => hbelow ⟨rest, hne, hrest⟩) hassign
    refine ⟨after, hsame.trans hget, hafter.concat_of_other fun key => ?_⟩
    rw [← Bool.not_eq_true, spells_iff]
    exact fun hboth => hbelow ⟨nameParts key, nameParts_ne_nil key, hboth.2.symm⟩

theorem Follows.concat (hs : Named (.record s.fields)) (hf : Follows s env) (h : s.applyVariable v = .ok t) :
    Follows t (env ++ [v]) := by
  cases hv : isOverride v with
  | false =>
    have hother (parts : List String) : spells parts v = false := by rw [spells, hv, Bool.false_and]
    rw [applyVariable_of_other hv] at h
    cases h
    refine ⟨hf.whole, hf.sections, fun name before hbefore hunspelled => ?_⟩
    obtain ⟨after, hget, hafter⟩ := hf.settings name before hbefore fun w hw =>
      hunspelled w (List.mem_append_left _ hw)
    exact ⟨after, hget, hafter.concat_of_other fun key => hother _⟩
  | true =>
    cases hvalue : coerce v.2 with
    | error fault =>
      rw [applyVariable_of_fault hv hvalue] at h
      cases h
    | ok said =>
      obtain ⟨a, rfl⟩ := atom_of_coerce hvalue
      obtain ⟨changed, hassign, -, hkeys⟩ := exists_assign hs (Named.atom a) (variableParts v.1)
      rw [applyVariable_of_value hs hv hvalue, hassign] at h
      cases h
      refine ⟨hf.whole, hkeys.trans hf.sections, fun name before hbefore hunspelled => ?_⟩
      obtain ⟨after, hget, hafter⟩ := hf.settings name before hbefore fun w hw =>
        hunspelled w (List.mem_append_left _ hw)
      have hself : nameParts name ≠ variableParts v.1 := by
        intro heq
        have hno := hunspelled v (by simp)
        rw [spells_iff.mpr ⟨hv, heq.symm⟩] at hno
        cases hno
      exact hafter.concat hs hf.sections hbefore hget hv hvalue hself hassign

theorem Named.applyVariable (hs : Named (.record s.fields)) (h : s.applyVariable v = .ok t) :
    Named (.record t.fields) := by
  have husable : isOverride v = true → ¬ IsNoNumber v.2 := by
    intro hv hno
    obtain ⟨fault, hfault⟩ := applyVariable_fails (s := s) hv hno
    rw [hfault] at h
    cases h
  obtain ⟨same, hsame, hnamed⟩ := applyVariable_ok hs husable
  rw [h] at hsame
  cases hsame
  exact hnamed

theorem named_follows_applyEnvironment (h : (defaults : Settings).applyEnvironment env = .ok s) :
    Named (.record s.fields) ∧ Follows s env := by
  induction env using List.reverseRecOn generalizing s with
  | nil =>
    cases h
    refine ⟨named_defaults, rfl, rfl, fun name before hbefore _ => ⟨before, hbefore, rfl, ?_⟩⟩
    exact fun key value hkey => hkey
  | append_singleton env v ih =>
    rw [applyEnvironment_concat] at h
    obtain ⟨previous, hprevious, h⟩ := exists_of_bind_ok h
    obtain ⟨hnamed, hfollows⟩ := ih hprevious
    exact ⟨hnamed.applyVariable h, hfollows.concat hnamed h⟩

/-- Whatever variables are applied to the default settings: no section and no setting of a section comes
or goes, and every setting is as the last variable says that spells it out, or has its default. What kind
of value that is depends on the variable alone. Sections that a variable spells out as a whole are left
open here. -/
theorem follows_applyEnvironment (env : List Variable) (s : Settings)
    (h : (defaults : Settings).applyEnvironment env = .ok s) : Follows s env :=
  (named_follows_applyEnvironment h).2

/-- A setting that is spelled out twice, by a number and then by a word, and a section that is spelled out
as a whole. -/
theorem follows_of_repeated :
    let env := [("GITSIM_DISPLAY_HISTORY_LIMIT", "20"), ("GITSIM_LOGGING", "off"),
      ("GITSIM_DISPLAY_HISTORY_LIMIT", "many")]
    ∃ s, (defaults : Settings).applyEnvironment env = .ok s ∧ Follows s env ∧
      lastSaid? env (nameParts "display" ++ nameParts "history_limit") = some (.text "many") := by
  intro env
  have husable : ∀ v ∈ env, ∃ value, coerce v.2 = .ok value := by
    rw [List.forall_mem_cons, List.forall_mem_cons, List.forall_mem_singleton]
    exact ⟨⟨.int 20, rfl⟩, ⟨.bool false, rfl⟩, ⟨.text "many", rfl⟩⟩
  have hlast : env.reverse.find? (spells (nameParts "display" ++ nameParts "history_limit")) =
      some ("GITSIM_DISPLAY_HISTORY_LIMIT", "many") := by decide +kernel
  have hsaid : lastSaid? env (nameParts "display" ++ nameParts "history_limit") = some (.text "many") := by
    rw [lastSaid?, hlast]
    rfl
  cases hok : (defaults : Settings).applyEnvironment env with
  | error fault =>
    obtain ⟨v, hv, -, hno⟩ := (fails_iff_of_named named_defaults env).mp ⟨fault, hok⟩
    obtain ⟨fault, hfault⟩ := (coerce_fails_iff v.2).mpr hno
    obtain ⟨value, hvalue⟩ := husable v hv
    rw [hvalue] at hfault
    cases hfault
  | ok s => exact ⟨s, rfl, follows_applyEnvironment env s hok, hsaid⟩

/-- The value of a setting, if its section is a record. -/
def setting? (s : Settings) (name key : String) : Option Value :=
  match s.get? name with
  | some (.record fields) => s.entry? fields key
  | _ => none

theorem setting?_of_numbered_user :
    ∃ s, (defaults : Settings).applyEnvironment [("GITSIM_PROMPT_USER", "42")] = .ok s ∧
      (defaults : Settings).setting? "prompt" "user" = some (.text "user") ∧
      s.setting? "prompt" "user" = some (.int 42) := by
  refine ⟨⟨[("prompt", .record [("user", .int 42), ("host", .text "computer"), ("repo_host", .text "repo")]),
    ("display", .record [("recent_commits", .int 3), ("history_limit", .int 10),
      ("output_preview_chars", .int 100)]),
    ("topics", .record [("fuzzy_threshold", .int 60)]),
    ("logging", .record [("level", .text "WARNING"), ("format", .text "%(levelname)s: %(message)s")])], #[]⟩,
    ?_, rfl, rfl⟩
  have hparts : variableParts "GITSIM_PROMPT_USER" = ["prompt", "user"] := by decide +kernel
  have hvalue : coerce "42" = .ok (.int 42) := rfl
  have hoverride : isOverride ("GITSIM_PROMPT_USER", "42") = true := by decide +kernel
  rw [applyEnvironment_cons, applyVariable_of_value named_defaults hoverride hvalue, hparts]
  rfl

end Settings
end GitPractice
