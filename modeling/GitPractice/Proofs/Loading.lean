import GitPractice.Proofs.Overrides
import GitPractice.Settings.File

/-!
# Loading the file of settings

A file that is no text, or no text of its format, is passed over. One that is a text
of its format and holds no record is not: a list or a number in JSON stops the program,
and so does a value in YAML that is neither a record nor empty
(`Settings.Home.load_fails_iff`). Whether JSON holds a record can be seen at its first
character.
-/

namespace GitPractice

namespace Json

variable {limit fuel : Nat} {cs rest : List Char} {v : Value}

theorem list_of_readItems {acc : List Value} (h : readItems limit fuel acc cs = some (v, rest)) :
    ∃ items, v = .list items := by
  induction fuel generalizing acc cs with
  | zero => cases h
  | succ fuel ih =>
    rw [readItems] at h
    split at h
    · cases h
    · split at h
      · exact ih h
      · cases h
        exact ⟨_, rfl⟩
      · cases h

theorem record_of_readEntries {acc : Fields} (h : readEntries limit fuel acc cs = some (v, rest)) :
    ∃ fields, v = .record fields := by
  induction fuel generalizing acc cs with
  | zero => cases h
  | succ fuel ih =>
    rw [readEntries.eq_def] at h
    dsimp only at h
    split at h
    · split at h
      · cases h
      · split at h
        · split at h
          · cases h
          · split at h
            · exact ih h
            · cases h
              exact ⟨_, rfl⟩
            · cases h
        · cases h
    · cases h

theorem ne_record_of_readNumber {negative : Bool} (h : readNumber limit negative cs = some (v, rest)) (fields : Fields) :
    v ≠ .record fields := by
  rw [readNumber.eq_def] at h
  dsimp only at h
  obtain ⟨⟨value, count, digits⟩, -, hdigits⟩ := Option.bind_eq_some_iff.mp h
  dsimp only at hdigits
  split at hdigits
  · split at hdigits <;> cases hdigits <;> nofun
  · cases hdigits
    nofun
  · split at hdigits
    · cases hdigits
    · cases hdigits
      nofun

theorem ne_record_of_readAtom (h : readAtom limit cs = some (v, rest)) (fields : Fields) : v ≠ .record fields := by
  rw [readAtom.eq_def] at h
  split at h
  case h_7 => exact ne_record_of_readNumber h fields
  case h_8 => exact ne_record_of_readNumber h fields
  all_goals
    cases h
    nofun

/-- A value that is read is a record exactly if it begins as one. -/
theorem record_iff_of_readValue (h : readValue limit fuel cs = some (v, rest)) :
    (∃ fields, v = .record fields) ↔ cs.head? = some '\x7b' := by
  cases fuel with
  | zero => cases h
  | succ fuel =>
    rw [readValue.eq_def] at h
    dsimp only at h
    split at h
    · obtain ⟨⟨a, after⟩, -, ha⟩ := Option.map_eq_some_iff.mp h
      cases ha
      exact iff_of_false (fun ⟨_, hr⟩ => nomatch hr) (by simp)
    · refine iff_of_false ?_ (by simp)
      split at h
      · cases h
        exact fun ⟨_, hr⟩ => nomatch hr
      · obtain ⟨items, rfl⟩ := list_of_readItems h
        exact fun ⟨_, hr⟩ => nomatch hr
    · refine iff_of_true ?_ rfl
      split at h
      · cases h
        exact ⟨_, rfl⟩
      · exact record_of_readEntries h
    · next hother =>
      refine iff_of_false (fun ⟨fields, hr⟩ => ne_record_of_readAtom h fields hr) fun hhead => ?_
      obtain ⟨tail, rfl⟩ := List.head?_eq_some_iff.mp hhead
      exact hother tail rfl

/-- A text in JSON holds a record exactly if that is how it begins behind the spaces. -/
theorem record_iff_of_parse? {s : String} (h : parse? s = some v) :
    (∃ fields, v = .record fields) ↔ (skipSpace s.toList).head? = some '\x7b' := by
  rw [parse?, parseWithin] at h
  split at h
  · next w after hw =>
    split at h
    · cases h
      exact record_iff_of_readValue hw
    · cases h
  · cases h

end Json

namespace Settings

theorem parse?_of_readJson {s : String} {v : Value} (h : readJson s = .ok v) : Json.parse? s = some v := by
  rw [readJson] at h
  split at h
  · split at h <;> cases h
  · cases hv : Json.parse? s with
    | none =>
      rw [hv] at h
      cases h
    | some u =>
      rw [hv] at h
      cases h
      rfl

theorem readJson_of_shallow {s : String} {v : Value}
    (hdepth : Json.deepBracket? depthLimit false [] [] s.toList = none) (h : Json.parse? s = some v) :
    readJson s = .ok v := by
  rw [readJson, hdepth, h]
  rfl

/-- Content of a file that stops the program. -/
inductive Unusable : Format → Content → Prop
  /-- It cannot be read, and in a way that is not expected. -/
  | fault {format : Format} {content : Content} {fault : Fault}
    (h : readContent format content = .error (.fault fault)) : Unusable format content
  /-- It is JSON and does not begin as a record. -/
  | json {content : Content} {s : String} {v : Value} (lines : content.lines? = some s) (read : readJson s = .ok v)
    (start : (Json.skipSpace s.toList).head? ≠ some '\x7b') : Unusable .json content
  /-- It is YAML for something that is no record and does not count as nothing. -/
  | yaml {content : Content} {s : String} {w : Whole} (lines : content.lines? = some s)
    (read : Yaml.parse s = .ok w) (truthy : w.head.isTruthy = true)
    (other : ∀ fields, w.head ≠ .record fields) : Unusable .yaml content

variable {format : Format} {content : Content} {w : Whole} {s : String}

theorem readContent_json (lines : content.lines? = some s) :
    readContent .json content = (readJson s).map fun v => { value := v } := by
  cases content with
  | bytes raw => cases lines
  | text t =>
    simp only [readContent, lines, Reading.ofOption, bind, Except.bind]
    cases readJson s <;> rfl

theorem readContent_yaml (lines : content.lines? = some s) :
    readContent .yaml content = (Yaml.parse s).map fun w =>
      if w.head.isTruthy then w else { value := .record [] } := by
  cases content with
  | bytes raw => cases lines
  | text t =>
    simp only [readContent, lines, Reading.ofOption, bind, Except.bind]
    cases Yaml.parse s <;> rfl

theorem lines?_of_readContent (h : readContent format content = .ok w) : ∃ s, content.lines? = some s := by
  cases content with
  | bytes raw => cases format <;> cases h
  | text t => exact ⟨_, rfl⟩

theorem head_eq_record_iff {v : Value} {fields : Fields} :
    Whole.head { value := v } = .record fields ↔ v = .record fields := by
  cases v with
  | shared n => simp [Whole.head, Parts.head, Parts.content]
  | _ => rfl

theorem record_iff_of_json (h : readContent .json content = .ok w) :
    (∃ fields, w.head = .record fields) ↔ ¬ Unusable .json content := by
  obtain ⟨s, lines⟩ := lines?_of_readContent h
  obtain ⟨v, hv, hwhole⟩ := exists_of_bind_ok (readContent_json lines ▸ h)
  cases hwhole
  simp only [head_eq_record_iff, Json.record_iff_of_parse? (parse?_of_readJson hv)]
  refine ⟨fun hstart hu => ?_, fun hu => Classical.not_not.mp fun hstart => hu (.json lines hv hstart)⟩
  cases hu with
  | fault hfault => cases hfault.symm.trans h
  | json lines' read start =>
    cases lines.symm.trans lines'
    exact start hstart

theorem unusable_yaml_iff {s : String} {whole : Whole} (h : readContent .yaml content = .ok w)
    (lines : content.lines? = some s) (read : Yaml.parse s = .ok whole) :
    Unusable .yaml content ↔ whole.head.isTruthy = true ∧ ∀ fields, whole.head ≠ .record fields := by
  refine ⟨fun hu => ?_, fun ⟨truthy, other⟩ => .yaml lines read truthy other⟩
  cases hu with
  | fault hfault => cases hfault.symm.trans h
  | yaml lines' read' truthy other =>
    cases lines.symm.trans lines'
    cases read.symm.trans read'
    exact ⟨truthy, other⟩

theorem record_iff_of_yaml (h : readContent .yaml content = .ok w) :
    (∃ fields, w.head = .record fields) ↔ ¬ Unusable .yaml content := by
  obtain ⟨s, lines⟩ := lines?_of_readContent h
  obtain ⟨whole, read, hread⟩ := exists_of_bind_ok (readContent_yaml lines ▸ h)
  have hwhole : (if whole.head.isTruthy then whole else { value := .record [] }) = w := Except.ok.inj hread
  rw [unusable_yaml_iff h lines read]
  by_cases htruthy : whole.head.isTruthy = true
  · rw [if_pos htruthy] at hwhole
    subst hwhole
    simp only [htruthy, true_and, not_forall, not_not]
  · -- what counts as false is taken for an empty record
    rw [if_neg htruthy] at hwhole
    exact iff_of_true ⟨[], by rw [← hwhole]; rfl⟩ fun hboth => htruthy hboth.1

theorem record_iff_of_toml (h : readContent .toml content = .ok w) :
    (∃ fields, w.head = .record fields) ↔ ¬ Unusable .toml content := by
  refine iff_of_true ?_ fun hu => ?_
  · cases content with
    | bytes raw => cases h
    | text t =>
      have hread : (Toml.parse t).bind (fun fields => .ok { value := .record fields }) = .ok w := h
      obtain ⟨fields, -, hwhole⟩ := exists_of_bind_ok hread
      cases hwhole
      exact ⟨fields, rfl⟩
  · cases hu with
    | fault hfault => cases hfault.symm.trans h

theorem not_unusable_of_malformed (h : readContent format content = malformed) :
    ¬ Unusable format content := by
  intro hu
  cases hu with
  | fault hfault => cases hfault.symm.trans h
  | json lines read start =>
    rw [readContent_json lines, read] at h
    cases h
  | yaml lines read truthy other =>
    rw [readContent_yaml lines, read] at h
    cases h

/-- Content that is read holds a record, unless it stops the program. -/
theorem record_iff_of_readContent (h : readContent format content = .ok w) :
    (∃ fields, w.head = .record fields) ↔ ¬ Unusable format content := by
  cases format with
  | json => exact record_iff_of_json h
  | toml => exact record_iff_of_toml h
  | yaml => exact record_iff_of_yaml h

namespace Home

variable {home : Home} {p : Path}

theorem load_eq (h : ∀ v ∈ home.environment, isOverride v = false) : home.load = home.loadFile := by
  rw [load]
  cases hl : home.loadFile with
  | mk reports layered =>
    cases layered with
    | error fault => rfl
    | ok s =>
      show (reports, s.applyEnvironment home.environment) = _
      rw [applyEnvironment_of_none h]

theorem isFound_of_read (h : home.disk.read p.text = .ok content) : home.isFound p = .ok true := by
  obtain ⟨place, hplace, -⟩ := exists_of_bind_ok h
  rw [isFound, Disk.isFound, hplace]
  rfl

theorem loadFile_of_found (hp : home.path = .ok p) (h : home.isFound p = .ok true) :
    home.loadFile = home.readFile p := by
  rw [loadFile, hp]
  dsimp only
  rw [h]

theorem reading_eq (hread : home.disk.read p.text = .ok content) :
    (Reading.ofOption (home.disk.read p.text).toOption).bind (readContent (formatOf p)) =
      readContent (formatOf p) content := by
  rw [hread]
  rfl

section

variable (hnone : ∀ v ∈ home.environment, isOverride v = false) (hp : home.path = .ok p)
  (hread : home.disk.read p.text = .ok content)
include hnone hp hread

theorem load_eq_readFile : home.load = home.readFile p := by
  rw [load_eq hnone, loadFile_of_found hp (isFound_of_read hread)]

theorem load_of_record {fields : Fields} (hc : readContent (formatOf p) content = .ok w)
    (hw : w.head = .record fields) : home.load = ([], .ok (ofLayers defaults fields w.parts)) := by
  rw [load_eq_readFile hnone hp hread, readFile, reading_eq hread, hc]
  dsimp only
  rw [hw]

theorem load_of_other (hc : readContent (formatOf p) content = .ok w)
    (hw : ∀ fields, w.head ≠ .record fields) :
    home.load = ([], .error (.noRecord w.head.kindName "items")) := by
  rw [load_eq_readFile hnone hp hread, readFile, reading_eq hread, hc]
  dsimp only
  split
  · next fields hfields => exact absurd hfields (hw fields)
  · rfl

/-- Settings cannot be loaded exactly if the file in effect is unusable. Otherwise they are the defaults, with
the record on top of them that the file holds if it can be read. -/
theorem load_fails_iff :
    ((∃ fault, home.load.2 = .error fault) ↔ Unusable (formatOf p) content) ∧
      (∀ w fields, readContent (formatOf p) content = .ok w → w.head = .record fields →
        home.load = ([], .ok (ofLayers defaults fields w.parts))) ∧
      (readContent (formatOf p) content = malformed → home.load = ([.unreadable p], .ok defaults)) := by
  have hmalformed (hc : readContent (formatOf p) content = malformed) :
      home.load = ([.unreadable p], .ok defaults) := by
    rw [load_eq_readFile hnone hp hread, readFile, reading_eq hread, hc]
    rfl
  refine ⟨?_, fun w fields => load_of_record hnone hp hread, hmalformed⟩
  cases hc : readContent (formatOf p) content with
  | error cause =>
    cases cause with
    | malformed =>
      rw [hmalformed hc]
      exact iff_of_false nofun (not_unusable_of_malformed hc)
    | fault fault =>
      refine iff_of_true ⟨fault, ?_⟩ (.fault hc)
      rw [load_eq_readFile hnone hp hread, readFile, reading_eq hread, hc]
  | ok w =>
    have hrecord := record_iff_of_readContent hc
    by_cases hw : ∃ fields, w.head = .record fields
    · obtain ⟨fields, hfields⟩ := hw
      rw [load_of_record hnone hp hread hc hfields]
      exact iff_of_false nofun (hrecord.mp ⟨fields, hfields⟩)
    · rw [load_of_other hnone hp hread hc fun fields hfields => hw ⟨fields, hfields⟩]
      exact iff_of_true ⟨_, rfl⟩ (Classical.not_not.mp (mt hrecord.mpr hw))

end

/-- A text in quotes is JSON and does not begin as a record. -/
theorem load_fails_of_quoted : ∃ fault, (load
    { disk := { files := [(["home", "user", "my.json"], .text "\"x\"")] }
      environment := [("HOME", "/home/user"), ("GITSIM_CONFIG", "/home/user/my.json")] }).2 = .error fault := by
  have hunusable : Unusable .json (.text "\"x\"") := .json (s := "\"x\"") (v := .text "x") rfl rfl (by decide)
  exact (load_fails_iff (p := .ofText "/home/user/my.json") (by decide) rfl rfl).1.mpr hunusable

/-- A list is looked up as if it were a record. -/
theorem load_of_list : (load
    { disk := { files := [(["home", "user", ".gitsim", "config.json"], .text "[1]")] }
      environment := [("HOME", "/home/user")] }).2 = .error (.noRecord "list" "items") := by
  rfl

end Home
end Settings
end GitPractice
