import GitPractice.Proofs.Ids
import GitPractice.Proofs.Layers
import GitPractice.Repo.Snapshot

/-!
# What is exported says everything

A snapshot is exported as a record of records. Each of them has the same keys every
time, but for the parents of a merge, which are left out when there are none; so what
stands at a key comes from one field. Times are written in places of fixed width, with a
fraction only if it is not zero, and can be told apart by their texts
(`Timestamp.isoText_inj`). Therefore two snapshots with exports that are alike, in
whatever order their entries stand, are the same (`Snapshot.alike_toValue_iff`).
-/

namespace GitPractice

/-! ## Times -/

namespace Text

/-- Numbers that fit into their places are told apart by their digits, whatever follows. -/
theorem padded_append_inj {width n m : Nat} (hn : n < tenTo width) (hm : m < tenTo width)
    {xs ys : List Char} :
    (padded width n).toList ++ xs = (padded width m).toList ++ ys ↔ n = m ∧ xs = ys := by
  constructor
  · intro h
    rw [padded, padded, String.toList_ofList, String.toList_ofList] at h
    obtain ⟨hdigits, hrest⟩ := List.append_inj h (by rw [length_fixedDigits, length_fixedDigits])
    refine ⟨?_, hrest⟩
    rw [← Nat.mod_eq_of_lt hn, ← Nat.mod_eq_of_lt hm, ← ofDigitChars_fixedDigits,
      ← ofDigitChars_fixedDigits, hdigits]
  · rintro ⟨rfl, rfl⟩
    rfl

end Text

theorem Date.day_le (d : Date) : d.day ≤ 31 := by
  have hdays : daysInMonth d.year d.month ≤ 31 := by
    unfold daysInMonth
    split
    · split <;> decide
    all_goals decide
  have := d.isReal
  omega

theorem Date.isoText_append_inj {d e : Date} {xs ys : List Char} :
    d.isoText.toList ++ xs = e.isoText.toList ++ ys ↔ d = e ∧ xs = ys := by
  have hd := d.isReal
  have he := e.isReal
  have hday := d.day_le
  have heday := e.day_le
  have htwo : Text.tenTo 2 = 100 := rfl
  have hfour : Text.tenTo 4 = 10000 := rfl
  simp only [isoText, String.toList_append, List.append_assoc]
  rw [Text.padded_append_inj (by omega) (by omega), List.append_cancel_left_eq,
    Text.padded_append_inj (by omega) (by omega), List.append_cancel_left_eq,
    Text.padded_append_inj (by omega) (by omega)]
  cases d
  cases e
  simp only [Date.mk.injEq, and_assoc]

namespace TimeOfDay

/-- No fraction is not the same as any fraction that is written. -/
theorem fraction_inj {n m : Nat} (hn : n < 1000000) (hm : m < 1000000) :
    (if n = 0 then "" else "." ++ Text.padded 6 n).toList =
      (if m = 0 then "" else "." ++ Text.padded 6 m).toList ↔ n = m := by
  constructor
  · intro h
    split at h
    · split at h
      · omega
      · rw [String.toList_append] at h
        cases h
    · split at h
      · rw [String.toList_append] at h
        cases h
      · rw [String.toList_append, String.toList_append, List.append_cancel_left_eq] at h
        exact ((Text.padded_append_inj hn hm).mp (congrArg (· ++ []) h)).1
  · rintro rfl
    rfl

theorem isoText_inj {t u : TimeOfDay} : t.isoText = u.isoText ↔ t = u := by
  have ht := t.isReal
  have hu := u.isReal
  have htwo : Text.tenTo 2 = 100 := rfl
  rw [← String.toList_inj, isoText, isoText, String.toList_append, String.toList_append]
  simp only [clockText, String.toList_append, List.append_assoc]
  rw [Text.padded_append_inj (by omega) (by omega), List.append_cancel_left_eq,
    Text.padded_append_inj (by omega) (by omega), List.append_cancel_left_eq,
    Text.padded_append_inj (by omega) (by omega), fraction_inj ht.2.2.2 hu.2.2.2]
  cases t
  cases u
  simp only [TimeOfDay.mk.injEq]

end TimeOfDay

theorem Timestamp.isoText_inj {t u : Timestamp} : t.isoText = u.isoText ↔ t = u := by
  rw [← String.toList_inj]
  simp only [isoText, String.toList_append, List.append_assoc]
  rw [Date.isoText_append_inj, List.append_cancel_left_eq, String.toList_inj, TimeOfDay.isoText_inj]
  cases t
  cases u
  simp only [Timestamp.mk.injEq]

/-! ## Values that are alike -/

namespace Value.Alike

variable {fields others : Fields} {a b : Scalar} {v w : Value}

theorem atom (h : Alike (.atom a) (.atom b)) : a = b := by
  cases h
  rfl

theorem text {s t : String} (h : Alike (.text s) (.text t)) : s = t := Scalar.text.inj h.atom

theorem bool {b c : Bool} (h : Alike (.bool b) (.bool c)) : b = c := Scalar.bool.inj h.atom

theorem entry (h : Alike (.record fields) (.record others)) (key : Scalar) (hv : fields.get? key = some v)
    (hw : others.get? key = some w) : Alike v w := by
  cases h with
  | refl =>
    rw [hv] at hw
    cases hw
    exact .refl v
  | record _ values => exact values key v w hv hw

theorem isSome_get? (h : Alike (.record fields) (.record others)) (key : Scalar) :
    (fields.get? key).isSome = (others.get? key).isSome := by
  cases h with
  | refl => rfl
  | record keys _ => exact keys key

theorem items {vs ws : List Value} (h : Alike (.list vs) (.list ws)) :
    vs.length = ws.length ∧ ∀ (n : Nat) v w, vs[n]? = some v → ws[n]? = some w → Alike v w := by
  cases h with
  | refl =>
    refine ⟨rfl, fun n v w hv hw => ?_⟩
    rw [hv] at hw
    cases hw
    exact .refl v
  | list length values => exact ⟨length, values⟩

/-- Lists of exports are alike only if the lists are the same, when this holds of what is in them. -/
theorem map_inj {α : Type} {f : α → Value} (hf : ∀ x y, Alike (f x) (f y) → x = y) {xs ys : List α}
    (h : Alike (.list (xs.map f)) (.list (ys.map f))) : xs = ys := by
  obtain ⟨hlength, hvalues⟩ := h.items
  rw [List.length_map, List.length_map] at hlength
  refine List.ext_getElem hlength fun n hx hy => hf _ _ (hvalues n _ _ ?_ ?_)
  · rw [List.getElem?_map, List.getElem?_eq_getElem hx]
    rfl
  · rw [List.getElem?_map, List.getElem?_eq_getElem hy]
    rfl

end Value.Alike

/-! ## Records -/

theorem FileStatus.name_inj {s t : FileStatus} (h : s.name = t.name) : s = t := by
  cases s <;> cases t <;> first | rfl | exact absurd h (by decide)

theorem FileEntry.eq_of_alike (f g : FileEntry) (h : f.toValue.Alike g.toValue) : f = g := by
  have hname : f.name = g.name := (h.entry "name" rfl rfl).text
  have hstatus : f.status = g.status := FileStatus.name_inj (h.entry "status" rfl rfl).text
  cases f
  cases g
  rw [FileEntry.mk.injEq]
  exact ⟨hname, hstatus⟩

theorem Branch.eq_of_alike (b c : Branch) (h : b.toValue.Alike c.toValue) : b = c := by
  have hname : b.name = c.name := (h.entry "name" rfl rfl).text
  have hcommit : b.commit = c.commit := (h.entry "commit" rfl rfl).text
  have hcolor : b.color = c.color := (h.entry "color" rfl rfl).text
  cases b
  cases c
  rw [Branch.mk.injEq]
  exact ⟨hname, hcommit, hcolor⟩

theorem HistoryEntry.eq_of_alike (e f : HistoryEntry) (h : e.toValue.Alike f.toValue) : e = f := by
  have hcommand : e.command = f.command := (h.entry "command" rfl rfl).text
  have houtput : e.output = f.output := (h.entry "output" rfl rfl).text
  have herror : e.isError = f.isError := (h.entry "error" rfl rfl).bool
  have htime : e.timestamp = f.timestamp := Timestamp.isoText_inj.mp (h.entry "timestamp" rfl rfl).text
  cases e
  cases f
  rw [HistoryEntry.mk.injEq]
  exact ⟨hcommand, houtput, herror, htime⟩

/-- A text and nothing are told apart, also when the text is empty. -/
theorem Value.ofText?_inj {s t : Option String} (h : (Value.ofText? s).Alike (Value.ofText? t)) : s = t := by
  cases s with
  | none =>
    cases t with
    | none => rfl
    | some t => cases h.atom
  | some s =>
    cases t with
    | none => cases h.atom
    | some t => rw [h.text]

namespace Commit

/-- Parents of a merge are the last entry, if there are any. -/
theorem get?_parents (c : Commit) : ∃ fields : Fields, c.toValue = .record fields ∧
    fields.get? "parents" = c.parents.map fun ids => .list (ids.map .text) := by
  refine ⟨_, rfl, ?_⟩
  cases c.parents with
  | none => rfl
  | some ids => rfl

theorem parents_eq_of_alike {c d : Commit} (h : c.toValue.Alike d.toValue) : c.parents = d.parents := by
  obtain ⟨fields, hc, hcparents⟩ := c.get?_parents
  obtain ⟨others, hd, hdparents⟩ := d.get?_parents
  rw [hc, hd] at h
  have hkeys := h.isSome_get? "parents"
  rw [hcparents, hdparents, Option.isSome_map, Option.isSome_map] at hkeys
  cases hleft : c.parents with
  | none =>
    rw [hleft, Option.isSome_none] at hkeys
    exact (Option.isSome_eq_false_iff.mp hkeys.symm |> Option.isNone_iff_eq_none.mp).symm
  | some ids =>
    rw [hleft, Option.isSome_some] at hkeys
    obtain ⟨others, hright⟩ := Option.isSome_iff_exists.mp hkeys.symm
    rw [hleft] at hcparents
    rw [hright] at hdparents
    rw [hright, (h.entry "parents" hcparents hdparents).map_inj fun _ _ => Value.Alike.text]

theorem eq_of_alike (c d : Commit) (h : c.toValue.Alike d.toValue) : c = d := by
  have hid : c.id = d.id := (h.entry "id" rfl rfl).text
  have hmessage : c.message = d.message := (h.entry "message" rfl rfl).text
  have hauthor : c.author = d.author := (h.entry "author" rfl rfl).text
  have htime : c.timestamp = d.timestamp := Timestamp.isoText_inj.mp (h.entry "timestamp" rfl rfl).text
  have hbranch : c.branch = d.branch := (h.entry "branch" rfl rfl).text
  have hparent : c.parent = d.parent := Value.ofText?_inj (h.entry "parent" rfl rfl)
  have hparents : c.parents = d.parents := parents_eq_of_alike h
  have hmerge : c.isMerge = d.isMerge := (h.entry "is_merge" rfl rfl).bool
  cases c
  cases d
  rw [Commit.mk.injEq]
  exact ⟨hid, hmessage, hauthor, htime, hbranch, hparent, hparents, hmerge⟩

end Commit

namespace Snapshot

theorem eq_of_alike (s t : Snapshot) (h : s.toValue.Alike t.toValue) : s = t := by
  have hinitialized : s.initialized = t.initialized := (h.entry "initialized" rfl rfl).bool
  have hcommits : s.commits = t.commits := (h.entry "commits" rfl rfl).map_inj Commit.eq_of_alike
  have hbranches : s.branches = t.branches := (h.entry "branches" rfl rfl).map_inj Branch.eq_of_alike
  have hcurrent : s.currentBranch = t.currentBranch := (h.entry "current_branch" rfl rfl).text
  have hhead : s.head = t.head := (h.entry "head" rfl rfl).text
  have hdetached : s.detached = t.detached := (h.entry "detached_head" rfl rfl).bool
  have hstaged : s.staged = t.staged := (h.entry "staged" rfl rfl).map_inj FileEntry.eq_of_alike
  have hworking : s.working = t.working := (h.entry "working_dir" rfl rfl).map_inj FileEntry.eq_of_alike
  have hhistory : s.history = t.history :=
    (h.entry "command_history" rfl rfl).map_inj HistoryEntry.eq_of_alike
  cases s
  cases t
  rw [Snapshot.mk.injEq]
  exact ⟨hinitialized, hcommits, hbranches, hcurrent, hhead, hdetached, hstaged, hworking, hhistory⟩

/-- Snapshots are the same exactly if their exports are alike. So are commits, among them those that
have no parents, an empty list of them, no parent or an empty one; and times are the same if their
texts are. -/
theorem alike_toValue_iff :
    (∀ s t : Snapshot, s.toValue.Alike t.toValue ↔ s = t) ∧
    (∀ c d : Commit, c.toValue.Alike d.toValue ↔ c = d) ∧
    (∀ c : Commit,
      ¬ { c with parents := none }.toValue.Alike { c with parents := some [] }.toValue ∧
      ¬ { c with parent := some "" }.toValue.Alike { c with parent := none }.toValue) ∧
    ∀ t u : Timestamp, t.isoText = u.isoText ↔ t = u := by
  refine ⟨fun s t => ⟨eq_of_alike s t, ?_⟩, fun c d => ⟨Commit.eq_of_alike c d, ?_⟩,
    fun c => ⟨fun h => ?_, fun h => ?_⟩, fun t u => Timestamp.isoText_inj⟩
  · rintro rfl
    exact .refl _
  · rintro rfl
    exact .refl _
  · cases congrArg Commit.parents (Commit.eq_of_alike _ _ h)
  · cases congrArg Commit.parent (Commit.eq_of_alike _ _ h)

end Snapshot
end GitPractice
