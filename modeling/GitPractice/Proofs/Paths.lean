import GitPractice.Proofs.Words
import GitPractice.Settings.File

/-!
# The names on a path

A path that is read from a text has names that lead one step further each, and its
text has a slash between them. A name that ends in `.toml` gets another ending
beside it, so that the path keeps its parent (`Settings.beside_of_toml`).
-/

namespace GitPractice
namespace Path

variable {p : Path} {name : String} {cs ds part : List Char}

theorem splitSlashes_eq (cs : List Char) : splitSlashes cs = cs.splitOn '/' :=
  Text.eq_splitOn rfl (fun _ _ => rfl) cs

theorem splitSlashes_append (cs ds : List Char) :
    splitSlashes (cs ++ '/' :: ds) = splitSlashes cs ++ splitSlashes ds := by
  simp only [splitSlashes_eq, List.splitOn_append_cons_self]

theorem splitSlashes_of_no_slash (h : '/' ∉ cs) : splitSlashes cs = [cs] := by
  rw [splitSlashes_eq, List.splitOn_eq_singleton h]

theorem no_slash_of_mem_splitSlashes (h : part ∈ splitSlashes cs) : '/' ∉ part := by
  induction cs generalizing part with
  | nil =>
    rw [splitSlashes, List.mem_singleton] at h
    subst h
    exact List.not_mem_nil
  | cons c cs ih =>
    rw [splitSlashes] at h
    split at h
    · rcases List.mem_cons.mp h with rfl | h
      · exact List.not_mem_nil
      · exact ih h
    next hc =>
      split at h
      next first parts hs =>
        rw [hs] at ih
        rcases List.mem_cons.mp h with rfl | h
        · have hfirst : '/' ∉ first := ih List.mem_cons_self
          exact fun hmem => (List.mem_cons.mp hmem).elim (fun heq => hc heq.symm) hfirst
        · exact ih (List.mem_cons_of_mem _ h)
      next hs =>
        rw [splitSlashes_eq] at hs
        exact absurd hs (List.splitOn_ne_nil _ _)

/-! ## Tidy paths -/

/-- A name that leads one step further on a path. -/
structure IsName (name : String) : Prop where
  ne_nil : name.toList ≠ []
  ne_point : name ≠ "."
  no_slash : '/' ∉ name.toList

/-- A name that does not lead back either. -/
structure IsEntry (name : String) : Prop extends IsName name where
  ne_parent : name ≠ ".."

theorem isEntry_of_long (hlong : 2 < name.toList.length) (hslash : '/' ∉ name.toList) : IsEntry name := by
  refine ⟨⟨fun hnil => ?_, ?_, hslash⟩, ?_⟩
  · rw [hnil] at hlong
    exact absurd hlong (by decide)
  · rintro rfl
    exact absurd hlong (by decide)
  · rintro rfl
    exact absurd hlong (by decide)

/-- A path as it is read from a text. -/
structure Tidy (p : Path) : Prop where
  root : p.root = "" ∨ p.root = "/" ∨ p.root = "//"
  names : ∀ name ∈ p.names, IsName name

theorem tidy_ofText (s : String) : Tidy (ofText s) where
  root := by
    show rootOf s.toList = "" ∨ rootOf s.toList = "/" ∨ rootOf s.toList = "//"
    rw [rootOf]
    split
    · exact Or.inl rfl
    · exact Or.inr (Or.inr rfl)
    · exact Or.inr (Or.inl rfl)
  names := by
    intro name hname
    obtain ⟨part, hpart, rfl⟩ := List.mem_map.mp hname
    rw [List.mem_filter, Bool.and_eq_true, decide_eq_true_eq, decide_eq_true_eq] at hpart
    obtain ⟨hmem, hne, hpoint⟩ := hpart
    refine ⟨by rwa [String.toList_ofList], fun heq => hpoint ?_, ?_⟩
    · rw [← String.toList_ofList (l := part), heq]
      rfl
    · rw [String.toList_ofList]
      exact no_slash_of_mem_splitSlashes hmem

namespace Tidy

theorem child (h : p.Tidy) (hname : IsName name) : (p.child name).Tidy where
  root := h.root
  names := by
    intro other hother
    rcases List.mem_append.mp hother with hmem | hmem
    · exact h.names other hmem
    · rw [List.mem_singleton.mp hmem]
      exact hname

theorem parent (h : p.Tidy) : p.parent.Tidy where
  root := h.root
  names := fun name hname => h.names name (List.dropLast_subset _ hname)

end Tidy

theorem child_parent (h : p.names.getLast? = some name) : p.parent.child name = p := by
  obtain ⟨root, names⟩ := p
  have hnames : names.dropLast ++ [name] = names := List.dropLast_append_getLast? name h
  show ({ root, names := names.dropLast ++ [name] } : Path) = _
  rw [hnames]

theorem parent_child (p : Path) (name : String) : (p.child name).parent = p := by
  obtain ⟨root, names⟩ := p
  show ({ root, names := (names ++ [name]).dropLast } : Path) = _
  rw [List.dropLast_concat]

theorem child_inj {other : String} (h : p.child name = p.child other) : name = other := by
  have hnames : p.names ++ [name] = p.names ++ [other] := congrArg Path.names h
  exact List.singleton_inj.mp (List.append_cancel_left hnames)

/-! ## The text of a child -/

theorem join_concat {sep : String} {names : List String} (h : names ≠ []) (name : String) :
    Text.join sep (names ++ [name]) = Text.join sep names ++ sep ++ name := by
  induction names with
  | nil => exact absurd rfl h
  | cons first names ih =>
    cases names with
    | nil => rfl
    | cons second names =>
      have hrest := ih (List.cons_ne_nil second names)
      rw [List.cons_append, List.cons_append, Text.join_cons_cons, Text.join_cons_cons, ← List.cons_append, hrest]
      simp only [String.append_assoc]

theorem join_ne_empty {names : List String} (h : ∀ name ∈ names, IsName name) (hne : names ≠ []) :
    Text.join "/" names ≠ "" := by
  cases names with
  | nil => exact absurd rfl hne
  | cons first names =>
    have hfirst := (h first List.mem_cons_self).ne_nil
    intro hjoin
    have hnil := congrArg String.toList hjoin
    cases names with
    | nil => exact hfirst hnil
    | cons second names =>
      rw [Text.join_cons_cons, String.toList_append, String.toList_append] at hnil
      exact hfirst (List.append_eq_nil_iff.mp (List.append_eq_nil_iff.mp hnil).1).1

theorem text_eq (h : p.Tidy) (hne : p.names ≠ []) : p.text = p.root ++ Text.join "/" p.names := by
  have hjoin := join_ne_empty h.names hne
  have hwhole : p.root ++ Text.join "/" p.names ≠ "" := by
    intro hempty
    have hnil := congrArg String.toList hempty
    rw [String.toList_append] at hnil
    exact hjoin (String.toList_eq_nil_iff.mp (List.append_eq_nil_iff.mp hnil).2)
  rw [text]
  exact if_neg hwhole

theorem text_ne_empty (p : Path) : p.text ≠ "" := by
  rw [text]
  split
  · decide
  next h => exact h

theorem text_child (h : p.Tidy) (hname : IsName name) (hne : p.names ≠ []) :
    (p.child name).text = p.text ++ "/" ++ name := by
  rw [text_eq (h.child hname) (by simp [child]), text_eq h hne]
  show p.root ++ Text.join "/" (p.names ++ [name]) = _
  rw [join_concat hne]
  simp only [String.append_assoc]

theorem text_child_of_nil (h : p.Tidy) (hname : IsName name) (hnil : p.names = []) :
    (p.child name).text = p.root ++ name := by
  rw [text_eq (h.child hname) (by simp [child])]
  show p.root ++ Text.join "/" (p.names ++ [name]) = _
  rw [hnil]
  rfl

theorem size_child_le {other : String} (h : p.Tidy) (hname : IsName name) (hother : IsName other)
    (hle : name.utf8ByteSize ≤ other.utf8ByteSize) :
    (p.child name).text.utf8ByteSize ≤ (p.child other).text.utf8ByteSize := by
  by_cases hnil : p.names = []
  · rw [text_child_of_nil h hname hnil, text_child_of_nil h hother hnil]
    simp only [String.utf8ByteSize_append]
    omega
  · rw [text_child h hname hnil, text_child h hother hnil]
    simp only [String.utf8ByteSize_append]
    omega

/-! ## Endings -/

theorem lastName_child (p : Path) (name : String) : (p.child name).lastName = name.toList := by
  rw [lastName, child, List.getLast?_concat]
  rfl

theorem endingOf_append (hcs : cs ≠ []) (hds : ds ≠ []) (hpoint : '.' ∉ ds) :
    endingOf (cs ++ '.' :: ds) = '.' :: ds := by
  have htake : (cs ++ '.' :: ds).reverse.takeWhile (· ≠ '.') = ds.reverse := by
    rw [List.reverse_append, List.reverse_cons, List.append_assoc, List.takeWhile_append_of_pos]
    · simp
    · intro c hc
      rw [List.mem_reverse] at hc
      exact decide_eq_true fun heq => hpoint (heq ▸ hc)
  have hlength : 0 < cs.length := List.length_pos_iff.mpr hcs
  have hlonger : ds.reverse.length + 1 < (cs ++ '.' :: ds).length := by
    rw [List.length_reverse, List.length_append, List.length_cons]
    omega
  have hne : ds.reverse ≠ [] := fun h => hds (List.reverse_eq_nil_iff.mp h)
  simp only [endingOf, htake]
  rw [if_pos ⟨hlonger, hne⟩, List.reverse_reverse]

theorem length_endingOf_lt (h : endingOf cs ≠ []) : (endingOf cs).length < cs.length := by
  rw [endingOf] at h ⊢
  split at h
  next hlonger =>
    rw [if_pos hlonger, List.length_cons, List.length_reverse]
    exact hlonger.1
  next => exact absurd rfl h

theorem exists_name_of_ending (h : endingOf p.lastName ≠ []) :
    ∃ name, p.names.getLast? = some name ∧ p.lastName = name.toList := by
  cases hlast : p.names.getLast? with
  | some name =>
    rw [lastName, hlast]
    exact ⟨name, rfl, rfl⟩
  | none =>
    rw [lastName, hlast] at h
    exact absurd rfl h

theorem withEnding_eq (h : endingOf p.lastName ≠ []) (ending : String) : ∃ stem : List Char,
    stem ≠ [] ∧ (∀ c ∈ stem, c ∈ p.lastName) ∧
      p.withEnding ending = p.parent.child (String.ofList stem ++ ending) := by
  refine ⟨p.lastName.take (p.lastName.length - (endingOf p.lastName).length), ?_, ?_, rfl⟩
  · have hlonger := length_endingOf_lt h
    rw [← List.length_pos_iff, List.length_take]
    omega
  · exact fun c hc => List.mem_of_mem_take hc

end Path

namespace Settings

variable {p q : Path}

theorem formatOf_congr (h : p.lastName = q.lastName) : formatOf p = formatOf q := by
  rw [formatOf, formatOf, Path.ending, Path.ending, h]

theorem formatOf_child (p : Path) (name : String) : formatOf (p.child name) = formatOf { names := [name] } := by
  refine formatOf_congr ?_
  rw [Path.lastName_child]
  rfl

theorem endingOf_of_toml (h : formatOf p = .toml) : Path.endingOf p.lastName ≠ [] := by
  intro hnil
  have hending : p.ending = "" := by
    rw [Path.ending, hnil]
    rfl
  rw [formatOf, hending] at h
  cases h

theorem formatOf_json {stem : List Char} (h : stem ≠ []) (p : Path) :
    formatOf (p.child (String.ofList stem ++ ".json")) = .json := by
  have hending : Path.ending (p.child (String.ofList stem ++ ".json")) = ".json" := by
    rw [Path.ending, Path.lastName_child, String.toList_append, String.toList_ofList]
    show Text.lower (String.ofList (Path.endingOf (stem ++ '.' :: "json".toList))) = ".json"
    rw [Path.endingOf_append h (by decide) (by decide)]
    decide +kernel
  rw [formatOf, hending]
  rfl

/-- What is saved beside a file in TOML has another name in the same directory. -/
theorem beside_of_toml (hp : p.Tidy) (h : formatOf p = .toml) : ∃ name other : String,
    Path.IsEntry name ∧ Path.IsEntry other ∧ name ≠ other ∧ p = p.parent.child name ∧
      p.withEnding ".json" = p.parent.child other := by
  have hending := endingOf_of_toml h
  obtain ⟨stem, hstem, hmem, hother⟩ := Path.withEnding_eq hending ".json"
  obtain ⟨name, hname, hlast⟩ := Path.exists_name_of_ending hending
  have hisname : Path.IsName name := hp.names name (List.mem_of_getLast? hname)
  have hback : name ≠ ".." := by
    rintro rfl
    rw [hlast] at hending
    exact hending (by decide)
  have hlong : 2 < (String.ofList stem ++ ".json").toList.length := by
    rw [String.toList_append, List.length_append]
    exact Nat.lt_of_lt_of_le (by decide : 2 < ".json".toList.length) (Nat.le_add_left _ _)
  have hslash : '/' ∉ (String.ofList stem ++ ".json").toList := by
    rw [String.toList_append, String.toList_ofList, List.mem_append, not_or]
    exact ⟨fun hmem' => hisname.no_slash (hlast ▸ hmem _ hmem'), by decide⟩
  refine ⟨name, String.ofList stem ++ ".json", ⟨hisname, hback⟩, Path.isEntry_of_long hlong hslash, ?_,
    (Path.child_parent hname).symm, hother⟩
  intro heq
  have hjson : formatOf p = .json := by
    rw [← Path.child_parent hname, heq]
    exact formatOf_json hstem p.parent
  exact absurd (h.symm.trans hjson) (by decide)

end Settings
end GitPractice
