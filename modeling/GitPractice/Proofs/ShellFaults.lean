import GitPractice.Proofs.Drawings
import GitPractice.Proofs.Files
import GitPractice.Proofs.GraphLayout
import GitPractice.Proofs.ShellLines

/-!
# What ends a shell

A fault ends the shell, and the repository with it. With the default settings
the only line that can do this is `panel`: it reads the names of the files as
markup, so it fails as soon as a file has a name that cannot be read as such.
Every other line prints what it has to print, in every repository that can come
about by typing and on every terminal (`Shell.fault_feed_iff`). A name that can
be read but asks for an impossible colour makes the panel fail where there is
room for the names; on a narrow terminal the part in that colour may be cut off.
The ids of commits are read as markup too, and are taken to have no bracket in
them.
-/

namespace GitPractice

namespace Snapshot

/-- The colours are those of the palette, and the ids are no markup. -/
structure Presentable (s : Snapshot) : Prop where
  colors : ∀ b ∈ s.branches, b.color ∈ branchColors
  ids : ∀ id ∈ s.commitIds, '[' ∉ id.toList

/-- What is shown of a pointer is no markup either. -/
theorem Presentable.no_bracket_of_points {s : Snapshot} (h : s.Presentable) {id : String} (hp : s.Points id) :
    '[' ∉ (shortId id).toList := by
  rw [shortId, Text.take, String.toList_ofList]
  rcases hp with rfl | hp
  · decide
  · exact fun hmem => h.ids id hp (List.mem_of_mem_take hmem)

/-- What the views ask of a repository. -/
structure Viewable (s : Snapshot) : Prop where
  linked : s.WellLinked
  presentable : s.Presentable
  words : ∀ name ∈ s.fileNames, Text.IsWord name

namespace Viewable

open Screen

variable {s : Snapshot} {tm : Terminal}

theorem colored_ofSnapshot (h : s.Viewable) : Colored (Graph.ofSnapshot s) := by
  have hlanes : ∀ l ∈ Graph.lanesOf s, l.color ∈ branchColors := by
    intro l hl
    obtain ⟨b, hb, rfl⟩ := List.mem_map.mp hl
    exact h.presentable.colors b hb
  refine { lanes := hlanes, nodes := fun n hn => ?_ }
  obtain ⟨entry, -, rfl⟩ := List.mem_map.mp hn
  by_cases hne : s.branches = []
  · rw [Graph.nodeOf, Graph.lanesOf, hne]
    exact Or.inl rfl
  · obtain ⟨l, hl, hcolor⟩ := Option.map_eq_some_iff.mp (Graph.color_nodeOf hne entry.1 entry.2)
    exact Or.inr (hcolor ▸ hlanes l (List.mem_of_getElem? hl))

theorem prints_graph (h : s.Viewable) : (drawGraph tm (Graph.ofSnapshot s)).Prints := by
  refine prints_drawGraph h.colored_ofSnapshot fun n hn => ?_
  obtain ⟨entry, hentry, rfl⟩ := List.mem_map.mp hn
  have hc : entry.1 ∈ s.commits := List.fst_mem_of_mem_zipIdx hentry
  exact h.presentable.no_bracket_of_points (Or.inr (List.mem_map_of_mem hc))

/-- The table of files can be drawn. -/
def ListsFiles (tm : Terminal) (s : Snapshot) : Prop :=
  ∃ text, fileTable tm { initialized := true, staged := s.staged, working := s.working } = .ok text

theorem forall_fileNames {P : String → Prop} :
    (∀ f ∈ s.staged ++ s.working, P f.name) ↔ ∀ name ∈ s.fileNames, P name := by
  rw [fileNames, ← List.map_append, List.forall_mem_map]

theorem listsFiles_of_legible (h : ∀ name ∈ s.fileNames, Legible tm name) : ListsFiles tm s :=
  fileTable_ok (forall_fileNames.mpr h)

theorem listsFiles_of_narrow (h : tm.columns < 7) : ListsFiles tm s := ⟨_, table_of_no_room h⟩

theorem marked_of_listsFiles (hroom : 7 ≤ tm.columns) (h : ListsFiles tm s) :
    ∀ name ∈ s.fileNames, ∃ styled, marked tm name = .ok styled := by
  obtain ⟨text, htext⟩ := h
  obtain ⟨_, names, _, -, hnames, -⟩ := read_of_fileTable hroom htext
  refine forall_fileNames.mp fun f hf => ?_
  obtain ⟨styled, -, hmarked⟩ := exists_right_of_forall₂ hnames hf
  exact ⟨styled, hmarked⟩

theorem listsFiles_iff (h : s.Viewable) (hroom : Roomy tm s.fileNames) :
    ListsFiles tm s ↔ ∀ name ∈ s.fileNames, Legible tm name := by
  rw [← forall_fileNames]
  refine fileTable_ok_iff ?_ (forall_fileNames.mpr fun name hname => (h.words name hname).2)
  rwa [List.map_append]

/-- The panel prints if its table of files does, and not otherwise. -/
theorem prints_panel_iff (h : s.Viewable) (recent : Int) :
    (drawStatus tm (StatusPanel.ofSnapshot s recent)).Prints ↔
      (s.initialized = true → s.fileNames ≠ [] → ListsFiles tm s) := by
  cases hi : s.initialized with
  | false =>
    rw [StatusPanel.ofSnapshot, hi, if_neg Bool.false_ne_true, drawStatus]
    exact iff_of_true (Drawing.prints_line tm _) fun h => by cases h
  | true =>
    have hnames : s.staged ++ s.working ≠ [] ↔ s.fileNames ≠ [] := by simp [fileNames]
    rw [StatusPanel.ofSnapshot, hi, if_pos rfl, prints_drawStatus_iff, hnames]
    · exact Iff.rfl
    · intro row hrow
      obtain ⟨b, hb, rfl⟩ := List.mem_map.mp hrow
      have hpoints : s.Points b.commit := h.linked.branches b hb
      exact ⟨h.presentable.colors b hb, h.presentable.no_bracket_of_points hpoints⟩

end Viewable
end Snapshot

/-! ## Views with the default settings -/

namespace Shell

open Screen Drawing

/-- The shell that the default settings make. -/
def fresh (tm : Terminal) : Shell := { settings := Settings.defaults, names := {}, session := {}, terminal := tm }

variable {sh : Shell}

theorem start?_defaults (tm : Terminal) : start? Settings.defaults {} tm = .ok (fresh tm) := rfl

theorem panelView_defaults (tm : Terminal) (s : Snapshot) :
    drawn (((Settings.defaults : Settings).statusPanel s).map (drawStatus tm)) =
      drawStatus tm (StatusPanel.ofSnapshot s) := by
  rw [Settings.statusPanel]
  show drawn ((if s.initialized then _ else _ : Except Fault StatusPanel).map (drawStatus tm)) = _
  split <;> rfl

theorem drawn_ok (d : Drawing) : drawn (.ok d) = d := rfl

/-- The sections that the views look up. -/
def displayFields : Fields :=
  [("recent_commits", .int 3), ("history_limit", .int 10), ("output_preview_chars", .int 100)]

def topicFields : Fields := [("fuzzy_threshold", .int Topic.defaultThreshold)]

theorem section?_display :
    (Settings.defaults : Settings).section? "display" = .ok displayFields := rfl

theorem section?_topics : (Settings.defaults : Settings).section? "topics" = .ok topicFields := rfl

theorem search_subset_catalog (query : String) (threshold : Int) :
    Topic.search query none threshold ⊆ Topic.catalog := by
  intro t ht
  simp only [Topic.search] at ht
  split at ht
  · exact ht
  · obtain ⟨scored, hscored, rfl⟩ := List.mem_map.mp ht
    obtain ⟨hmem, -⟩ := List.mem_filter.mp (List.mem_mergeSort.mp hscored)
    obtain ⟨topic, htopic, rfl⟩ := List.mem_map.mp hmem
    exact htopic

theorem prints_topicView (tm : Terminal) (query : String) : (topicView tm Settings.defaults query).Prints := by
  rw [topicView]
  split
  · next topic hfound =>
    split at hfound
    · cases hfound
    · exact prints_drawTopic (List.mem_of_find?_eq_some hfound)
  · have hthreshold : Settings.threshold
        ((Settings.entry? Settings.defaults topicFields "fuzzy_threshold").getD
          (.int Topic.defaultThreshold)) = .ok Topic.defaultThreshold := rfl
    rw [section?_topics]
    simp only [bind, Except.bind, pure, Except.pure, hthreshold]
    split
    · rw [drawn_ok]
      exact prints_drawTopics (List.Subset.refl _)
    · rw [drawn_ok]
      exact prints_drawTopics (search_subset_catalog query _)

theorem exists_historyPanel (s : Snapshot) (n : Int) :
    ∃ p, (Settings.defaults : Settings).historyPanel displayFields s (.int n) = .ok p := by
  have hlimit (text : String) : Settings.previewLimit
      ((Settings.entry? Settings.defaults displayFields "output_preview_chars").getD (.int 100))
      text = .ok 100 := rfl
  have hcount : Settings.count (.int n) = .ok n := rfl
  have hrows : ∃ rows, (lastEntries n s.history).mapM (fun e : HistoryEntry =>
      (.ok { e with output := preview e.output 100 } : Except Fault HistoryEntry)) = .ok rows ∧
        ∀ row ∈ rows, True :=
    exists_mapM_ok_iff.mpr fun e _ => ⟨_, rfl, trivial⟩
  obtain ⟨rows, hrows, -⟩ := hrows
  refine ⟨{ rows, total := s.history.length }, ?_⟩
  rw [Settings.historyPanel, hcount]
  simp only [hlimit, bind, Except.bind, pure, Except.pure, hrows]

theorem prints_historyView (h : sh.settings = Settings.defaults) (argument : String) :
    (sh.historyView argument).Prints := by
  have hdraw (n : Int) : (drawn (((Settings.defaults : Settings).historyPanel displayFields
      sh.session.snapshot (.int n)).map (drawHistory sh.terminal))).Prints := by
    obtain ⟨p, hp⟩ := exists_historyPanel sh.session.snapshot n
    rw [hp]
    exact prints_drawHistory sh.terminal p
  have hlimit : (Settings.defaults : Settings).historyLimit displayFields = .int 10 := rfl
  rw [historyView, h, section?_display]
  simp only [bind, Except.bind, hlimit]
  split
  · exact hdraw 10
  · split
    · exact hdraw _
    · exact prints_cons.mpr ⟨⟨_, rfl⟩, prints_nil⟩

theorem shownPrompt_ok (h : sh.settings = Settings.defaults) : sh.shownPrompt = .ok sh.prompt := by
  have hcheck : sh.settings.checkPrompt sh.session.snapshot = .ok () := by
    rw [h, Settings.checkPrompt]
    cases sh.session.snapshot.initialized <;> rfl
  rw [shownPrompt, hcheck]
  rfl

/-- Only the panel can fail, and only over the table of files. -/
theorem prints_drawing_iff (h : sh.settings = Settings.defaults)
    (hview : sh.session.snapshot.Viewable) (command : ShellCommand) :
    (sh.drawing command).Prints ↔
      (command = .panel → sh.session.snapshot.initialized = true → sh.session.snapshot.fileNames ≠ [] →
        Snapshot.Viewable.ListsFiles sh.terminal sh.session.snapshot) := by
  cases command with
  | panel =>
    rw [drawing, panelView, h, panelView_defaults, hview.prints_panel_iff]
    exact ⟨fun hp _ => hp, fun hp => hp rfl⟩
  | nothing => exact iff_of_true prints_nil fun hc => by cases hc
  | graph => exact iff_of_true hview.prints_graph fun hc => by cases hc
  | history argument => exact iff_of_true (prints_historyView h argument) fun hc => by cases hc
  | topics query =>
    rw [drawing, h]
    exact iff_of_true (prints_topicView sh.terminal query) fun hc => by cases hc
  | help argument =>
    refine iff_of_true (prints_append.mpr ⟨prints_drawOutcome sh.terminal _, ?_⟩) fun hc => by cases hc
    exact prints_cons.mpr ⟨⟨_, rfl⟩, prints_nil⟩
  | leave =>
    exact iff_of_true (prints_cons.mpr ⟨⟨_, rfl⟩, prints_nil⟩) fun hc => by cases hc
  | endOfInput =>
    refine iff_of_true (prints_cons.mpr ⟨⟨_, rfl⟩, ?_⟩) fun hc => by cases hc
    exact prints_cons.mpr ⟨⟨_, rfl⟩, prints_nil⟩
  | line text => exact iff_of_true (prints_drawOutcome sh.terminal _) fun hc => by cases hc

/-! ## Shells in use -/

/-- Typing lines runs some of them in the session and does nothing else. -/
theorem feedAll_eq (source : Source) (sh : Shell) (lines : List String) :
    ∃ typed, sh.feedAll source lines = { sh with session := sh.session.runAll source typed } :=
  ⟨_, feedAll_eq_runAll source sh lines⟩

theorem viewable_runAll {source : Source} (hids : ∀ n, '[' ∉ (source.ids.nth n).toList)
    (lines : List String) : (Session.runAll source {} lines).snapshot.Viewable := by
  obtain ⟨hlinked, hfiles⟩ := Session.linked_tidy_runAll source lines
  have hpresentable : (Session.runAll source {} lines).snapshot.Presentable :=
    { colors := fun _ hb => (Session.coloredInTurn_runAll source lines).color_mem hb
      ids := Session.forall_commitIds_runAll hids lines }
  exact { linked := hlinked, presentable := hpresentable, words := hfiles.words }

/-- Set up a shell with the default settings on any terminal and type lines, whatever becomes of them.
The prompt can be shown after each of them. A line can end the shell only if it asks for the panel of a
repository in which a file has a name that is not legible. It does if a name cannot be read as markup,
unless the terminal is too narrow for any text in the table of files, and with room for the names it does
whenever one is not legible. -/
theorem fault_feed_iff {source : Source} (hids : ∀ n, '[' ∉ (source.ids.nth n).toList) (tm : Terminal)
    (lines : List String) (line : String) :
    let sh := (fresh tm).feedAll source lines
    let s := sh.session.snapshot
    start? Settings.defaults {} tm = .ok (fresh tm) ∧ sh.shownPrompt = .ok sh.prompt ∧
      ((sh.feed source line).2.fault ≠ none →
        ShellCommand.parse line = .panel ∧ s.initialized = true ∧ 7 ≤ tm.columns ∧
          ∃ name ∈ s.fileNames, ¬ Legible tm name) ∧
      (ShellCommand.parse line = .panel → s.initialized = true → 7 ≤ tm.columns →
        (∃ name ∈ s.fileNames, ¬ ∃ styled, marked tm name = .ok styled) →
          (sh.feed source line).2.fault ≠ none) ∧
      (Roomy tm s.fileNames →
        ((sh.feed source line).2.fault ≠ none ↔
          ShellCommand.parse line = .panel ∧ s.initialized = true ∧
            ∃ name ∈ s.fileNames, ¬ Legible tm name)) := by
  intro sh s
  obtain ⟨typed, htyped⟩ := feedAll_eq source (fresh tm) lines
  have hsettings : sh.settings = Settings.defaults := congrArg Shell.settings htyped
  have hterminal : sh.terminal = tm := congrArg Shell.terminal htyped
  have hview : s.Viewable := by
    have hs : s = (Session.runAll source {} typed).snapshot := congrArg (·.session.snapshot) htyped
    rw [hs]
    exact viewable_runAll hids typed
  have hfault : (sh.feed source line).2.fault ≠ none ↔
      ShellCommand.parse line = .panel ∧ s.initialized = true ∧ s.fileNames ≠ [] ∧
        ¬ Snapshot.Viewable.ListsFiles tm s := by
    have hfed : (sh.feed source line).2.fault = (sh.drawing (ShellCommand.parse line)).print.2 := rfl
    rw [hfed, ne_eq, print_eq_none_iff, prints_drawing_iff hsettings hview, hterminal]
    simp only [Classical.not_imp, s]
  refine ⟨start?_defaults tm, shownPrompt_ok hsettings, fun h => ?_, fun hpanel hi hroom hname => ?_, fun hroom => ?_⟩
  · obtain ⟨hpanel, hi, -, hlists⟩ := hfault.mp h
    refine ⟨hpanel, hi, ?_, ?_⟩
    · by_contra hnarrow
      exact hlists (Snapshot.Viewable.listsFiles_of_narrow (Nat.lt_of_not_le hnarrow))
    · by_contra hall
      simp only [not_exists, not_and, not_not] at hall
      exact hlists (Snapshot.Viewable.listsFiles_of_legible hall)
  · obtain ⟨name, hmem, hname⟩ := hname
    refine hfault.mpr ⟨hpanel, hi, List.ne_nil_of_mem hmem, fun hlists => ?_⟩
    exact hname (Snapshot.Viewable.marked_of_listsFiles hroom hlists name hmem)
  · rw [hfault, hview.listsFiles_iff hroom]
    simp only [not_forall, exists_prop]
    refine and_congr_right fun _ => and_congr_right fun _ => and_iff_right_of_imp ?_
    rintro ⟨name, hmem, -⟩
    exact List.ne_nil_of_mem hmem

/-- A shell in which a file has a name that closes a tag which was never opened. -/
def unopened : Shell := (fresh .usual).feedAll .sample ["git init", "touch [/x]"]

theorem fault_feed_of_numbered :
    (∀ n, '[' ∉ (Source.sample.ids.nth n).toList) ∧ Roomy .usual unopened.session.snapshot.fileNames ∧
      (unopened.feed .sample "panel").2.fault ≠ none ∧
      ∃ name ∈ unopened.session.snapshot.fileNames, ¬ Legible .usual name := by
  have hids : ∀ n, '[' ∉ (Source.sample.ids.nth n).toList := by
    intro n hmem
    rcases IdSource.mem_numbered hmem with h | h <;> cases h
  have hroom : Roomy .usual unopened.session.snapshot.fileNames := by
    have hnames : unopened.session.snapshot.fileNames = ["README.md", "[/x]"] := by decide +kernel
    have hread : marked .usual "README.md" = .ok (Styled.plain "README.md") := by decide +kernel
    have hunread : marked .usual "[/x]" = .error (.markup (.unmatched "/x" 0)) := by decide +kernel
    rw [hnames]
    refine ⟨by decide, fun name hname s hs => ?_⟩
    rcases List.mem_pair.mp hname with rfl | rfl
    · have hwidth : Text.width (Styled.plain "README.md").text + 26 ≤ 80 := by decide +kernel
      cases hread.symm.trans hs
      exact hwidth
    · cases hunread.symm.trans hs
  have hfault : (unopened.feed .sample "panel").2.fault ≠ none := by decide +kernel
  refine ⟨hids, hroom, hfault, ?_⟩
  rw [unopened] at hroom hfault ⊢
  obtain ⟨-, -, -, -, hiff⟩ := fault_feed_iff hids .usual ["git init", "touch [/x]"] "panel"
  exact ((hiff hroom).mp hfault).2.2

/-- The name ends the shell. -/
theorem fault_of_unopenedTag : (unopened.feed .sample "panel").2.fault = some (.markup (.unmatched "/x" 0)) := by
  decide +kernel

end Shell

end GitPractice
